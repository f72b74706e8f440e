import DiagramDesk.Text.Character

/-! Text as UTF-8 bytes, and where bytes stop being text. -/
namespace DiagramDesk.Text

def utf8 (s : List Char) : List UInt8 := s.flatMap String.utf8EncodeChar

def ofUtf8? (bytes : List UInt8) : Option String := String.fromUTF8? ⟨bytes.toArray⟩

/-- The first place where bytes are not UTF-8: how many bytes before it are text, and the length
of the sequence that cannot be continued, or none if the bytes end inside a sequence. -/
structure Utf8Fault where
  validUpTo : Nat
  length : Option Nat
  deriving DecidableEq, Repr

def Utf8Fault.message (f : Utf8Fault) : String :=
  match f.length with
  | some n => s!"invalid utf-8 sequence of {n} bytes from index {f.validUpTo}"
  | none => s!"incomplete utf-8 byte sequence from index {f.validUpTo}"

def isContinuation (b : UInt8) : Bool := 0x80 ≤ b && b ≤ 0xBF

/-- How many bytes follow a leading byte, and the range of the first of them: it shuts out
overlong forms, surrogates and values past the last code point. -/
def sequenceShape (b : UInt8) : Option (Nat × UInt8 × UInt8) :=
  if b < 0x80 then some (0, 0, 0)
  else if 0xC2 ≤ b && b ≤ 0xDF then some (1, 0x80, 0xBF)
  else if b == 0xE0 then some (2, 0xA0, 0xBF)
  else if b == 0xED then some (2, 0x80, 0x9F)
  else if 0xE1 ≤ b && b ≤ 0xEF then some (2, 0x80, 0xBF)
  else if b == 0xF0 then some (3, 0x90, 0xBF)
  else if 0xF1 ≤ b && b ≤ 0xF3 then some (3, 0x80, 0xBF)
  else if b == 0xF4 then some (3, 0x80, 0x8F)
  else none

/-- Why the sequence at the head is broken: the length of the part that is well formed, or none
if the bytes end too early. No answer means the sequence is whole. -/
def sequenceFault (b : UInt8) (rest : List UInt8) : Option (Option Nat) :=
  match sequenceShape b with
  | none => some (some 1)
  | some (0, _, _) => none
  | some (n + 1, lo, hi) =>
    match rest with
    | [] => some none
    | c :: more =>
      if lo ≤ c && c ≤ hi then
        let good := ((more.take n).takeWhile isContinuation).length
        if good == n then none
        else if more.length == good then some none
        else some (some (good + 2))
      else some (some 1)

/-- The first fault of a byte string, whose head has index `start`. -/
def utf8FaultFrom (start : Nat) : List UInt8 → Option Utf8Fault
  | [] => none
  | b :: rest =>
    match sequenceFault b rest with
    | some length => some ⟨start, length⟩
    | none =>
      let n := ((sequenceShape b).map (·.1)).getD 0
      utf8FaultFrom (start + n + 1) (rest.drop n)
termination_by bytes => bytes.length
decreasing_by simp only [List.length_drop, List.length_cons]; omega

def utf8Fault? (bytes : List UInt8) : Option Utf8Fault := utf8FaultFrom 0 bytes

/-- The text of a byte string in which every broken sequence stands as one replacement
character. -/
def utf8Lossy : List UInt8 → List Char
  | [] => []
  | b :: rest =>
    match sequenceFault b rest with
    | some none => ['\uFFFD']
    | some (some n) => '\uFFFD' :: utf8Lossy (rest.drop (n - 1))
    | none =>
      let n := ((sequenceShape b).map (·.1)).getD 0
      ((ofUtf8? (b :: rest.take n)).map String.toList).getD [] ++ utf8Lossy (rest.drop n)
termination_by bytes => bytes.length
decreasing_by all_goals simp only [List.length_drop, List.length_cons]; omega

end DiagramDesk.Text
