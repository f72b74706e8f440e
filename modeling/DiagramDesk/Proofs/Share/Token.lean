import Mathlib.Data.List.Basic
import DiagramDesk.Codec.Packing
import DiagramDesk.Share.Token
import DiagramDesk.Proofs.Codec.Base64

/-!
What becomes of a source that is made into a token and read again. A token uses
the symbols of links only. Its stream is expanded if the source fits the room
that the length of the stream gives; then the source comes back. Otherwise the
bytes of the stream stand for themselves, and they are never text.
-/
namespace DiagramDesk.Token

open Text

/-- The symbols of links: letters and digits, the hyphen and the low line. -/
def isLinkSymbol (c : Char) : Bool :=
  ('A' ≤ c && c ≤ 'Z') || ('a' ≤ c && c ≤ 'z') || ('0' ≤ c && c ≤ '9') || c == '-' || c == '_'

theorem isLinkSymbol_symbol : ∀ v < 64, isLinkSymbol (Base64.symbol .urlSafe v) = true := by
  decide

theorem normalizeChar_symbol (alphabet : Base64.Alphabet) :
    ∀ v < 64, normalizeChar (Base64.symbol alphabet v) = some (Base64.symbol .urlSafe v) := by
  cases alphabet <;> decide

theorem isLinkSymbol_of_mem_encode (bytes : List UInt8) :
    ∀ c ∈ Base64.encode .urlSafe bytes, isLinkSymbol c = true := by
  intro c hc
  obtain ⟨v, hv, rfl⟩ := List.mem_map.mp hc
  exact isLinkSymbol_symbol v (Base64.sextets_lt bytes v hv)

theorem normalize_append (s t : List Char) : normalize (s ++ t) = normalize s ++ normalize t :=
  List.filterMap_append

/-- The normal form of either alphabet is the one for links. -/
theorem normalize_encode (alphabet : Base64.Alphabet) (bytes : List UInt8) :
    normalize (Base64.encode alphabet bytes) = Base64.encode .urlSafe bytes := by
  rw [normalize, Base64.encode, List.filterMap_map, Base64.encode]
  exact List.filterMap_eq_map_iff_forall_eq_some.mpr fun v hv =>
    normalizeChar_symbol alphabet v (Base64.sextets_lt bytes v hv)

/-- Reading looks at the normal form only. -/
theorem decode_congr {t u : String} (h : normalize t.toList = normalize u.toList) :
    decode t = decode u := by
  rw [decode, decode, payload, payload, h]

theorem encode_ne_nil (bytes : List UInt8) (h : bytes ≠ []) :
    Base64.encode .urlSafe bytes ≠ [] := by
  intro he
  have hd := Base64.decode_encode .urlSafe bytes
  rw [he] at hd
  exact h (Except.ok.inj hd).symm

/-- A token of some bytes stands for what they expand to, or else for themselves. -/
theorem payload_encode (bytes : List UInt8) (h : bytes ≠ []) :
    payload (Base64.encode .urlSafe bytes) = .ok ((Zlib.expand? bytes).getD bytes) := by
  simp [payload, normalize_encode, encode_ne_nil bytes h, Base64.decode_encode]

theorem decode_ofList_encode (bytes : List UInt8) (h : bytes ≠ []) :
    decode (String.ofList (Base64.encode .urlSafe bytes)) =
      match ofUtf8? ((Zlib.expand? bytes).getD bytes) with
      | some text => .ok text
      | none => .error (.utf8 ((utf8Fault? ((Zlib.expand? bytes).getD bytes)).getD ⟨0, none⟩)) := by
  have hp := payload_encode bytes h
  cases hu : ofUtf8? ((Zlib.expand? bytes).getD bytes) with
  | none => simp [decode, hp, hu]
  | some text => simp [decode, hp, hu]

/-! ### Streams -/

/-- Whoever wrote the stream, its source comes back exactly if it fits. -/
theorem decode_stream_iff (source : String) (stream : List UInt8)
    (h : Zlib.decompress? stream = some (utf8 source.toList)) :
    decode (String.ofList (Base64.encode .urlSafe stream)) = .ok source ↔
      (utf8 source.toList).length ≤ Zlib.room stream.length := by
  have hne : stream ≠ [] := by
    rintro rfl
    simp [Zlib.decompress?] at h
  rw [decode_ofList_encode stream hne, Zlib.expand?_of_decompress? stream _ h]
  by_cases hfit : (utf8 source.toList).length ≤ Zlib.room stream.length
  · simp [hfit]
  · simp only [if_neg hfit, Option.getD_none]
    refine ⟨fun he => ?_, fun hf => absurd hf hfit⟩
    -- A stream that is its own content would be as long as it, and so would fit.
    have hself : stream = utf8 source.toList := by
      cases ho : ofUtf8? stream with
      | none => simp [ho] at he
      | some text =>
        simp only [ho, Except.ok.injEq] at he
        exact (ofUtf8?_eq_some_iff stream source).mp (by rw [ho, he])
    rw [← hself]
    simp only [Zlib.room]
    omega

/-- Behind the first byte of a header, no text goes on. -/
theorem ofUtf8?_header (rest : List UInt8) : ofUtf8? (0x78 :: 0x9C :: rest) = none := by
  have hx := ofUtf8?_isNone_cons 'x' (0x9C :: rest) (by decide)
  rw [ofUtf8?_continuation 0x9C rest (by decide)] at hx
  exact Option.isNone_iff_eq_none.mp hx

theorem utf8Fault?_header (rest : List UInt8) :
    utf8Fault? (0x78 :: 0x9C :: rest) = some ⟨1, some 1⟩ := by
  have h₁ : sequenceFault 0x78 (0x9C :: rest) = none := rfl
  have h₂ : sequenceFault 0x9C rest = some (some 1) := rfl
  have h₃ : sequenceShape 0x78 = some (0, 0, 0) := rfl
  rw [utf8Fault?, utf8FaultFrom]
  simp only [h₁, h₃, Option.map_some, Option.getD_some, List.drop_zero]
  rw [utf8FaultFrom]
  simp only [h₂]

/-- What reading makes of the token of a source. -/
theorem decode_encode_eq (z : Zlib.Compressor) (source : String) :
    decode (encode z source) =
      if (utf8 source.toList).length ≤ Zlib.room (z.compress (utf8 source.toList)).length then
        .ok source
      else .error (.utf8 ⟨1, some 1⟩) := by
  have hc := z.decompress?_compress (utf8 source.toList)
  by_cases hfit : (utf8 source.toList).length ≤ Zlib.room (z.compress (utf8 source.toList)).length
  · rw [if_pos hfit]
    exact (decode_stream_iff source _ hc).mpr hfit
  · obtain ⟨rest, hrest⟩ := z.exists_compress_eq (utf8 source.toList)
    rw [if_neg hfit, encode, decode_ofList_encode _ (by rw [hrest]; simp),
      Zlib.expand?_of_decompress? _ _ hc, if_neg hfit, Option.getD_none, hrest,
      ofUtf8?_header, utf8Fault?_header]
    rfl

/-- A token uses the symbols of links only. Whatever compressor wrote it, it gives its source back
exactly if the source fits the room of its stream; the token of a source that does not fit is
refused as no text. Other streams that hold the source, with whatever header, give it back under the
same condition. -/
theorem round_trip_within_room (z : Zlib.Compressor) (source : String) :
    (∀ c ∈ (encode z source).toList, isLinkSymbol c = true) ∧
    (decode (encode z source) =
      if (utf8 source.toList).length ≤ Zlib.room (z.compress (utf8 source.toList)).length then
        .ok source
      else .error (.utf8 ⟨1, some 1⟩)) ∧
    ∀ stream, Zlib.decompress? stream = some (utf8 source.toList) →
      (decode (String.ofList (Base64.encode .urlSafe stream)) = .ok source ↔
        (utf8 source.toList).length ≤ Zlib.room stream.length) := by
  refine ⟨?_, decode_encode_eq z source, fun stream h => decode_stream_iff source stream h⟩
  intro c hc
  rw [encode, String.toList_ofList] at hc
  exact isLinkSymbol_of_mem_encode _ c hc

/-- A stream from elsewhere that holds a short diagram. -/
def flowchartStream : List UInt8 :=
  [0x78, 0x9C, 0x4B, 0x2F, 0x4A, 0x2C, 0xC8, 0x50, 0x08, 0x71, 0xE1, 0x72, 0xD4, 0xD5, 0xB5, 0x73,
   0x02, 0x00, 0x21, 0xFC, 0x03, 0xF0]

theorem flowchartStream_round_trip :
    Zlib.decompress? flowchartStream = some (utf8 "graph TD\nA-->B".toList) ∧
    decode (String.ofList (Base64.encode .urlSafe flowchartStream)) = .ok "graph TD\nA-->B" := by
  have h : Zlib.decompress? flowchartStream = some (utf8 "graph TD\nA-->B".toList) := by
    decide +kernel
  have hfits : (utf8 "graph TD\nA-->B".toList).length ≤ Zlib.room flowchartStream.length := by
    decide +kernel
  exact ⟨h, ((round_trip_within_room Zlib.packer "graph TD\nA-->B").2.2 flowchartStream h).mpr hfits⟩

/-! ### A run of letters -/

theorem utf8_replicate (n : Nat) : utf8 (List.replicate n 'x') = List.replicate n 0x78 := by
  induction n with
  | zero => rfl
  | succ n ih =>
    rw [List.replicate_succ, utf8_cons, ih]
    rfl

/-- A text that is much longer than what is written of it. -/
def manyLetters : String := String.ofList (List.replicate 500 'x')

theorem utf8_manyLetters : utf8 manyLetters.toList = List.replicate 500 0x78 :=
  (congrArg utf8 String.toList_ofList).trans (utf8_replicate 500)

/-- Two letters and two copies, in a code of their own. -/
def manyLettersStream : List UInt8 :=
  [0x78, 0x9C, 0xED, 0xC0, 0x01, 0x01, 0x00, 0x00, 0x00, 0x40, 0xA0, 0xDB, 0xE6, 0x1B, 0x42, 0xB0,
   0x1A, 0x01, 0x66, 0x4F, 0xEA, 0x61]

/-- A copy from one byte back repeats the last byte. -/
theorem appendCopy_replicate (b : UInt8) (k n : Nat) :
    Piece.appendCopy 1 n (Array.replicate (k + 1) b) = Array.replicate (k + 1 + n) b := by
  induction n generalizing k with
  | zero => rfl
  | succ n ih =>
    have hlast : (Array.replicate (k + 1) b)[(Array.replicate (k + 1) b).size - 1]?.getD 0 = b := by
      simp
    rw [Piece.appendCopy, hlast, ← Array.replicate_succ, ih (k + 1)]
    congr 1
    omega

theorem resolve?_manyLetters :
    Piece.resolve? #[] [.literal 0x78, .literal 0x78, .copy 258 1, .copy 240 1] =
      some (Array.replicate 500 0x78) := by
  have hfirst := appendCopy_replicate 0x78 1 258
  have hsecond := appendCopy_replicate 0x78 259 240
  have htwo : (#[].push 0x78).push 0x78 = Array.replicate (1 + 1) (0x78 : UInt8) := rfl
  simp only [Piece.resolve?, htwo, Array.size_replicate, hfirst, hsecond]
  rfl

theorem compress_manyLetters :
    Zlib.packer.compress (utf8 manyLetters.toList) = manyLettersStream := by
  have hsum : Zlib.checksum (List.replicate 500 0x78) = [0x66, 0x4F, 0xEA, 0x61] := by
    decide +kernel
  have hblock : Zlib.packedBlock? (List.replicate 500 0x78) =
      some ((manyLettersStream.drop 2).take 16) := by
    decide +kernel
  have hread : Deflate.read? (Bits.ofBytes (manyLettersStream.drop 2)) =
      some ([.literal 0x78, .literal 0x78, .copy 258 1, .copy 240 1],
        (Bits.ofBytes (manyLettersStream.drop 17)).drop 1) := by
    decide +kernel
  have hend : Bits.align ((Bits.ofBytes (manyLettersStream.drop 17)).drop 1) =
      Bits.ofBytes [0x66, 0x4F, 0xEA, 0x61] := by
    decide +kernel
  have hbytes : (Array.replicate 500 (0x78 : UInt8)).toList = List.replicate 500 0x78 :=
    Array.toList_replicate
  have hstream := Zlib.decompress?_of_read hread resolve?_manyLetters (by rw [hend, hbytes, hsum])
  rw [hbytes] at hstream
  rw [utf8_manyLetters, Zlib.packer_compress hblock, hsum]
  · rfl
  · rw [hsum]
    exact hstream

/-- Five hundred times the same letter is too much for its stream. -/
theorem run_of_letters_lost :
    decode (encode Zlib.packer manyLetters) = .error (.utf8 ⟨1, some 1⟩) := by
  rw [decode_encode_eq, compress_manyLetters, utf8_manyLetters, List.length_replicate]
  exact if_neg (by decide)

end DiagramDesk.Token
