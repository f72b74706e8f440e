import DiagramDesk.Proofs.Flags.Concatenation

/-!
A file of defaults line by line. A choice at the end of a line waits for the next token, wherever
that stands, so a line is read on its own only if the lines ahead of it leave nothing waiting. Then
the flags of the file are those of its lines, merged in their order.
-/
namespace DiagramDesk.Flags

open Text

/-! ### Lines of tokens -/

/-- The flags that a line gives, the first token of which belongs to the choice that waits, if one
does. -/
def lineFlags : Option Choice → List String → Flags
  | some c, v :: rest => (({} : Flags).choose c v).merge (ofTokens rest)
  | _, tokens => ofTokens tokens

def waitingBehind : Option Choice → List String → Option Choice
  | some c, [] => some c
  | some _, _ :: rest => waiting? rest
  | none, tokens => waiting? tokens

def readLines : Option Choice → List (List String) → List Flags
  | _, [] => []
  | w, line :: ls => lineFlags w line :: readLines (waitingBehind w line) ls

def mergeAll (fs : List Flags) : Flags := fs.foldl merge {}

@[simp] theorem mergeAll_nil : mergeAll [] = {} := rfl

theorem foldl_merge (f : Flags) (fs : List Flags) : fs.foldl merge f = f.merge (mergeAll fs) := by
  induction fs generalizing f with
  | nil => exact f.merge_empty.symm
  | cons g fs ih => rw [mergeAll, List.foldl_cons, List.foldl_cons, ih, ih (merge {} g),
      empty_merge, merge_assoc]

@[simp] theorem mergeAll_cons (f : Flags) (fs : List Flags) :
    mergeAll (f :: fs) = f.merge (mergeAll fs) := by
  rw [mergeAll, List.foldl_cons, foldl_merge, empty_merge]

@[simp] theorem ofTokens_nil : ofTokens [] = {} := by rw [ofTokens, scan]

@[simp] theorem lineFlags_nil (w : Option Choice) : lineFlags w [] = {} := by
  cases w <;> exact ofTokens_nil

theorem lineFlags_none (line : List String) : lineFlags none line = ofTokens line := by
  cases line <;> rfl

/-- What stands behind some tokens is read with the choice that they leave waiting. -/
theorem ofTokens_append_eq (a b : List String) :
    ofTokens (a ++ b) = (ofTokens a).merge (lineFlags (waiting? a) b) := by
  cases hwaiting : waiting? a with
  | none => rw [ofTokens_append b hwaiting, lineFlags_none]
  | some c =>
    cases b with
    | nil => rw [List.append_nil, lineFlags_nil, merge_empty]
    | cons v b => rw [ofTokens_append_cons v b hwaiting, choose_eq_merge, merge_assoc, lineFlags]

theorem lineFlags_append (w : Option Choice) (line rest : List String) :
    lineFlags w (line ++ rest) =
      (lineFlags w line).merge (lineFlags (waitingBehind w line) rest) := by
  cases w with
  | none => rw [lineFlags_none, lineFlags_none, ofTokens_append_eq, waitingBehind]
  | some c =>
    cases line with
    | nil => rw [List.nil_append, lineFlags_nil, empty_merge, waitingBehind]
    | cons v line =>
      rw [List.cons_append, lineFlags, lineFlags, ofTokens_append_eq, merge_assoc, waitingBehind]

/-- Lines read in one go are read one after the other, each with the choice that waits there. -/
theorem lineFlags_flatten (w : Option Choice) (ls : List (List String)) :
    lineFlags w ls.flatten = mergeAll (readLines w ls) := by
  induction ls generalizing w with
  | nil => exact lineFlags_nil w
  | cons line ls ih => rw [List.flatten_cons, lineFlags_append, ih, readLines, mergeAll_cons]

/-- No line that says something stands behind one that leaves a choice waiting. -/
def NoneTaken (ls : List (List String)) : Prop :=
  ls.Pairwise fun line later => waiting? line = none ∨ later = []

instance (ls : List (List String)) : Decidable (NoneTaken ls) :=
  inferInstanceAs (Decidable (ls.Pairwise _))

theorem readLines_eq_map {w : Option Choice} {ls : List (List String)}
    (hw : ∀ line ∈ ls, w = none ∨ line = []) (h : NoneTaken ls) :
    readLines w ls = ls.map ofTokens := by
  induction ls generalizing w with
  | nil => rfl
  | cons line ls ih =>
    obtain ⟨hline, hls⟩ := List.pairwise_cons.mp h
    rw [List.forall_mem_cons] at hw
    obtain ⟨rfl | rfl, hw⟩ := hw
    · rw [readLines, lineFlags_none, waitingBehind, ih hline hls, List.map_cons]
    · cases w with
      | none => rw [readLines, lineFlags_none, waitingBehind, ih hline hls, List.map_cons]
      | some c =>
        rw [readLines, lineFlags_nil, waitingBehind, ih hw hls, List.map_cons, ofTokens_nil]

/-! ### Text -/

def tokenLines (text : String) : List (List String) := (Text.lines text.toList).map lineTokens

theorem flatten_tokenLines (text : String) : (tokenLines text).flatten = tokensOf text := by
  rw [tokensOf_eq, tokenLines, List.flatMap]

theorem lineTokens_append_return (line : List Char) :
    lineTokens (line ++ ['\r']) = lineTokens line := by
  have htrim : trim (line ++ ['\r']) = trim line := by
    rw [← trim_trimEnd (line ++ _), trimEnd_append_blank line _ (by decide), trim_trimEnd]
  rw [lineTokens, lineTokens, htrim]

/-- The tokens of two texts with a line feed between them are those of the texts. -/
theorem flatMap_lineTokens_append (front s : List Char) :
    (Text.lines (front ++ '\n' :: s)).flatMap lineTokens =
      (Text.lines front).flatMap lineTokens ++ (Text.lines s).flatMap lineTokens := by
  have hfirst (l r : List Char) (hl : '\n' ∉ l) :
      (Text.lines (l ++ '\n' :: r)).flatMap lineTokens =
        lineTokens l ++ (Text.lines r).flatMap lineTokens := by
    obtain ⟨line, hlines, rfl | rfl⟩ := exists_lines_append_feed l r hl
    · rw [hlines, List.flatMap_cons]
    · rw [hlines, List.flatMap_cons, lineTokens_append_return]
  induction h : front.length using Nat.strong_induction_on generalizing front with
  | h n ih =>
    by_cases hfeed : '\n' ∈ front
    · obtain ⟨l, rest, rfl, hl⟩ := List.eq_append_cons_of_mem hfeed
      have hrest := ih rest.length (by rw [← h]; simp; omega) rest rfl
      rw [List.append_assoc, List.cons_append, hfirst l _ hl, hfirst l _ hl, hrest,
        List.append_assoc]
    · rw [hfirst front s hfeed]
      cases front with
      | nil => rfl
      | cons c front => rw [lines_of_feed_not_mem _ hfeed (List.cons_ne_nil c front)]; simp

theorem tokensOf_append_feed (head behind : String) :
    tokensOf (head ++ "\n" ++ behind) = tokensOf head ++ tokensOf behind := by
  have hfeed : (head ++ "\n" ++ behind).toList = head.toList ++ '\n' :: behind.toList := by simp
  rw [tokensOf_eq, tokensOf_eq, tokensOf_eq, hfeed, flatMap_lineTokens_append]

/-- What a text leaves waiting is what tells whether other text may be put behind it. -/
theorem ofText_append_feed_iff (head : String) :
    (∀ behind, ofText (head ++ "\n" ++ behind) = (ofText head).merge (ofText behind)) ↔
      waiting? (tokensOf head) = none := by
  constructor
  · intro h
    cases hwaiting : waiting? (tokensOf head) with
    | none => rfl
    | some c =>
      obtain ⟨s, hs⟩ := exists_hidden hwaiting
      have hword : tokensOf s.word = [s.word] := by cases s <;> decide +kernel
      have happend := h s.word
      rw [ofText, tokensOf_append_feed, ofText, ofText, hword] at happend
      exact absurd happend hs
  · intro h behind
    rw [ofText, tokensOf_append_feed, ofTokens_append _ h, ofText, ofText]

/-! ### Files -/

/-- The flags of a text whose lines are read each on its own. -/
def byLine (text : String) : Flags := mergeAll ((tokenLines text).map ofTokens)

/-- A file gives the flags of its lines in their order, where a line is read with the choice that
the lines ahead of it leave waiting. So each line counts as it would on its own if no choice takes
a token of another line; and a text can have any lines put behind it without a change to their
flags exactly if it leaves nothing waiting. -/
theorem load_by_lines (files : FileTree) (path text : String)
    (h : files.readText path = .ok text) :
    load files path = .ok (mergeAll (readLines none (tokenLines text))) ∧
    (NoneTaken (tokenLines text) → load files path = .ok (byLine text)) ∧
    ∀ head, (∀ behind, ofText (head ++ "\n" ++ behind) = (ofText head).merge (ofText behind)) ↔
      waiting? (tokensOf head) = none := by
  have hread : load files path = .ok (mergeAll (readLines none (tokenLines text))) := by
    rw [load_of_readText h, ← lineFlags_flatten, flatten_tokenLines, lineFlags_none, ofText]
  refine ⟨hread, fun htaken => ?_, ofText_append_feed_iff⟩
  rw [hread, readLines_eq_map (fun _ _ => .inl rfl) htaken, byLine]

def lone (text : String) : FileTree := ⟨[(["rc"], .file (.ofText text))]⟩

/-- A file with a remark, blank lines, and a choice without a value on its last line. -/
theorem commented_file_by_lines :
    let text := "\n# comment\n--classic\n\n--theme forest\n--render-debug-log=render.log\n--seed\n\n"
    (lone text).readText "rc" = .ok text ∧ NoneTaken (tokenLines text) ∧
      load (lone text) "rc" = .ok (byLine text) ∧
      byLine text =
        { look := some .classic, theme := some .forest, debugLog := some "render.log" } := by
  intro text
  have hread : (lone text).readText "rc" = .ok text := by decide +kernel
  have htaken : NoneTaken (tokenLines text) := by decide +kernel
  obtain ⟨-, hlines, -⟩ := load_by_lines (lone text) "rc" text hread
  exact ⟨hread, htaken, hlines htaken, by decide +kernel⟩

/-- A theme without a name takes the switch on the next line for its name, and neither counts. -/
theorem next_line_taken :
    let text := "--theme\n--classic\n"
    (lone text).readText "rc" = .ok text ∧ load (lone text) "rc" = .ok {} ∧
      byLine text = { look := some .classic } ∧ load (lone text) "rc" ≠ .ok (byLine text) := by
  decide +kernel

end DiagramDesk.Flags
