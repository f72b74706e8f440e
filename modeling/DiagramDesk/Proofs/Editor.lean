import DiagramDesk.Editor
import DiagramDesk.Proofs.Text.Document
import DiagramDesk.Proofs.Text.Utf8

/-!
An editor at work. Whatever is done with it, its cursor stays inside the text, on a line that
is there and no further into it than the line is long. Who listens hears of every change of the
text once, and of nothing else, so that the last text heard is the text.
-/
namespace DiagramDesk

open Text

namespace Editor

variable (e : Editor)

/-! ### One operation -/

@[simp] theorem diagnostics_format : e.format.diagnostics = e.diagnostics := by
  unfold format
  split <;> rfl

theorem lineCount_pos : 0 < e.lineCount := by
  obtain ⟨l, ls, hs, -⟩ := exists_documentLines_eq_cons e.text.toList
  rw [lineCount, Text.lineCount, hs]
  exact Nat.succ_pos ls.length

/-- The cursor goes to the start of the line, or of the last line. -/
theorem cursor_scrollToLine (line : Nat) :
    (e.scrollToLine line).cursor = ⟨min (line - 1) (e.lineCount - 1), 0⟩ := by
  simp [scrollToLine, moveTo, moveToLine]

@[simp] theorem text_setText (text : String) : (e.setText text).text = text := rfl

/-- Where nothing is done, the text is as formatting would make it. -/
@[simp] theorem text_format : e.format.text = formatSource e.text := by
  unfold format
  split
  · rfl
  · simp_all [isUnformatted]

/-- Formatting reports a change exactly if there is one. -/
theorem isUnformatted_iff : e.isUnformatted = true ↔ e.format.text ≠ e.text := by
  rw [text_format, isUnformatted, bne_iff_ne]

/-- Everyone who is still there gets the new text. -/
theorem waiting?_changed (i : Nat) :
    e.changed.waiting? i = (e.waiting? i).map (· ++ [e.text]) := by
  simp only [changed, waiting?, List.getElem?_map]
  cases e.subscribers[i]? with
  | none => rfl
  | some s => cases hp : s.present <;> simp [Subscriber.receive, Option.filter, hp]

theorem waiting?_setText (text : String) (i : Nat) :
    (e.setText text).waiting? i = (e.waiting? i).map (· ++ [text]) :=
  waiting?_changed _ i

theorem waiting?_format (i : Nat) (h : e.isUnformatted = true) :
    e.format.waiting? i = (e.waiting? i).map (· ++ [formatSource e.text]) := by
  rw [format, if_pos h]
  exact waiting?_changed _ i

theorem waiting?_take (i : Nat) : (e.take i).waiting? i = (e.waiting? i).map fun _ => [] := by
  simp only [take, waiting?, List.getElem?_modify_eq]
  cases e.subscribers[i]? with
  | none => rfl
  | some s => cases hp : s.present <;> simp [Option.filter, hp]

theorem waiting?_take_of_ne {i j : Nat} (h : i ≠ j) : (e.take i).waiting? j = e.waiting? j := by
  simp only [take, waiting?, List.getElem?_modify_ne _ _ h]

theorem waiting?_unsubscribe_of_ne {i j : Nat} (h : i ≠ j) :
    (e.unsubscribe i).waiting? j = e.waiting? j := by
  simp only [unsubscribe, waiting?, List.getElem?_modify_ne _ _ h]

/-- A newcomer has missed all that was said before, and nothing changes for the others. -/
theorem waiting?_subscribe (i : Nat) :
    e.subscribe.waiting? i = if i = e.subscribers.length then some [] else e.waiting? i := by
  simp only [subscribe, waiting?, List.getElem?_append]
  obtain hlt | rfl | hgt := Nat.lt_trichotomy i e.subscribers.length
  · rw [if_pos hlt, if_neg (Nat.ne_of_lt hlt)]
  · simp [Option.filter]
  · rw [if_neg (by omega), if_neg (by omega), List.getElem?_eq_none (by simp; omega),
      List.getElem?_eq_none (by omega)]

/-! ### Many operations -/

inductive Act where
  | setText (text : String)
  | format
  | scroll (line : Nat)
  | diagnose (marks : List Diagnostic)
  | focus
  | markClean
  | subscribe
  | unsubscribe (i : Nat)
  | take (i : Nat)
  deriving DecidableEq

def act : Act → Editor
  | .setText text => e.setText text
  | .format => e.format
  | .scroll line => e.scrollToLine line
  | .diagnose marks => e.setDiagnostics marks
  | .focus => e.focus
  | .markClean => e.markClean
  | .subscribe => e.subscribe
  | .unsubscribe i => e.unsubscribe i
  | .take i => e.take i

def run (acts : List Act) : Editor := acts.foldl act e

/-- Whether something is a change of the text: a new text always is, and formatting tells by
itself. -/
def Act.changes : Act → Bool
  | .setText _ => true
  | .format => e.isUnformatted
  | _ => false

def told (a : Act) : List String := if a.changes e then [(e.act a).text] else []

def toldBy : Editor → List Act → List String
  | _, [] => []
  | e, a :: acts => e.told a ++ (e.act a).toldBy acts

/-- The texts that a subscriber takes in the course of a run. -/
def heard (i : Nat) : Editor → List Act → List String
  | _, [] => []
  | e, a :: acts => (if a = .take i then (e.waiting? i).getD [] else []) ++ heard i (e.act a) acts

/-! ### The last note of a run -/

section Note

variable {β : Type}

/-- What is noted of each act of a run, in the editor that it is done with. -/
def notedBy (note : Editor → Act → List β) : Editor → List Act → List β
  | _, [] => []
  | e, a :: acts => note e a ++ notedBy note (e.act a) acts

/-- What an editor has to do with the last note, whichever act comes next, it has to do with the
last note of a run. -/
theorem run_noted {note : Editor → Act → List β} {R : Editor → Option β → Prop}
    (hstep : ∀ e r a, R e r → R (e.act a) ((note e a).getLast?.or r)) (acts : List Act)
    {e : Editor} {r : Option β} (h : R e r) :
    R (e.run acts) ((notedBy note e acts).getLast?.or r) := by
  induction acts generalizing e r with
  | nil => exact h
  | cons a acts ih =>
    rw [notedBy, List.getLast?_append, Option.or_assoc]
    exact ih (hstep e r a h)

end Note

variable {e}

/-! ### The cursor -/

/-- The cursor is on a line of the text, within what is ahead of the line feeds and carriage returns
at its end. -/
structure WellPlaced (e : Editor) : Prop where
  line_lt : e.cursor.line < e.lineCount
  col_le : ∃ body ending, (documentLines e.text.toList)[e.cursor.line]? = some (body ++ ending) ∧
    (∀ c ∈ ending, c = '\n' ∨ c = '\r') ∧ (∀ c ∈ body.getLast?, c ≠ '\n' ∧ c ≠ '\r') ∧
    e.cursor.col ≤ (utf8 body).length

/-- Where a cursor may be depends on the text alone. -/
theorem WellPlaced.of_eq {e' : Editor} (h : e.WellPlaced) (ht : e'.text = e.text)
    (hc : e'.cursor = e.cursor) : e'.WellPlaced where
  line_lt := by rw [lineCount, ht, hc]; exact h.line_lt
  col_le := by rw [ht, hc]; exact h.col_le

/-- The bytes of a line are counted up to the line feeds and carriage returns at its end. -/
theorem exists_lineBytes_eq {i : Nat} {line : List Char}
    (h : (documentLines e.text.toList)[i]? = some line) :
    ∃ body ending, line = body ++ ending ∧ (∀ c ∈ ending, c = '\n' ∨ c = '\r') ∧
      (∀ c ∈ body.getLast?, c ≠ '\n' ∧ c ≠ '\r') ∧ e.lineBytes i = (utf8 body).length := by
  set ends : Char → Bool := fun c => c == '\n' || c == '\r' with hends
  refine ⟨dropEndWhile ends line, line.rtakeWhile ends, ?_, ?_, ?_, ?_⟩
  · rw [dropEndWhile_eq_rdropWhile, List.rdropWhile_append_rtakeWhile]
  · intro c hc
    simpa [hends] using List.mem_rtakeWhile_imp hc
  · intro c hc
    obtain ⟨hne, rfl⟩ := List.mem_getLast?_eq_getLast hc
    simpa [hends] using dropEndWhile_getLast line hne
  · rw [lineBytes, h, Option.getD_some, length_utf8]

/-- The cursor goes to a line of the text, and into it as far as it is told from how long the line
is ahead of the line feeds and carriage returns at its end. -/
theorem exists_line_moveToLine (e : Editor) (line : Nat) (col : Nat → Nat) :
    (e.moveToLine line col).cursor.line < e.lineCount ∧
    ∃ body ending, (documentLines e.text.toList)[(e.moveToLine line col).cursor.line]? =
        some (body ++ ending) ∧
      (∀ c ∈ ending, c = '\n' ∨ c = '\r') ∧ (∀ c ∈ body.getLast?, c ≠ '\n' ∧ c ≠ '\r') ∧
      (e.moveToLine line col).cursor.col = col (utf8 body).length := by
  have hpos := e.lineCount_pos
  have hlt : min line (e.lineCount - 1) < (documentLines e.text.toList).length :=
    Nat.lt_of_le_of_lt (Nat.min_le_right _ _) (Nat.sub_one_lt_of_lt hpos)
  have hline := List.getElem?_eq_getElem hlt
  obtain ⟨body, ending, hl, hending, hbody, hbytes⟩ := exists_lineBytes_eq hline
  refine ⟨hlt, body, ending, ?_, hending, hbody, ?_⟩
  · rw [← hl]
    exact hline
  · rw [← hbytes]
    rfl

/-- A column bounded by the length of the line it is put on is good on every line. -/
theorem wellPlaced_moveToLine (e : Editor) (line : Nat) (col : Nat → Nat) (hcol : ∀ n, col n ≤ n) :
    (e.moveToLine line col).WellPlaced := by
  obtain ⟨hlt, body, ending, hline, hending, hbody, hcolumn⟩ := e.exists_line_moveToLine line col
  exact ⟨hlt, body, ending, hline, hending, hbody, hcolumn ▸ hcol _⟩

theorem wellPlaced_ofText (text : String) : (ofText text).WellPlaced :=
  (wellPlaced_moveToLine (ofText text) 0 (fun _ => 0) Nat.zero_le).of_eq rfl (by
    simp [moveToLine, ofText])

theorem WellPlaced.act (h : e.WellPlaced) (a : Act) : (e.act a).WellPlaced := by
  cases a with
  | setText text =>
    exact (wellPlaced_moveToLine { e with text } e.cursor.line _
      (Nat.min_le_right e.cursor.col)).of_eq rfl rfl
  | format =>
    rw [Editor.act, format]
    split
    · exact (wellPlaced_moveToLine { e with text := formatSource e.text } e.cursor.line id
        Nat.le_refl).of_eq rfl rfl
    · exact h
  | scroll line => exact (wellPlaced_moveToLine e (line - 1) _ (Nat.min_le_right 0)).of_eq rfl rfl
  | diagnose | focus | markClean | subscribe | unsubscribe | take => exact h.of_eq rfl rfl

theorem WellPlaced.run (h : e.WellPlaced) (acts : List Act) : (e.run acts).WellPlaced := by
  induction acts generalizing e with
  | nil => exact h
  | cons a acts ih => exact ih (h.act a)

/-! ### What is heard -/

theorem text_act_of_not_changes {a : Act} (h : a.changes e = false) : (e.act a).text = e.text := by
  cases a with
  | setText => cases h
  | format => rw [Editor.act, format, if_neg (by simpa [Act.changes] using h)]
  | _ => rfl

/-- Of those who listen, each is told of a change, and only who takes what is waiting makes it
less. -/
theorem waiting?_act {i : Nat} {w : List String} (h : e.waiting? i = some w) {a : Act}
    (hstay : a ≠ .unsubscribe i) :
    (e.act a).waiting? i = some (if a = .take i then [] else w ++ e.told a) := by
  cases a with
  | setText text => simp [told, Act.changes, act, waiting?_setText, h]
  | format =>
    cases hf : e.isUnformatted with
    | false => simpa [act, told, Act.changes, format, hf] using h
    | true => simp [told, Act.changes, hf, act, waiting?_format e i hf, h]
  | subscribe =>
    have hi : i ≠ e.subscribers.length := by
      rintro rfl
      simp [waiting?] at h
    simpa [told, Act.changes, act, waiting?_subscribe, hi] using h
  | unsubscribe j =>
    have hj : j ≠ i := fun hj => hstay (hj ▸ rfl)
    simpa [told, Act.changes, act, waiting?_unsubscribe_of_ne e hj] using h
  | take j =>
    by_cases hj : j = i
    · subst hj
      simp [act, waiting?_take, h]
    · simpa [told, Act.changes, act, waiting?_take_of_ne e hj, hj] using h
  | scroll | diagnose | focus | markClean =>
    show e.waiting? i = _
    simp [h, told, Act.changes]

/-- What a subscriber has heard and what is waiting for it are together what was waiting before and
what was told since. -/
theorem heard_append_waiting {i : Nat} {w : List String} (h : e.waiting? i = some w)
    {acts : List Act} (hstay : .unsubscribe i ∉ acts) :
    ∃ rest, (e.run acts).waiting? i = some rest ∧ heard i e acts ++ rest = w ++ e.toldBy acts := by
  induction acts generalizing e w with
  | nil => exact ⟨w, h, by simp [heard, toldBy]⟩
  | cons a acts ih =>
    rw [List.mem_cons, not_or] at hstay
    obtain ⟨rest, hrest, hall⟩ := ih (waiting?_act h (Ne.symm hstay.1)) hstay.2
    refine ⟨rest, hrest, ?_⟩
    rw [heard, toldBy, List.append_assoc, hall]
    by_cases ha : a = .take i
    · subst ha
      simp [h, told, Act.changes]
    · simp [ha]

theorem toldBy_eq_notedBy (e : Editor) (acts : List Act) : e.toldBy acts = notedBy told e acts := by
  induction acts generalizing e with
  | nil => rfl
  | cons a acts ih => rw [toldBy, notedBy, ih]

theorem text_act (e : Editor) (r : Option String) (start : String) (a : Act)
    (h : e.text = r.getD start) : (e.act a).text = ((e.told a).getLast?.or r).getD start := by
  cases hc : a.changes e with
  | false => simpa [told, hc, text_act_of_not_changes hc] using h
  | true => simp [told, hc]

/-- The text is the last one that was told, if any was. -/
theorem text_run (e : Editor) (acts : List Act) :
    (e.run acts).text = (e.toldBy acts).getLast?.getD e.text := by
  rw [toldBy_eq_notedBy]
  simpa using run_noted (R := fun e' r => e'.text = r.getD e.text)
    (fun e' r a => text_act e' r e.text a) acts (e := e) (r := none) rfl

/-- From a text on, whatever is done, the cursor is inside the text, and who subscribes is told
every change of the text once and nothing else, as long as it stays. -/
theorem run_ofText (text : String) (acts : List Act) :
    let e := (ofText text).run acts
    e.WellPlaced ∧ (e.isUnformatted = true ↔ e.format.text ≠ e.text) ∧
    ∀ later : List Act, .unsubscribe e.subscribers.length ∉ later →
      ∃ rest, (e.subscribe.run later).waiting? e.subscribers.length = some rest ∧
        heard e.subscribers.length e.subscribe later ++ rest = e.subscribe.toldBy later ∧
        (e.subscribe.run later).text = (e.subscribe.toldBy later).getLast?.getD e.text := by
  intro e
  refine ⟨(wellPlaced_ofText text).run acts, e.isUnformatted_iff, fun later hstay => ?_⟩
  have hnew : e.subscribe.waiting? e.subscribers.length = some [] := by simp [waiting?_subscribe]
  obtain ⟨rest, hrest, hall⟩ := heard_append_waiting hnew hstay
  exact ⟨rest, hrest, by simpa using hall, text_run e.subscribe later⟩

theorem formatted_twice_told_once :
    let e := (ofText "graph TD\nA-->B").run [.scroll 2]
    let later : List Act := [.format, .take 0, .format]
    (.unsubscribe e.subscribers.length ∉ later ∧
      e.subscribe.toldBy later = ["graph TD\n    A-->B\n"]) ∧
    ∃ rest, (e.subscribe.run later).waiting? e.subscribers.length = some rest ∧
      heard e.subscribers.length e.subscribe later ++ rest = e.subscribe.toldBy later ∧
      (e.subscribe.run later).text = (e.subscribe.toldBy later).getLast?.getD e.text := by
  intro e later
  have hstay : .unsubscribe e.subscribers.length ∉ later := by decide
  have htold : e.subscribe.toldBy later = ["graph TD\n    A-->B\n"] := by decide +kernel
  have hheard := (run_ofText "graph TD\nA-->B" [.scroll 2]).2.2 later hstay
  exact ⟨⟨hstay, htold⟩, hheard⟩

end Editor

end DiagramDesk
