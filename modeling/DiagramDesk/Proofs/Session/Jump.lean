import DiagramDesk.Export.Standard
import DiagramDesk.Proofs.Session.Coherence
import DiagramDesk.Proofs.Diagnostic

/-!
From a panel to the line it names. The panel keeps the line as it was reported, the
mark and the cursor each look for it in the text. As long as the text has that line
they find the same one; of a line past the end the mark makes the first and the
cursor the last.
-/
namespace DiagramDesk

open Text

namespace Session

/-- Taking in what was sent leaves alone what the editor shows. -/
theorem editor_drainEdits (s : Session) :
    s.drainEdits.editor = s.editor ∨ s.drainEdits.editor = s.editor.take 0 := by
  unfold drainEdits
  split
  · exact .inr rfl
  · exact .inl rfl

end Session

namespace Studio

def Event.message? : Event → Option Message
  | .update m | .dispatch m => some m
  | .save => none

/-- A studio with the text that the newest result put on screen was made from. -/
structure Traced where
  studio : Studio
  origin : Option String := none

namespace Traced

def step (engine : Engine) (t : Traced) (e : Event) : Traced where
  studio := t.studio.step engine e
  origin := match e.message? with
    | some (.renderFinished r) =>
      if t.studio.session.pipeline.isLatest r then some r.source else t.origin
    | _ => t.origin

def run (engine : Engine) (t : Traced) (events : List Event) : Traced :=
  events.foldl (step engine) t

/-- A panel on screen and the mark in the editor tell of the same failure, one in the text that is
remembered. -/
def Faithful (t : Traced) : Prop :=
  ∀ panel, t.studio.session.screen.content = .error panel → ∃ source, t.origin = some source ∧
    t.studio.session.screen.marks = [Diagnostic.ofFailure source panel.line panel.message]

end Traced

theorem screen_save (d : Studio) : d.save.session.screen = d.session.screen := by
  unfold save
  split <;> rfl

theorem screen_step (engine : Engine) (d : Studio) (e : Event) :
    (d.step engine e).session.screen =
      (e.message?.map d.session.screenAfter).getD d.session.screen := by
  cases e with
  | update m => exact Session.screen_update d.session m
  | dispatch m => exact screen_dispatch engine d m
  | save => exact screen_save d

namespace Traced

variable {t : Traced}

theorem Faithful.step (h : t.Faithful) (engine : Engine) (e : Event) :
    (t.step engine e).Faithful := by
  intro panel hpanel
  simp only [Traced.step, screen_step] at hpanel ⊢
  cases hm : e.message? with
  | none =>
    rw [hm] at hpanel
    exact h panel hpanel
  | some m =>
    rw [hm] at hpanel
    cases m with
    | renderFinished r =>
      simp only [Option.map_some, Option.getD_some, Session.screenAfter, Pipeline.isLatest,
        decide_eq_true_eq] at hpanel ⊢
      by_cases hl : t.studio.session.pipeline.latest = some r.ticket
      · rw [if_pos hl] at hpanel ⊢
        rw [if_pos hl]
        refine ⟨r.source, rfl, ?_⟩
        unfold Screen.ofResult at hpanel ⊢
        cases ho : r.outcome with
        | failure f =>
          rw [ho] at hpanel
          cases hpanel
          rfl
        | empty | success => rw [ho] at hpanel; cases hpanel
      · rw [if_neg hl] at hpanel ⊢
        rw [if_neg hl]
        exact h panel hpanel
    | dismissError =>
      -- Once the panel is closed there is none.
      simp only [Option.map_some, Option.getD_some, Session.screenAfter] at hpanel
      cases hc : t.studio.session.screen.content <;> rw [hc] at hpanel <;> cases hpanel
    | _ => exact h panel hpanel

theorem Faithful.run (h : t.Faithful) (engine : Engine) (events : List Event) :
    (t.run engine events).Faithful := by
  induction events generalizing t with
  | nil => exact h
  | cons e events ih => exact ih (h.step engine e)

theorem faithful_start (p : SessionPlan) (host : Host) :
    Faithful { studio := { session := .start p, host } } := by
  intro panel hpanel
  cases hpanel

end Traced

/-- What the editor is after the jump: on its line, and as before in all that is asked here. -/
theorem editor_jump (engine : Engine) (d : Studio) {panel : ErrorPanel} {n : Nat}
    (hpanel : d.session.preview.content = .error panel) (hn : panel.line = some n) :
    let editor := (d.dispatch engine .jumpToError).session.editor
    editor.text = d.session.editor.text ∧ editor.diagnostics = d.session.editor.diagnostics ∧
    editor.cursor = ⟨min (n - 1) (d.session.editor.lineCount - 1), 0⟩ ∧
    editor.topLine = editor.cursor.line := by
  have hjump : jumpToError d.session.preview d.session.editor =
      some (d.session.editor.scrollToLine n).focus := by
    simp [jumpToError, Preview.error?, hpanel, hn]
  have hcursor := d.session.editor.cursor_scrollToLine n
  have hdispatch : (d.dispatch engine .jumpToError).session =
      ({ d.session with
        editor := (d.session.editor.scrollToLine n).focus } : Session).drainEdits := by
    simp only [dispatch, perform, Session.update, Session.react, hjump, Option.getD_some]
  simp only [hdispatch]
  obtain he | he := Session.editor_drainEdits
    { d.session with editor := (d.session.editor.scrollToLine n).focus } <;>
  · rw [he]
    exact ⟨rfl, rfl, hcursor, rfl⟩

/-- After any run from the start: if a panel with a line is on screen and the text is still the one
that the failure is about, then the jump takes the cursor to the start of the line that the one mark
stands on, provided that the text has the line. Of a line past the end the mark is the first
character of the text, and the cursor goes to the last line. -/
theorem jump_reaches_mark (engine : Engine) (p : SessionPlan) (host : Host)
    (events : List Event) (panel : ErrorPanel) (n : Nat) :
    let t := Traced.run engine { studio := { session := .start p, host } } events
    t.studio.session.preview.content = .error panel → panel.line = some n →
    t.origin = some t.studio.session.editor.text →
    let editor := (t.studio.dispatch engine .jumpToError).session.editor
    editor.cursor.col = 0 ∧ editor.topLine = editor.cursor.line ∧
    ∃ mark, editor.diagnostics = [mark] ∧
      (n ≤ editor.lineCount → editor.cursor.line + 1 = mark.line) ∧
      (editor.lineCount < n → mark = ⟨0, 1, 1, panel.message⟩ ∧
        editor.cursor.line + 1 = editor.lineCount) := by
  intro t hpanel hn htext editor
  obtain ⟨source, horigin, hmarks⟩ :=
    (Traced.faithful_start p host).run engine events panel hpanel
  obtain rfl : t.studio.session.editor.text = source := Option.some.inj (htext.symm.trans horigin)
  obtain ⟨hkept, hdiagnostics, hcursor, htop⟩ := editor_jump engine t.studio hpanel hn
  have hpos := t.studio.session.editor.lineCount_pos
  have hcount : editor.lineCount = t.studio.session.editor.lineCount := by
    rw [Editor.lineCount, hkept, Editor.lineCount]
  refine ⟨by rw [hcursor], htop, _, hdiagnostics.trans hmarks, fun hin => ?_, fun hout => ?_⟩
  · rw [hcount] at hin
    rw [hn, Diagnostic.line_ofFailure _ hin, hcursor]
    simp only
    omega
  · rw [hcount] at hout ⊢
    rw [hn, Diagnostic.ofFailure_past_end _ hout, hcursor]
    refine ⟨rfl, ?_⟩
    simp only
    omega

/-! ### A line past the end -/

/-- An engine that refuses every text for one of its lines. -/
def refusing (line : Nat) : Engine where
  validate _ := .error { message := "unexpected end", line := some line }
  render _ _ _ := .error { message := "unexpected end", line := some line }

/-- A rendering, and the arrival of all results. -/
def rendered (engine : Engine) (d : Studio) : List Event :=
  .dispatch .renderNow ::
    (d.dispatch engine .renderNow).results.map fun r => .dispatch (.renderFinished r)

def twoLines : SessionPlan where
  filePath := "flow.mmd"
  source := "graph TD\nA -->"
  settings := {}
  baseUrl := { scheme := ['f', 'i', 'l', 'e'], authority := none, path := .segments [[]] }
  dice := { numbers := id }

/-- The session after its text was refused for one of its lines. -/
def refused (line : Nat) : Traced :=
  let d : Studio := {
    session := .start twoLines
    host := { tools := .standard, fonts := { fetch := fun _ _ => .ok [] } } }
  Traced.run (refusing line) { studio := d } (rendered (refusing line) d)

theorem second_line_reached :
    (refused 2).studio.session.preview.content =
      .error ⟨"unexpected end", some (Hint.incompleteInput.text .en), some 2⟩ ∧
    (refused 2).origin = some (refused 2).studio.session.editor.text ∧
    let editor := ((refused 2).studio.dispatch (refusing 2) .jumpToError).session.editor
    editor.cursor.col = 0 ∧ editor.topLine = editor.cursor.line ∧
    ∃ mark, editor.diagnostics = [mark] ∧
      (2 ≤ editor.lineCount → editor.cursor.line + 1 = mark.line) ∧
      (editor.lineCount < 2 → mark = ⟨0, 1, 1, "unexpected end"⟩ ∧
        editor.cursor.line + 1 = editor.lineCount) :=
  have hpanel : (refused 2).studio.session.preview.content =
      .error ⟨"unexpected end", some (Hint.incompleteInput.text .en), some 2⟩ := by decide +kernel
  have htext : (refused 2).origin = some (refused 2).studio.session.editor.text := by decide +kernel
  ⟨hpanel, htext, jump_reaches_mark (refusing 2) twoLines _ _ _ 2 hpanel rfl htext⟩

/-- Of a line past the end the mark is on the first line and the cursor on the last. -/
theorem line_past_end_missed :
    (refused 40).studio.session.preview.content =
      .error ⟨"unexpected end", some (Hint.incompleteInput.text .en), some 40⟩ ∧
    (refused 40).origin = some (refused 40).studio.session.editor.text ∧
    let editor := ((refused 40).studio.dispatch (refusing 40) .jumpToError).session.editor
    editor.diagnostics = [⟨0, 1, 1, "unexpected end"⟩] ∧ editor.cursor = ⟨1, 0⟩ := by
  decide +kernel

end Studio

end DiagramDesk
