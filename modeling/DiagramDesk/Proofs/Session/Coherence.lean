import DiagramDesk.Proofs.Session.Messages

/-!
The pane, its status and the marks in the editor are changed by different
messages, yet they always tell one story: a panel on screen goes with its mark, a
diagram with none, and the status with what is shown. The language and the
backdrop are kept in two places each, which always agree.
-/
namespace DiagramDesk

theorem Diagnostic.message_ofFailure (source : String) (line : Option Nat) (message : String) :
    (Diagnostic.ofFailure source line message).message = message := by
  cases line with
  | none => rfl
  | some n => simp only [ofFailure]; split <;> rfl

/-- The pane, its status and the marks fit together. -/
structure Screen.Coherent (v : Screen) : Prop where
  panel_marked : ∀ p, v.content = .error p → ∃ mark, v.marks = [mark] ∧ mark.message = p.message
  diagram_unmarked : ∀ scene, v.content = .diagram scene → v.marks = []
  ok_diagram : ∀ expires, v.status = .ok expires → ∃ scene, v.content = .diagram scene
  error_no_diagram : v.status = .error → ∀ scene, v.content ≠ .diagram scene
  idle_no_panel : v.status = .idle → ∀ p, v.content ≠ .error p

namespace Screen

/-- Whatever was on screen before, a result makes it coherent. -/
theorem coherent_ofResult (p : Pipeline) (r : RenderResult) (now : Nat) :
    (ofResult p r now).Coherent := by
  unfold ofResult
  split
  · constructor <;> simp
  · constructor <;> simp
  · constructor <;> simp [Diagnostic.message_ofFailure, Pipeline.panel]

variable {v : Screen}

theorem Coherent.rendering (h : v.Coherent) : Coherent { v with status := .rendering } where
  panel_marked := h.panel_marked
  diagram_unmarked := h.diagram_unmarked
  ok_diagram := by simp
  error_no_diagram := by simp
  idle_no_panel := by simp

/-- A status turns idle only where a diagram is on screen. -/
theorem Coherent.aged (h : v.Coherent) (now : Nat) :
    Coherent { v with status := v.status.aged now } := by
  cases hs : v.status with
  | ok expires =>
    obtain ⟨scene, hd⟩ := h.ok_diagram expires hs
    by_cases hdue : expires ≤ now
    · simp only [RenderStatus.aged, if_pos hdue]
      exact ⟨h.panel_marked, h.diagram_unmarked, by simp, by simp, by simp [hd]⟩
    · simpa only [RenderStatus.aged, if_neg hdue, ← hs] using h
  | idle | rendering | error => simpa only [RenderStatus.aged, ← hs] using h

/-- Closing a panel leaves its mark and the status behind. -/
theorem Coherent.dismissed (h : v.Coherent) :
    Coherent { v with content := v.content.dismissed } := by
  cases hc : v.content with
  | error p =>
    refine ⟨by simp [Content.dismissed], by simp [Content.dismissed], ?_,
      by simp [Content.dismissed], by simp [Content.dismissed]⟩
    intro expires hs
    obtain ⟨scene, hd⟩ := h.ok_diagram expires hs
    simp [hc] at hd
  | placeholder | diagram scene => simpa only [Content.dismissed, ← hc] using h

end Screen

/-- The language is the same for the interface and for hints. -/
def Ground.Agrees (g : Ground) : Prop := g.pipeline.lang = g.settings.lang

theorem Ground.Agrees.after {g : Ground} (h : g.Agrees) (m : Message) : (g.after m).Agrees := by
  cases m with
  | setLang lang => rfl
  | _ => exact h

theorem Ground.Agrees.started {g : Ground} (h : g.Agrees) : g.started.Agrees := by
  unfold Agrees Ground.started Settings.styleForRender
  cases g.settings.seedMode <;> exact h

/-- What is on screen fits together, and what is kept in two places agrees. -/
structure Session.Coherent (s : Session) : Prop where
  screen : s.screen.Coherent
  lang : s.pipeline.lang = s.settings.lang
  background : s.preview.background = s.settings.background

namespace Session

theorem coherent_start (p : SessionPlan) : (start p).Coherent where
  screen := by constructor <;> simp [start, screen]
  lang := rfl
  background := rfl

theorem preview_drainEdits (s : Session) : s.drainEdits.preview = s.preview := by
  unfold drainEdits
  split <;> rfl

theorem settings_drainEdits (s : Session) : s.drainEdits.settings = s.settings := by
  unfold drainEdits
  split <;> rfl

/-- Both places of the backdrop are set by one message, and no other message sets either. -/
theorem background_update {s : Session} (h : s.preview.background = s.settings.background)
    (m : Message) : (s.update m).preview.background = (s.update m).settings.background := by
  rw [update, preview_drainEdits, settings_drainEdits]
  cases m with
  | sourceChanged text => simp only [react]; split <;> exact h
  | renderFinished r =>
    simp only [react, receive_eq, Pipeline.commit]
    split
    · cases r.outcome <;> exact h
    · exact h
  | tick now => simpa only [react, Preview.tick_eq] using h
  | format => simp only [react]; split <;> exact h
  | dismissError => simpa only [react, Preview.dismissError_eq] using h
  | setBackground background => rfl
  | _ => exact h

variable {s : Session}

theorem Coherent.screenAfter (h : s.Coherent) (m : Message) : (s.screenAfter m).Coherent := by
  cases m with
  | renderNow => exact h.screen.rendering
  | renderFinished r =>
    simp only [Session.screenAfter]
    split
    · exact Screen.coherent_ofResult _ r _
    · exact h.screen
  | tick now => exact h.screen.aged now
  | dismissError => exact h.screen.dismissed
  | _ => exact h.screen

theorem Coherent.update (h : s.Coherent) (m : Message) : (s.update m).Coherent where
  screen := by
    rw [screen_update]
    exact h.screenAfter m
  lang := by
    have hg : s.ground.Agrees := h.lang
    have ha := hg.after m
    rwa [← ground_update] at ha
  background := background_update h.background m

/-- A notice covers nothing. -/
theorem Coherent.notice (h : s.Coherent) (notice : NoticeSlot) :
    Coherent { s with notice } := ⟨h.screen, h.lang, h.background⟩

end Session

namespace Studio

/-- What can happen to a studio: a message changes the session alone, or also what lies outside,
or the text is saved. -/
inductive Event where
  | update (m : Message)
  | dispatch (m : Message)
  | save

def step (engine : Engine) (d : Studio) : Event → Studio
  | .update m => { d with session := d.session.update m }
  | .dispatch m => d.dispatch engine m
  | .save => d.save

def run (engine : Engine) (d : Studio) (events : List Event) : Studio :=
  events.foldl (step engine) d

variable {d : Studio}

theorem coherent_perform (h : d.session.Coherent) (engine : Engine) (m : Message) :
    (d.perform engine m).session.Coherent := by
  by_cases hm : m = .renderNow
  · subst hm
    have hg : d.session.ground.Agrees := h.lang
    refine ⟨h.screen, hg.started, ?_⟩
    have hb : (d.session.settings.styleForRender d.session.dice).2.1.background =
        d.session.settings.background := by
      unfold Settings.styleForRender
      cases d.session.settings.seedMode <;> rfl
    exact h.background.trans hb.symm
  · obtain ⟨-, notice, hs⟩ := perform_quiet engine d m hm
    rw [hs]
    exact h.notice notice

theorem coherent_save (h : d.session.Coherent) : d.save.session.Coherent := by
  unfold save
  split
  · exact ⟨h.screen, h.lang, h.background⟩
  · exact h.notice _

theorem coherent_step (h : d.session.Coherent) (engine : Engine) (e : Event) :
    (d.step engine e).session.Coherent := by
  cases e with
  | update m => exact h.update m
  | dispatch m =>
    exact coherent_perform (d := { d with session := d.session.update m }) (h.update m) engine m
  | save => exact coherent_save h

theorem coherent_run (h : d.session.Coherent) (engine : Engine) (events : List Event) :
    (d.run engine events).session.Coherent := by
  induction events generalizing d with
  | nil => exact h
  | cons e events ih => exact ih (coherent_step h engine e)

/-- After any run from the start, with any results delivered at any time: a panel on screen goes
with exactly one mark, which has its message; a diagram goes with no mark; a success is reported
only with a diagram, a failure only without one, and an idle pane has no panel; and the language
and the backdrop are the same in both places where they are kept. -/
theorem coherent_from_start (engine : Engine) (p : SessionPlan) (host : Host)
    (events : List Event) :
    (run engine { session := .start p, host } events).session.Coherent :=
  coherent_run (d := { session := .start p, host }) (Session.coherent_start p) engine events

end Studio

end DiagramDesk
