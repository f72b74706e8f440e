import DiagramDesk.Session.Studio
import DiagramDesk.Proofs.Editor
import DiagramDesk.Proofs.Pipeline

/-!
What one message changes, told once for each part of a session. What is on screen
changes with four kinds of message only, and what is done outside the session
leaves it alone. What renderings are made from never depends on the screen, and
whenever it changes a rendering is asked for.
-/
namespace DiagramDesk

/-! ### The screen -/

/-- What the pane shows once an error panel is closed. -/
def Content.dismissed : Content → Content
  | .error _ => .placeholder
  | content => content

/-- How a rendering stands at a later time. -/
def RenderStatus.aged (now : Nat) : RenderStatus → RenderStatus
  | .ok expires => if expires ≤ now then .idle else .ok expires
  | status => status

theorem Preview.dismissError_eq (p : Preview) :
    p.dismissError = { p with content := p.content.dismissed } := by
  obtain ⟨content, -⟩ := p
  cases content <;> rfl

theorem Preview.tick_eq (p : Preview) (now : Nat) :
    p.tick now = { p with status := p.status.aged now } := by
  obtain ⟨-, status, -⟩ := p
  cases status with
  | ok expires => by_cases h : expires ≤ now <;> simp [tick, isDue, RenderStatus.aged, h]
  | idle | rendering | error => rfl

/-- What a session shows of a rendering, in its pane and in its editor. -/
structure Screen where
  content : Content
  status : RenderStatus
  lookWarning : Bool
  marks : List Diagnostic
  deriving DecidableEq, Repr

def Screen.ofResult (p : Pipeline) (r : RenderResult) (now : Nat) : Screen :=
  match r.outcome with
  | .empty => ⟨.placeholder, .idle, r.lookDowngraded, []⟩
  | .success scene => ⟨.diagram scene, .ok (later now Preview.okDuration), r.lookDowngraded, []⟩
  | .failure f =>
    ⟨.error (p.panel f), .error, r.lookDowngraded, [Diagnostic.ofFailure r.source f.line f.message]⟩

namespace Session

def screen (s : Session) : Screen :=
  ⟨s.preview.content, s.preview.status, s.preview.lookWarning, s.editor.diagnostics⟩

def screenAfter (s : Session) : Message → Screen
  | .renderNow => { s.screen with status := .rendering }
  | .renderFinished r =>
    if s.pipeline.latest = some r.ticket then .ofResult s.pipeline r s.now else s.screen
  | .tick now => { s.screen with status := s.screen.status.aged now }
  | .dismissError => { s.screen with content := s.screen.content.dismissed }
  | _ => s.screen

@[simp] theorem screen_drainEdits (s : Session) : s.drainEdits.screen = s.screen := by
  unfold drainEdits
  split <;> rfl

theorem receive_eq (s : Session) (r : RenderResult) :
    s.receive r =
      if s.pipeline.latest = some r.ticket then
        { s with
          editor := (s.pipeline.commit r s.editor s.preview s.now).1
          preview := (s.pipeline.commit r s.editor s.preview s.now).2 }
      else s := by
  by_cases h : s.pipeline.latest = some r.ticket <;> simp [receive, Pipeline.apply_eq, h]

theorem screen_receive (s : Session) (r : RenderResult) :
    (s.receive r).screen =
      if s.pipeline.latest = some r.ticket then .ofResult s.pipeline r s.now else s.screen := by
  rw [receive_eq]
  split
  · simp only [screen, Pipeline.commit, Screen.ofResult]
    cases r.outcome <;> rfl
  · rfl

theorem screen_update (s : Session) (m : Message) : (s.update m).screen = s.screenAfter m := by
  rw [update, screen_drainEdits]
  cases m with
  | sourceChanged text => simp only [react]; split <;> rfl
  | renderFinished r => exact screen_receive s r
  | tick now => simp only [react, screen, Preview.tick_eq, screenAfter]
  | format => simp only [react]; split <;> simp [screen, requestSave, screenAfter]
  | jumpToError =>
    simp only [react, screen, jumpToError, screenAfter]
    cases s.preview.error?.bind (·.line) <;> rfl
  | dismissError => simp only [react, screen, Preview.dismissError_eq, screenAfter]
  | _ => rfl

end Session

/-! ### What renderings are made from -/

/-- The part of a session that renderings are made from. -/
structure Ground where
  text : String
  settings : Settings
  dice : Dice
  pipeline : Pipeline

namespace Ground

def after (g : Ground) : Message → Ground
  | .sourceChanged text => { g with text }
  | .format => { g with text := formatSource g.text }
  | .toggleHandDrawn =>
    { g with settings := { g.settings with handDrawn := !g.settings.handDrawn } }
  | .setTheme theme => { g with settings := { g.settings with theme } }
  | .setHandFont handFont => { g with settings := { g.settings with handFont } }
  | .setFontSize fontSize => { g with settings := { g.settings with fontSize } }
  | .setSeedMode seedMode => { g with settings := { g.settings with seedMode } }
  | .setBackground background => { g with settings := { g.settings with background } }
  | .reshuffleSeed =>
    let (settings, dice) := g.settings.reshuffle g.dice
    { g with settings, dice }
  | .setLang lang =>
    { g with settings := { g.settings with lang }, pipeline := g.pipeline.setLang lang }
  | _ => g

/-- The style of a rendering that is started now. -/
def style (g : Ground) : Style := (g.settings.styleForRender g.dice).1

/-- The job of a rendering that is started now. -/
def job (g : Ground) : RenderJob := g.pipeline.jobFor g.text g.style

def started (g : Ground) : Ground where
  text := g.text
  settings := (g.settings.styleForRender g.dice).2.1
  dice := (g.settings.styleForRender g.dice).2.2
  pipeline := g.pipeline.issue g.text

end Ground

namespace Session

def ground (s : Session) : Ground := ⟨s.editor.text, s.settings, s.dice, s.pipeline⟩

@[simp] theorem ground_drainEdits (s : Session) : s.drainEdits.ground = s.ground := by
  unfold drainEdits
  split <;> rfl

theorem ground_receive (s : Session) (r : RenderResult) : (s.receive r).ground = s.ground := by
  rw [receive_eq]
  split
  · simp only [ground, Pipeline.commit]
    cases r.outcome <;> rfl
  · rfl

theorem ground_update (s : Session) (m : Message) :
    (s.update m).ground = s.ground.after m := by
  rw [update, ground_drainEdits]
  cases m with
  | sourceChanged text =>
    simp only [react, Ground.after]
    split
    · simp_all [ground]
    · rfl
  | renderFinished r => exact ground_receive s r
  | format =>
    simp only [react, ground, Ground.after, Editor.format]
    split
    · rfl
    · simp_all [Editor.isUnformatted]
  | jumpToError =>
    simp only [react, ground, jumpToError, Ground.after]
    cases s.preview.error?.bind (·.line) <;> rfl
  | _ => rfl

end Session

namespace Studio

/-! ### Outside the session -/

/-- Unless a rendering is started, the session gets no more than a notice, and no result is
added. -/
theorem perform_quiet (engine : Engine) (d : Studio) (m : Message) (h : m ≠ .renderNow) :
    (d.perform engine m).results = d.results ∧
    ∃ notice, (d.perform engine m).session = { d.session with notice } := by
  cases m with
  | renderNow => exact absurd rfl h
  | renderFinished r =>
    simp only [perform, exportToOutput]
    split
    · split
      · exact ⟨rfl, _, rfl⟩
      · split <;> exact ⟨rfl, _, rfl⟩
    · exact ⟨rfl, _, rfl⟩
  | copyEmbed =>
    simp only [perform]
    split <;> exact ⟨rfl, _, rfl⟩
  | _ => exact ⟨rfl, _, rfl⟩

@[simp] theorem screen_perform (engine : Engine) (d : Studio) (m : Message) :
    (d.perform engine m).session.screen = d.session.screen := by
  by_cases h : m = .renderNow
  · subst h
    rfl
  · obtain ⟨-, notice, hs⟩ := perform_quiet engine d m h
    rw [hs]
    rfl

theorem screen_dispatch (engine : Engine) (d : Studio) (m : Message) :
    (d.dispatch engine m).session.screen = d.session.screenAfter m := by
  rw [dispatch, screen_perform, Session.screen_update]

/-- A rendering is started from the ground, and its result is added to the others. -/
theorem dispatch_renderNow (engine : Engine) (d : Studio) :
    (d.dispatch engine .renderNow).session.ground = d.session.ground.started ∧
    (d.dispatch engine .renderNow).results = d.results ++ [d.session.ground.job.run engine] := by
  have hg : (d.session.update .renderNow).ground = d.session.ground :=
    Session.ground_update d.session .renderNow
  rw [← hg]
  exact ⟨rfl, rfl⟩

theorem dispatch_quiet (engine : Engine) (d : Studio) (m : Message) (h : m ≠ .renderNow) :
    (d.dispatch engine m).session.ground = d.session.ground.after m ∧
    (d.dispatch engine m).results = d.results := by
  obtain ⟨hr, notice, hs⟩ :=
    perform_quiet engine { d with session := d.session.update m } m h
  rw [dispatch, hr, hs, ← Session.ground_update]
  exact ⟨rfl, rfl⟩

end Studio

end DiagramDesk
