import DiagramDesk.Proofs.Export.Delivery
import DiagramDesk.Proofs.Session.Arrival

/-!
Which files a run writes. A message brings about an export or none: one that was
typed, or, when a diagram has just been put on screen by its result, one to the
output file. No other message touches a file. So the output file follows the
screen: what arrives late, a failure and an empty result leave it alone, and
unless exports are typed it is left as the last diagram that got on screen had it
written.
-/
namespace DiagramDesk

/-! ### What never changes in a session -/

/-- The part of a session that no message changes. -/
structure Fixture where
  filePath : String
  baseUrl : Url
  output : Option String
  exportFormat : ExportFormat
  scale : Single

namespace Session

def fixture (s : Session) : Fixture := ⟨s.filePath, s.baseUrl, s.output, s.exportFormat, s.scale⟩

/-- Taking in edits leaves all but the editor and the request as it is. -/
theorem drainEdits_eq (s : Session) :
    ∃ editor renderRequested, s.drainEdits = { s with editor, renderRequested } := by
  unfold drainEdits
  split <;> exact ⟨_, _, rfl⟩

@[simp] theorem fixture_update (s : Session) (m : Message) :
    (s.update m).fixture = s.fixture := by
  have hdrain : (s.update m).fixture = (s.react m).fixture := by
    obtain ⟨editor, renderRequested, h⟩ := (s.react m).drainEdits_eq
    rw [update, h]
    rfl
  rw [hdrain]
  cases m with
  | sourceChanged text => simp only [react]; split <;> rfl
  | renderFinished r => simp only [react, receive_eq]; split <;> rfl
  | format => simp only [react]; split <;> rfl
  | _ => rfl

def outputJob (s : Session) (scene : Scene) (path : String) : ExportJob where
  scene := some scene
  format := s.exportFormat
  fill := .ofBackdrop s.settings.background
  scale := s.scale
  destination := .file path

/-- The diagram that a result puts on screen, if it is committed. -/
def commit? (s : Session) (r : RenderResult) : Option Scene :=
  match (s.pipeline.apply r s.editor s.preview s.now).1, r.outcome with
  | .committed, .success scene => some scene
  | _, _ => none

/-- The export that a message brings about. -/
def job? (s : Session) : Message → Option ExportJob
  | .renderFinished r => do return s.outputJob (← s.commit? r) (← s.output)
  | .export format path => some (Studio.exportJob s format (.ofPath? path))
  | _ => none

theorem commit?_eq_some {s : Session} {r : RenderResult} {scene : Scene} :
    s.commit? r = some scene ↔ s.pipeline.latest = some r.ticket ∧ r.outcome = .success scene := by
  rw [commit?, Pipeline.apply_eq]
  by_cases h : s.pipeline.latest = some r.ticket <;> cases r.outcome <;> simp [h]

/-- A diagram that is committed is on screen. -/
theorem content_of_commit? {s : Session} {r : RenderResult} {scene : Scene}
    (h : s.commit? r = some scene) :
    (s.update (.renderFinished r)).preview.content = .diagram scene := by
  obtain ⟨hlatest, houtcome⟩ := commit?_eq_some.mp h
  have hscreen := s.screen_update (.renderFinished r)
  rw [screenAfter, if_pos hlatest, Screen.ofResult, houtcome] at hscreen
  exact congrArg Screen.content hscreen

/-- A message is told to the session before anything is done outside, which makes no difference to
the export of a diagram. -/
theorem outputJob_update (s : Session) (r : RenderResult) :
    (s.update (.renderFinished r)).outputJob = s.outputJob := by
  have hsettings : (s.update (.renderFinished r)).settings = s.settings :=
    congrArg Ground.settings (s.ground_update (.renderFinished r))
  have hfixture := s.fixture_update (.renderFinished r)
  have hformat : (s.update (.renderFinished r)).exportFormat = s.exportFormat :=
    congrArg Fixture.exportFormat hfixture
  have hscale : (s.update (.renderFinished r)).scale = s.scale := congrArg Fixture.scale hfixture
  funext scene path
  simp only [outputJob, hsettings, hformat, hscale]

theorem showsDiagram_update (s : Session) (r : RenderResult) :
    Studio.showsDiagram (s.update (.renderFinished r)) r = (s.commit? r).isSome := by
  have hpipeline : (s.update (.renderFinished r)).pipeline = s.pipeline :=
    congrArg Ground.pipeline (s.ground_update (.renderFinished r))
  rw [Studio.showsDiagram, Pipeline.isLatest, hpipeline, commit?, Pipeline.apply_eq]
  by_cases h : s.pipeline.latest = some r.ticket <;> cases r.outcome <;> simp [h]

end Session

/-- Anything but an export to a file that was typed. -/
def Act.Untyped : Act → Prop
  | .say (.export _ (some _)) _ => False
  | _ => True

namespace Studio

variable (engine : Engine) (d : Studio)

@[simp] theorem fixture_perform (m : Message) :
    (d.perform engine m).session.fixture = d.session.fixture := by
  by_cases h : m = .renderNow
  · subst h
    rfl
  · obtain ⟨-, notice, hs⟩ := perform_quiet engine d m h
    rw [hs]
    rfl

theorem fixture_dispatch (m : Message) :
    (d.dispatch engine m).session.fixture = d.session.fixture := by
  rw [dispatch, fixture_perform, Session.fixture_update]

/-! ### One message -/

/-- What is exported is the diagram on screen. -/
theorem host_exportToOutput {scene : Scene} (h : d.session.preview.content = .diagram scene) :
    d.exportToOutput.host =
      match d.session.output with
      | some path => ((d.session.outputJob scene path).run d.session.settings d.host).2
      | none => d.host := by
  have hjob (path : String) : exportJob d.session d.session.exportFormat (.file path) =
      d.session.outputJob scene path := by
    rw [exportJob, Preview.scene?, h]
    rfl
  unfold exportToOutput
  cases d.session.output with
  | none => rfl
  | some path =>
    dsimp only
    rw [hjob]
    split <;> rfl

/-- When a diagram has been put on screen it is exported. -/
theorem host_of_commit? {r : RenderResult} {scene : Scene} (h : d.session.commit? r = some scene) :
    (d.dispatch engine (.renderFinished r)).host =
      match d.session.output with
      | some path => ((d.session.outputJob scene path).run d.session.settings d.host).2
      | none => d.host := by
  have hshown := d.session.content_of_commit? h
  have hsettings : (d.session.update (.renderFinished r)).settings = d.session.settings :=
    congrArg Ground.settings (d.session.ground_update (.renderFinished r))
  have houtput : (d.session.update (.renderFinished r)).output = d.session.output :=
    congrArg Fixture.output (d.session.fixture_update (.renderFinished r))
  have hexport :=
    host_exportToOutput { d with session := d.session.update (.renderFinished r) } hshown
  simp only [Session.outputJob_update, hsettings, houtput] at hexport
  simp only [dispatch, perform, Session.showsDiagram_update, h, Option.isSome_some, if_true,
    hexport]

/-- A result that puts no diagram on screen leaves everything outside the session alone. -/
theorem host_of_commit?_none {r : RenderResult} (h : d.session.commit? r = none) :
    (d.dispatch engine (.renderFinished r)).host = d.host := by
  simp only [dispatch, perform, Session.showsDiagram_update, h]
  rfl

/-- Only the export that a message brings about writes files. -/
theorem files_dispatch (m : Message) :
    (d.dispatch engine m).host.files =
      match d.session.job? m with
      | some job => (job.run d.session.settings d.host).2.files
      | none => d.host.files := by
  cases m with
  | renderFinished r =>
    cases h : d.session.commit? r with
    | none => rw [host_of_commit?_none engine d h, Session.job?, h]; rfl
    | some scene =>
      rw [host_of_commit? engine d h, Session.job?, h]
      cases d.session.output <;> rfl
  | «export» format path =>
    obtain ⟨editor, renderRequested, h⟩ := d.session.drainEdits_eq
    simp only [dispatch, Session.update, Session.react, h]
    rfl
  | renderNow => exact Host.files_withFonts ..
  | copyShareLink => exact files_copyText ..
  | copyPrompt => exact files_copyText ..
  | copyEmbed =>
    simp only [dispatch, perform]
    split
    · exact files_copyText ..
    · rfl
  | _ => rfl

/-! ### A run -/

/-- The diagram that gets on screen by something that happens. -/
def shown? (d : Studio) : Act → Option Scene
  | .say _ _ => none
  | .arrive n => d.results[n]?.bind d.session.commit?

/-- The diagrams that get on screen in a run, each with the studio right before. -/
def shownIn (d : Studio) : List Act → List (Studio × Scene)
  | [] => []
  | a :: acts => ((d.shown? a).map (d, ·)).toList ++ shownIn (d.act engine a) acts

/-- What lies outside the session after a diagram was exported to a file. -/
def hostAfterExport (d : Studio) (scene : Scene) (path : String) : Host :=
  ((d.session.outputJob scene path).run d.session.settings d.host).2

theorem fixture_act (a : Act) : (d.act engine a).session.fixture = d.session.fixture := by
  cases a with
  | say m own => exact fixture_dispatch engine d m
  | arrive n =>
    simp only [act]
    split
    · exact fixture_dispatch engine d _
    · rfl

theorem fixture_play (acts : List Act) :
    (d.play engine acts).session.fixture = d.session.fixture := by
  induction acts generalizing d with
  | nil => rfl
  | cons a acts ih => exact (ih (d.act engine a)).trans (fixture_act engine d a)

theorem host_arrive_shown {n : Nat} {scene : Scene} (h : d.shown? (.arrive n) = some scene) :
    (d.act engine (.arrive n)).session.preview.content = .diagram scene ∧
    (d.act engine (.arrive n)).host =
      match d.session.output with
      | some path => d.hostAfterExport scene path
      | none => d.host := by
  obtain ⟨r, hr, hcommit⟩ := Option.bind_eq_some_iff.mp h
  simp only [act, hr]
  refine ⟨?_, host_of_commit? engine d hcommit⟩
  have hscreen := screen_dispatch engine d (.renderFinished r)
  rw [← Session.screen_update] at hscreen
  exact (congrArg Screen.content hscreen).trans (d.session.content_of_commit? hcommit)

theorem host_arrive_not_shown {n : Nat} (h : d.shown? (.arrive n) = none) :
    (d.act engine (.arrive n)).host = d.host := by
  cases hr : d.results[n]? with
  | none => simp only [act, hr]
  | some r =>
    simp only [act, hr]
    exact host_of_commit?_none engine d (by simpa [shown?, hr] using h)

theorem files_say {m : Message} {own : ∀ r, m ≠ .renderFinished r}
    (h : (Act.say m own).Untyped) :
    (d.act engine (.say m own)).host.files = d.host.files := by
  rw [act, files_dispatch]
  cases m with
  | renderFinished r => exact absurd rfl (own r)
  | «export» format path =>
    cases path with
    | some path => exact h.elim
    | none =>
      obtain hsame | ⟨b, path, htarget, -⟩ :=
        (exportJob d.session format .clipboard).files_run_cases d.session.settings d.host
      · exact hsame
      · cases htarget
  | _ => rfl

/-- The files are as the last diagram that got on screen had them written. -/
theorem files_play {path : String} (houtput : d.session.output = some path) (acts : List Act)
    (h : ∀ a ∈ acts, a.Untyped) :
    (d.play engine acts).host.files =
      match (d.shownIn engine acts).getLast? with
      | some (before, scene) => (before.hostAfterExport scene path).files
      | none => d.host.files := by
  induction acts generalizing d with
  | nil => rfl
  | cons a acts ih =>
    rw [List.forall_mem_cons] at h
    have houtput' : (d.act engine a).session.output = some path :=
      (congrArg Fixture.output (fixture_act engine d a)).trans houtput
    have hrest := ih (d.act engine a) houtput' h.2
    have hfirst : (d.act engine a).host.files =
        match d.shown? a with
        | some scene => (d.hostAfterExport scene path).files
        | none => d.host.files := by
      cases a with
      | say m own => exact files_say engine d h.1
      | arrive n =>
        cases hshown : d.shown? (.arrive n) with
        | none => rw [host_arrive_not_shown engine d hshown]
        | some scene => rw [(host_arrive_shown engine d hshown).2, houtput]
    rw [shownIn, List.getLast?_append]
    change ((d.act engine a).play engine acts).host.files = _
    rw [hrest, hfirst]
    cases ((d.act engine a).shownIn engine acts).getLast? with
    | some last => rfl
    | none => cases d.shown? a <;> rfl

/-- Only the newest result gets on screen. -/
theorem newest_of_shown? {d : Studio} (h : d.record.Numbered) {n : Nat} {scene : Scene}
    (hshown : d.shown? (.arrive n) = some scene) : n + 1 = d.results.length := by
  obtain ⟨r, hr, hcommit⟩ := Option.bind_eq_some_iff.mp hshown
  obtain ⟨hlatest, -⟩ := Session.commit?_eq_some.mp hcommit
  have hne : d.record.results ≠ [] := by
    intro hnil
    have hresults : d.results = [] := hnil
    simp [hresults] at hr
  rw [h.ticket n r hr] at hlatest
  exact (Option.some.inj ((h.latest hne).symm.trans hlatest)).symm

/-- In a run, whatever is said and in whatever order results arrive: a result that arrives and is
committed with a diagram is the newest; its diagram is then on screen, and if there is an output
file, outside the session just this diagram is exported to it; a result that is stale or brings no
diagram changes nothing outside the session; anything else that happens writes no file unless it is
an export to a file that was typed. As long as none of these is typed, the files are as they were
left by the export of the last diagram that got on screen. -/
theorem output_follows_screen (engine : Engine) (p : SessionPlan) (host : Host)
    (acts : List Act) :
    let d := (opening p host).play engine acts
    (∀ n scene, d.shown? (.arrive n) = some scene →
      n + 1 = d.results.length ∧
      (d.act engine (.arrive n)).session.preview.content = .diagram scene ∧
      (d.act engine (.arrive n)).host = match p.output with
        | some path => d.hostAfterExport scene path
        | none => d.host) ∧
    (∀ n, d.shown? (.arrive n) = none → (d.act engine (.arrive n)).host = d.host) ∧
    (∀ a, a.Untyped → d.shown? a = none → (d.act engine a).host.files = d.host.files) ∧
    ∀ path more, p.output = some path → (∀ a ∈ more, a.Untyped) →
      (d.play engine more).host.files = match (d.shownIn engine more).getLast? with
        | some (before, scene) => (before.hostAfterExport scene path).files
        | none => d.host.files := by
  intro d
  have hnumbered : d.record.Numbered := numbered_play engine (numbered_opening p host) acts
  have houtput : d.session.output = p.output :=
    congrArg Fixture.output (fixture_play engine (opening p host) acts)
  refine ⟨fun n scene hshown => ⟨newest_of_shown? hnumbered hshown, ?_⟩,
    fun n => host_arrive_not_shown engine d, ?_, fun path more hpath => ?_⟩
  · rw [← houtput]
    exact host_arrive_shown engine d hshown
  · intro a htyped hshown
    cases a with
    | say m own => exact files_say engine d htyped
    | arrive n => rw [host_arrive_not_shown engine d hshown]
  · exact files_play engine d (houtput.trans hpath) more

def outputPlan : SessionPlan :=
  { Delivery.faultyPlan with source := "graph TD", output := some "out.svg" }

/-- Two renderings are started, and their results have not arrived. -/
def twoStarted : Studio := (opening outputPlan Delivery.bareHost).play .plain [.start, .start]

/-- The first of two results writes nothing, the second one its diagram. -/
theorem second_result_written :
    (twoStarted.act .plain (.arrive 0)).host = twoStarted.host ∧
    ∃ scene, twoStarted.shown? (.arrive 1) = some scene ∧
      (twoStarted.act .plain (.arrive 1)).host = twoStarted.hostAfterExport scene "out.svg" := by
  have h := output_follows_screen .plain outputPlan Delivery.bareHost [.start, .start]
  have hsome : (twoStarted.shown? (.arrive 1)).isSome = true := by decide +kernel
  obtain ⟨scene, hscene⟩ := Option.isSome_iff_exists.mp hsome
  exact ⟨h.2.1 0 (by decide +kernel), scene, hscene, (h.1 1 scene hscene).2.2⟩

end Studio

end DiagramDesk
