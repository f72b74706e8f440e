import DiagramDesk.Proofs.Session.Output
import DiagramDesk.Proofs.Session.Requests
import DiagramDesk.Proofs.Session.Watching

/-!
A file with two writers. Others write the file of a live session whenever they
like, and the session saves there without looking what the file holds. A text
that others wrote is safe from all that a session does but a save that was asked
for and an export to the very file; until then the watcher has yet to read it.
-/
namespace DiagramDesk

/-! ### What a message writes over -/

/-- The file that diagrams are exported to as they get on screen. -/
def Fixture.outputTarget? (f : Fixture) : Option String :=
  f.output.map fun path => Blob.target ⟨f.exportFormat, .bytes []⟩ path

/-- The file that an export goes to which was typed. -/
def Message.typedTarget? : Message → Option String
  | .export form (some path) => some (Blob.target ⟨form, .bytes []⟩ path)
  | _ => none

/-- The file that a message may write. -/
def Session.target? (s : Session) : Message → Option String
  | .renderFinished _ => s.fixture.outputTarget?
  | m => m.typedTarget?

theorem Session.target?_of_job? {s : Session} {m : Message} {job : ExportJob} {target : String}
    (hjob : s.job? m = some job) (htarget : job.target? = some target) :
    s.target? m = some target := by
  cases m with
  | renderFinished r =>
    obtain ⟨scene, -, hjob⟩ := Option.bind_eq_some_iff.mp hjob
    obtain ⟨path, houtput, hjob⟩ := Option.bind_eq_some_iff.mp hjob
    obtain rfl := Option.some.inj hjob
    simp only [target?, Fixture.outputTarget?, fixture, houtput]
    exact htarget
  | «export» format path =>
    obtain rfl := Option.some.inj hjob
    cases path with
    | none => cases htarget
    | some path => exact htarget
  | _ => cases hjob

namespace Studio

variable (engine : Engine) (d : Studio)

theorem meet_dispatch (m : Message) {first second : String} (h : d.host.files.Meet first second) :
    (d.dispatch engine m).host.files.Meet first second := by
  rw [files_dispatch]
  cases d.session.job? m with
  | none => exact h
  | some job => exact job.meet_run d.session.settings d.host h

/-- A text stays in its file unless a message has something exported there. -/
theorem readText_dispatch (m : Message) {path text : String}
    (h : d.host.files.readText path = .ok text) :
    (d.dispatch engine m).host.files.readText path = .ok text ∨
      ∃ target, d.session.target? m = some target ∧
        (d.dispatch engine m).host.files.Meet target path := by
  rw [files_dispatch]
  cases hjob : d.session.job? m with
  | none => exact .inl h
  | some job =>
    refine (job.readText_run d.session.settings d.host h).imp_right ?_
    rintro ⟨target, htarget, hmeet⟩
    exact ⟨target, Session.target?_of_job? hjob htarget, hmeet⟩

/-- The same for results that arrive one after the other: once one of them was exported to the
file, the paths go on leading there. -/
theorem readText_dispatchAll (rs : List RenderResult) {path text : String}
    (h : d.host.files.readText path = .ok text ∨
      ∃ target, d.session.fixture.outputTarget? = some target ∧
        d.host.files.Meet target path) :
    (d.dispatchAll engine (rs.map .renderFinished)).host.files.readText path = .ok text ∨
      ∃ target, d.session.fixture.outputTarget? = some target ∧
        (d.dispatchAll engine (rs.map .renderFinished)).host.files.Meet target path := by
  induction rs generalizing d with
  | nil => exact h
  | cons r rs ih =>
    have hfixture := fixture_dispatch engine d (.renderFinished r)
    have hrest := ih (d.dispatch engine (.renderFinished r))
    rw [hfixture] at hrest
    apply hrest
    obtain htext | ⟨target, htarget, hmeet⟩ := h
    · exact readText_dispatch engine d (.renderFinished r) htext
    · exact .inr ⟨target, htarget, meet_dispatch engine d _ hmeet⟩

theorem fixture_dispatchAll (ms : List Message) :
    (d.dispatchAll engine ms).session.fixture = d.session.fixture := by
  induction ms generalizing d with
  | nil => rfl
  | cons m ms ih => exact (ih (d.dispatch engine m)).trans (fixture_dispatch engine d m)

/-- A text that is taken in becomes the session's. -/
theorem text_sourceChanged (text : String) :
    (d.dispatch engine (.sourceChanged text)).session.editor.text = text :=
  congrArg Ground.text (dispatch_quiet engine d (.sourceChanged text) (by simp)).1

theorem text_takeIn (text : String) : (d.takeIn engine text).session.editor.text = text :=
  text_sourceChanged engine _ text

theorem fixture_takeIn (text : String) :
    (d.takeIn engine text).session.fixture = d.session.fixture :=
  fixture_dispatch engine _ (.sourceChanged text)

theorem fixture_save : d.save.session.fixture = d.session.fixture := by
  unfold save
  split <;> rfl

/-- A save leaves the session's text in its file, or else all files as they were. -/
theorem readText_save :
    d.save.host.files.readText d.session.filePath = .ok d.session.editor.text ∨
      d.save.host.files = d.host.files := by
  unfold save
  cases hwrite : d.host.files.write d.session.filePath (.ofText d.session.editor.text) with
  | ok files => exact .inl (FileTree.readText_write hwrite)
  | error fault => exact .inr rfl

end Studio

namespace LiveSession

variable (l : LiveSession)

/-- What the watcher makes of a file that holds a text. -/
theorem pollFile_eq (engine : Engine) (now : Nat) {w : Watcher} {text : String}
    (hw : l.watcher = some w)
    (hdisk : l.studio.host.files.readText l.studio.session.filePath = .ok text) :
    l.pollFile engine now =
      { l with
        watcher := some (w.poll now (some text)).2
        studio := match (w.poll now (some text)).1 with
          | some text => l.studio.takeIn engine text
          | none => l.studio } := by
  simp only [pollFile, hw, hdisk]
  rfl

theorem saveIfAsked_eq (h : l.studio.session.saveRequested = true) :
    l.saveIfAsked =
      let session := { l.studio.session with saveRequested := false }
      { l with
        studio := { l.studio with session }.save
        watcher := l.watcher.map (·.note l.studio.session.editor.text) } := by
  simp only [saveIfAsked, h]
  rfl

end LiveSession

/-! ### Two writers -/

/-- A moment of a live session whose file others write as well. -/
structure SharedFile where
  moment : Moment
  /-- Whether the event of a write by others is on its way. -/
  awaited : Bool := false

namespace SharedFile

inductive Act where
  /-- Others leave the files like this, the session's among them. -/
  | write (files : FileTree)
  /-- The watcher is told of something, be it of that write or not. -/
  | event (e : FileEvent)
  /-- The session goes on by a step. -/
  | loop (move : Move)

def live (s : SharedFile) : LiveSession := s.moment.live

def session (s : SharedFile) : Session := s.moment.session

def files (s : SharedFile) : FileTree := s.live.studio.host.files

def disk (s : SharedFile) : Option String := (s.files.readText s.session.filePath).toOption

def step (engine : Engine) (s : SharedFile) : Act → SharedFile
  | .write files =>
    let host := { s.live.studio.host with files }
    { moment := { s.moment with live := { s.live with studio := { s.live.studio with host } } }
      awaited := true }
  | .event e =>
    { moment :=
        { s.moment with live := { s.live with watcher := s.live.watcher.map (·.hear e) } }
      awaited := s.awaited && !s.live.watcher.any (·.isRelevant e) }
  | .loop move => { s with moment := s.moment.step engine move }

def run (engine : Engine) (s : SharedFile) (acts : List Act) : SharedFile :=
  acts.foldl (step engine) s

/-- A live session at its start, with a watcher or without one. -/
def start (engine : Engine) (p : SessionPlan) (host : Host) (watcher : Option Watcher) :
    SharedFile :=
  { moment := .start engine p host watcher }

/-- A text is in the session's file, and the watcher, if there is one, has yet to read it. -/
structure Holds (s : SharedFile) (text : String) : Prop where
  disk : s.files.readText s.session.filePath = .ok text
  waiting : ∀ w ∈ s.live.watcher,
    s.awaited = true ∨ w.stirred = true ∨ w.pending.isSome = true

/-- What ends the time of a text that others wrote. -/
inductive Ends (engine : Engine) (s : SharedFile) (text : String) : Act → Prop
  /-- Others replace the text. -/
  | write (files : FileTree) (gone : files.readText s.session.filePath ≠ .ok text) :
      Ends engine s text (.write files)
  | refresh (news : FileNews) (gone : news.files.readText s.session.filePath ≠ .ok text) :
      Ends engine s text (.loop (.refresh news))
  /-- The watcher reads the text and gives it to the session, unless it is the one that the session
  noted or was given last. -/
  | read (now : Nat) (w : Watcher) (watched : s.live.watcher = some w)
      (ready : (w.notice now).isReady now = true)
      (taken : w.lastKnown = some text ∨
        (w.poll now (some text)).1 = some text ∧
          (s.step engine (.loop (.pollFile now))).session.editor.text = text) :
      Ends engine s text (.loop (.pollFile now))
  /-- The session saves its own text, as it was asked to. -/
  | save (asked : s.session.saveRequested = true)
      (saved : (s.step engine (.loop .save)).disk = some s.session.editor.text) :
      Ends engine s text (.loop .save)
  /-- Somebody has the diagram exported to the file of its text. -/
  | typed (m : Message) (target : String) (htarget : m.typedTarget? = some target)
      (meet : (s.step engine (.loop (.dispatch m))).files.Meet target s.session.filePath) :
      Ends engine s text (.loop (.dispatch m))
  /-- The output file is the file of the text, and results arrive. -/
  | shown (move : Move) (target : String)
      (arrival : (∃ r, move = .dispatch (.renderFinished r)) ∨ ∃ numbers, move = .deliver numbers)
      (htarget : s.session.fixture.outputTarget? = some target)
      (meet : (s.step engine (.loop move)).files.Meet target s.session.filePath) :
      Ends engine s text (.loop move)

variable {engine : Engine} {s : SharedFile} {text : String}

/-! ### One step -/

theorem fixture_move (engine : Engine) (t : Moment) (move : Move) :
    (t.step engine move).session.fixture = t.session.fixture := by
  let d := t.live.studio
  cases move with
  | dispatch m => exact Studio.fixture_dispatch engine d m
  | clock now => exact Session.fixture_update d.session (.tick now)
  | refresh | ripen | tell => rfl
  | pollFile now =>
    simp only [Moment.step, Moment.session, LiveSession.pollFile]
    split
    · rfl
    · split
      · exact Studio.fixture_takeIn engine d _
      · rfl
  | queueRender now =>
    simp only [Moment.step, Moment.session, LiveSession.queueRender]
    split <;> rfl
  | fire =>
    simp only [Moment.step]
    split
    · exact Studio.fixture_dispatch engine d .renderNow
    · rfl
  | deliver numbers => exact Studio.fixture_dispatchAll engine d _
  | save =>
    simp only [Moment.step, Moment.session, LiveSession.saveIfAsked]
    split
    · exact Studio.fixture_save _
    · rfl

theorem fixture_step (act : Act) : (s.step engine act).session.fixture = s.session.fixture := by
  cases act with
  | write files => rfl
  | event e => rfl
  | loop move => exact fixture_move engine s.moment move

/-- A text that is read from the session's file is in the file still, wherever that is said to
be. -/
theorem Holds.of_step {act : Act}
    (hdisk : (s.step engine act).files.readText s.session.filePath = .ok text)
    (hwaiting : ∀ w ∈ (s.step engine act).live.watcher,
      (s.step engine act).awaited = true ∨ w.stirred = true ∨ w.pending.isSome = true) :
    (s.step engine act).Holds text := by
  have hpath : (s.step engine act).session.filePath = s.session.filePath :=
    congrArg Fixture.filePath (fixture_step act)
  exact ⟨hpath ▸ hdisk, hwaiting⟩

/-- Where nothing happens to the files and the watcher, what holds goes on holding. -/
theorem Holds.quiet (h : s.Holds text) {move : Move}
    (hfiles : (s.step engine (.loop move)).files = s.files)
    (hwatcher : (s.step engine (.loop move)).live.watcher = s.live.watcher) :
    (s.step engine (.loop move)).Holds text := by
  refine .of_step (hfiles ▸ h.disk) ?_
  rw [hwatcher]
  exact h.waiting

theorem Holds.dispatch (h : s.Holds text) (m : Message) :
    (s.step engine (.loop (.dispatch m))).Holds text ∨
      s.Ends engine text (.loop (.dispatch m)) := by
  obtain hdisk | ⟨target, htarget, hmeet⟩ := Studio.readText_dispatch engine s.live.studio m h.disk
  · exact .inl (.of_step hdisk h.waiting)
  · right
    cases m with
    | renderFinished r => exact .shown _ target (.inl ⟨r, rfl⟩) htarget hmeet
    | _ => exact .typed _ target htarget hmeet

theorem Holds.deliver (h : s.Holds text) (numbers : List Nat) :
    (s.step engine (.loop (.deliver numbers))).Holds text ∨
      s.Ends engine text (.loop (.deliver numbers)) := by
  obtain hdisk | ⟨target, htarget, hmeet⟩ :=
    Studio.readText_dispatchAll engine s.live.studio
      (numbers.filterMap (s.live.studio.results[·]?)) (.inl h.disk)
  · exact .inl (.of_step hdisk h.waiting)
  · exact .inr (.shown _ target (.inr ⟨numbers, rfl⟩) htarget hmeet)

/-- What the watcher hears, it does not forget what it waits for. -/
theorem Holds.refresh (h : s.Holds text) (news : FileNews) :
    (s.step engine (.loop (.refresh news))).Holds text ∨
      s.Ends engine text (.loop (.refresh news)) := by
  by_cases hgone : news.files.readText s.session.filePath = .ok text
  · refine .inl (.of_step hgone ?_)
    intro later hlater
    obtain ⟨w, hw, rfl⟩ := Option.map_eq_some_iff.mp hlater
    rw [Watcher.pending_foldl_hear]
    exact (h.waiting w hw).imp_right (.imp_left (w.stirred_foldl_hear _))
  · exact .inr (.refresh news hgone)

/-- As long as the watcher is not done waiting, the text is still to be read. -/
theorem Holds.pollFile (h : s.Holds text) (now : Nat) :
    (s.step engine (.loop (.pollFile now))).Holds text ∨
      s.Ends engine text (.loop (.pollFile now)) := by
  cases hw : s.live.watcher with
  | none =>
    have hlive : s.live.pollFile engine now = s.live := by simp only [LiveSession.pollFile, hw]
    exact .inl (h.quiet (congrArg (·.studio.host.files) hlive) (congrArg (·.watcher) hlive))
  | some w =>
    have hlive := s.live.pollFile_eq engine now hw h.disk
    obtain ⟨-, hpoll⟩ | ⟨hready, ⟨hknown, -⟩ | ⟨found, hfound, -, hpoll⟩⟩ :=
      w.poll_cases now (some text)
    · rw [hpoll] at hlive
      have hfiles : (s.step engine (.loop (.pollFile now))).files = s.files :=
        congrArg (·.studio.host.files) hlive
      refine .inl (.of_step (hfiles ▸ h.disk) ?_)
      intro noticed hnoticed
      obtain rfl : w.notice now = noticed :=
        Option.some.inj ((congrArg (·.watcher) hlive).symm.trans hnoticed)
      refine (h.waiting w hw).imp_right fun hwaiting => .inr ?_
      rw [Watcher.pending_notice]
      split
      · rfl
      · exact hwaiting.resolve_left ‹_›
    · exact .inr (.read now w hw hready (.inl (hknown.resolve_left (by simp)).symm))
    · obtain rfl : text = found := Option.some.inj hfound
      have hreport : (w.poll now (some text)).1 = some text := by rw [hpoll]
      refine .inr (.read now w hw hready (.inr ⟨hreport, ?_⟩))
      change (s.live.pollFile engine now).studio.session.editor.text = text
      rw [hlive, hreport]
      exact Studio.text_takeIn engine s.live.studio text

/-- A save that fails leaves the file alone. -/
theorem Holds.save (h : s.Holds text) :
    (s.step engine (.loop .save)).Holds text ∨ s.Ends engine text (.loop .save) := by
  by_cases hasked : s.session.saveRequested = true
  · let d : Studio :=
      { s.live.studio with session := { s.live.studio.session with saveRequested := false } }
    have hlive := s.live.saveIfAsked_eq hasked
    have hfiles : (s.step engine (.loop .save)).files = d.save.host.files :=
      congrArg (·.studio.host.files) hlive
    obtain hsaved | hleft := d.readText_save
    · have hpath : (s.step engine (.loop .save)).session.filePath = s.session.filePath :=
        congrArg Fixture.filePath (fixture_step (.loop .save))
      refine .inr (.save hasked ?_)
      rw [SharedFile.disk, hfiles, hpath]
      exact congrArg Except.toOption hsaved
    · refine .inl (.of_step ((hfiles.trans hleft) ▸ h.disk) ?_)
      intro noted hnoted
      have hwatcher : s.live.watcher.map (·.note s.session.editor.text) = some noted :=
        (congrArg (·.watcher) hlive).symm.trans hnoted
      obtain ⟨w, hw, rfl⟩ := Option.map_eq_some_iff.mp hwatcher
      exact h.waiting w hw
  · have hlive : s.live.saveIfAsked = s.live := if_neg hasked
    exact .inl (h.quiet (congrArg (·.studio.host.files) hlive) (congrArg (·.watcher) hlive))

/-- An event that concerns the file stirs the watcher; any other is as if it had not been. -/
theorem Holds.event (h : s.Holds text) (e : FileEvent) : (s.step engine (.event e)).Holds text := by
  refine ⟨h.disk, ?_⟩
  intro later hlater
  obtain ⟨w, hw, rfl⟩ := Option.map_eq_some_iff.mp hlater
  have hwatcher : s.live.watcher = some w := hw
  simp only [SharedFile.step, hwatcher, Option.any_some, Watcher.stirred_hear, Watcher.pending_hear]
  cases hrelevant : w.isRelevant e with
  | true => simp
  | false => simpa using h.waiting w hw

/-- A text that others wrote stays until something ends its time. -/
theorem Holds.step (h : s.Holds text) (act : Act) :
    (s.step engine act).Holds text ∨ s.Ends engine text act := by
  cases act with
  | write files =>
    by_cases hgone : files.readText s.session.filePath = .ok text
    · exact .inl (.of_step hgone fun _ _ => .inl rfl)
    · exact .inr (.write files hgone)
  | event e => exact .inl (h.event e)
  | loop move =>
    cases move with
    | dispatch m => exact h.dispatch m
    | deliver numbers => exact h.deliver numbers
    | refresh news => exact h.refresh news
    | pollFile now => exact h.pollFile now
    | save => exact h.save
    | clock | ripen | tell => exact .inl (h.quiet rfl rfl)
    | queueRender now =>
      refine .inl (h.quiet ?_ ?_) <;>
      simp only [SharedFile.step, files, live, Moment.step, LiveSession.queueRender] <;>
      split <;> rfl
    | fire =>
      refine .inl (h.quiet ?_ ?_) <;>
      simp only [SharedFile.step, files, live, Moment.step] <;> split
      · exact Studio.files_dispatch engine s.live.studio .renderNow
      all_goals rfl

/-! ### A run -/

theorem fixture_run (acts : List Act) :
    (s.run engine acts).session.fixture = s.session.fixture := by
  induction acts generalizing s with
  | nil => rfl
  | cons act acts ih => exact ih.trans (fixture_step act)

/-- A text that others wrote is in the file until something ends its time. -/
theorem Holds.run (h : s.Holds text) (acts : List Act) :
    (s.run engine acts).Holds text ∨
      ∃ before act later, acts = before ++ act :: later ∧ (s.run engine before).Holds text ∧
        (s.run engine before).Ends engine text act := by
  induction acts generalizing s with
  | nil => exact .inl h
  | cons act acts ih =>
    have hact : (s.step engine act).Holds text ∨ s.Ends engine text act := h.step act
    obtain hstep | hends := hact
    · refine (ih hstep).imp_right ?_
      rintro ⟨before, last, later, rfl, hbefore, hends⟩
      exact ⟨act :: before, last, later, rfl, hbefore, hends⟩
    · exact .inr ⟨[], act, acts, rfl, h, hends⟩

/-- What others write as the text of a session's file is in the file, and its event is on its way or
known to the watcher, until one of these comes first: others replace it; the watcher reads it, and
gives it to the session unless it is the text that the session noted or was given last; the session
saves, as it was asked to; or a diagram is exported to the file of the text. -/
theorem unread_text_stays (engine : Engine) (p : SessionPlan) (host : Host)
    (watcher : Option Watcher) (acts : List Act) (files : FileTree) (text : String)
    (htext : files.readText p.filePath = .ok text) (more : List Act) :
    let written := ((start engine p host watcher).run engine acts).step engine (.write files)
    (written.run engine more).Holds text ∨
      ∃ before act later, more = before ++ act :: later ∧
        (written.run engine before).Holds text ∧
        (written.run engine before).Ends engine text act := by
  intro written
  have hpath : ((start engine p host watcher).run engine acts).session.filePath = p.filePath := by
    have hstart : (start engine p host watcher).session.fixture = (Session.start p).fixture :=
      Studio.fixture_dispatch engine
        { session := { Session.start p with renderRequested := false }, host } .renderNow
    exact congrArg Fixture.filePath ((fixture_run acts).trans hstart)
  have hwritten : written.Holds text := .of_step (hpath ▸ htext) fun w _ => .inl rfl
  exact hwritten.run more

/-- A session whose text is not in the layout that it is saved in. -/
def loosePlan : SessionPlan := { Delivery.faultyPlan with source := "graph TD  " }

def theirs : FileTree := { nodes := [(["flow.mmd"], .file (.ofText "graph LR"))] }

def looseWatcher : Watcher where
  target := loosePlan.filePath
  quiet := Watcher.sessionQuiet
  lastKnown := some loosePlan.source

def atFile : FileEvent := { paths := [loosePlan.filePath] }

/-- The moment when others have written the file of a live session. -/
def overwritten : SharedFile :=
  (start .plain loosePlan Delivery.bareHost (some looseWatcher)).step .plain (.write theirs)

/-- An event ends nothing, so the text is in the file still. -/
theorem theirs_after_event :
    theirs.readText loosePlan.filePath = .ok "graph LR" ∧
      (overwritten.run .plain [.event atFile]).Holds "graph LR" := by
  have hread : theirs.readText loosePlan.filePath = .ok "graph LR" := by decide +kernel
  refine ⟨hread, ?_⟩
  have hstays := unread_text_stays .plain loosePlan Delivery.bareHost (some looseWatcher) [] theirs
    "graph LR" hread [.event atFile]
  refine hstays.resolve_right ?_
  rintro ⟨before, act, later, hmore, -, hends⟩
  have hact : act ∈ [Act.event atFile] := by
    rw [hmore]
    simp
  obtain rfl : act = .event atFile := by simpa using hact
  cases hends

/-- The event has come in and the watcher waits; then the session is asked to format its text, and
saves it over the text that it has not read. -/
theorem save_destroys_unread_text :
    overwritten.disk = some "graph LR" ∧
    (overwritten.run .plain [.event atFile]).live.watcher.map
        (fun w => (w.poll 0 (some "graph LR")).1) = some none ∧
    (overwritten.run .plain
      [.event atFile, .loop (.pollFile 0), .loop (.dispatch .format), .loop .save]).disk =
      some "graph TD\n" := by
  decide +kernel

end SharedFile

end DiagramDesk
