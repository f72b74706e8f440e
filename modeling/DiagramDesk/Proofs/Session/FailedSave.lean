import DiagramDesk.Proofs.Session.SharedFile

/-!
A save that fails. The session notes its text as the one in the file before it writes it, and does
not take that back when the text cannot be written. From then on its watcher takes the text that is
in the file, though nobody changed it, for one that others wrote, and tells the session of it once.
-/
namespace DiagramDesk

/-- A watcher stays as it is exactly if it is told of the text it knows. -/
theorem Watcher.note_eq_self_iff (w : Watcher) (text : String) :
    w.note text = w ↔ w.lastKnown = some text := by
  constructor
  · intro h
    exact (congrArg lastKnown h).symm
  · intro h
    rw [note, ← h]

namespace WatchedFile

/-- The session notes a text that it then cannot write. -/
def fail (s : WatchedFile) (text : String) : WatchedFile :=
  { s with watcher := s.watcher.note text, heard := some text }

variable {s : WatchedFile} {disk : String}

/-- The text in a file is reported at the end of a wait, unless it is known. -/
theorem reports_of_isReady (hready : (s.watcher.notice s.clock).isReady s.clock = true)
    (hcontent : s.content = some disk) (hnew : s.watcher.lastKnown ≠ some disk) :
    (s.step .poll).reports = disk :: s.reports := by
  obtain ⟨hwaits, -⟩ | ⟨-, ⟨hknown, -⟩ | ⟨text, htext, -, hstep⟩⟩ := s.step_poll_cases
  · rw [hready] at hwaits
    cases hwaits
  · rw [hcontent] at hknown
    exact absurd (hknown.resolve_left (by simp)).symm hnew
  · obtain rfl : disk = text := Option.some.inj (hcontent.symm.trans htext)
    rw [hstep]

theorem reports_after_quiet {time : Nat} (hnew : s.watcher.lastKnown ≠ some disk)
    (h : s.watcher.quiet ≤ time) :
    (s.run [.write (some disk), .poll, .wait time, .poll]).reports = disk :: s.reports := by
  obtain ⟨ready, hready, hcontent, hknown, hreports, hrun⟩ :=
    s.exists_ready_after_quiet (some disk) h
  have hreported := reports_of_isReady hready hcontent (hknown ▸ hnew)
  rw [hrun, ← hreports, ← hreported]

end WatchedFile

namespace Studio

variable {d : Studio} {fault : FileFault}

theorem save_of_fault
    (hfails : d.host.files.write d.session.filePath (.ofText d.session.editor.text) = .error fault) :
    d.save = d.showNotice (.error (d.session.phrases.failedWith fault.message)) := by
  rw [save, hfails]

/-- When a text cannot be written to its file, the editor is left as it is, with its text and with
what it knows of unsaved changes, so are the files, and the user is told of the failure. But the
watcher is left knowing a text that is not in the file: it is unchanged only if it knew that text
before. A text that it knew, and that stays in the file, would not have been reported in any run;
now it is reported at most once, it is so once an event has come in and enough quiet has followed,
and the session then takes it in place of its own. -/
theorem failed_save_notes_unsaved_text (engine : Engine) (d : Studio) (watcher : Option Watcher)
    (fault : FileFault)
    (hfails : d.host.files.write d.session.filePath (.ofText d.session.editor.text) =
      .error fault) :
    let text := d.session.editor.text
    let after := (d.saveWatched watcher).1
    (after.session.editor = d.session.editor ∧ after.host = d.host ∧
      after.session.notice.current =
        some (.error (d.session.phrases.failedWith fault.message))) ∧
    (d.saveWatched watcher).2 = watcher.map (·.note text) ∧
    ((d.saveWatched watcher).2 = watcher ↔ ∀ w ∈ watcher, w.lastKnown = some text) ∧
    ∀ (s : WatchedFile) (disk : String), s.watcher ∈ watcher → s.content = some disk →
      s.watcher.lastKnown = some disk → disk ≠ text →
      (s.fail text).watcher ∈ (d.saveWatched watcher).2 ∧
      (∀ acts, (∀ act ∈ acts, WatchedFile.Act.Keeps disk act) →
        (s.run acts).reports = s.reports ∧
        (((s.fail text).run acts).reports = s.reports ∨
          ((s.fail text).run acts).reports = disk :: s.reports)) ∧
      (∀ time, s.watcher.quiet ≤ time →
        ((s.fail text).run [.write (some disk), .poll, .wait time, .poll]).reports =
          disk :: s.reports) ∧
      (after.dispatch engine (.sourceChanged disk)).session.editor.text = disk := by
  intro text after
  have hafter : after = d.showNotice (.error (d.session.phrases.failedWith fault.message)) :=
    save_of_fault hfails
  refine ⟨?_, rfl, ?_, ?_⟩
  · rw [hafter]
    exact ⟨rfl, rfl, rfl⟩
  · cases watcher with
    | none => simp [saveWatched]
    | some w => simpa [saveWatched] using w.note_eq_self_iff text
  · intro s disk hwatcher hcontent hknown hdiffers
    have hnew : (s.fail text).watcher.lastKnown ≠ some disk := by
      intro he
      exact hdiffers (Option.some.inj he).symm
    refine ⟨?_, ?_, ?_, text_sourceChanged engine after disk⟩
    · rw [Option.mem_def] at hwatcher ⊢
      rw [saveWatched, hwatcher]
      rfl
    · intro acts hkeeps
      exact ⟨WatchedFile.reports_of_keeps hcontent hknown hkeeps,
        WatchedFile.reports_of_keeps_cases (s := s.fail text) hcontent hkeeps⟩
    · intro time htime
      exact WatchedFile.reports_after_quiet (s := s.fail text) hnew htime

end Studio

namespace SharedFile

/-- A directory where the session's file was. -/
def blocked : FileTree := { nodes := [(["flow.mmd"], .directory)] }

/-- The session's file as it was. -/
def restored : FileTree := { nodes := [(["flow.mmd"], .file (.ofText loosePlan.source))] }

/-- The moment before a save that fails: the file was moved out of the way, and the session was
asked to format its text. -/
def unwritable : SharedFile :=
  (start .plain loosePlan Delivery.bareHost (some looseWatcher)).run .plain
    [.write blocked, .loop (.dispatch .format)]

theorem write_unwritable :
    unwritable.files.write unwritable.session.filePath
      (.ofText unwritable.session.editor.text) = .error .isDirectory := rfl

/-- The file as the watcher of this moment knows it. -/
def looseFile : WatchedFile :=
  .start loosePlan.filePath Watcher.sessionQuiet (some loosePlan.source) (some loosePlan.source)

theorem looseFile_reported :
    unwritable.live.watcher = some looseFile.watcher ∧
    unwritable.session.editor.text = "graph TD\n" ∧
    ((looseFile.fail "graph TD\n").run
      [.write (some loosePlan.source), .poll, .wait 250, .poll]).reports = [loosePlan.source] := by
  have hwatcher : unwritable.live.watcher = some looseFile.watcher := by decide +kernel
  have htext : unwritable.session.editor.text = "graph TD\n" := by decide +kernel
  refine ⟨hwatcher, htext, ?_⟩
  rw [← htext]
  have hfailed := Studio.failed_save_notes_unsaved_text .plain unwritable.live.studio
    unwritable.live.watcher .isDirectory write_unwritable
  obtain ⟨-, -, hreported, -⟩ := hfailed.2.2.2 looseFile loosePlan.source hwatcher rfl rfl
    (fun h => absurd (h.trans htext) (by decide))
  exact hreported 250 (by decide)

/-- The save fails, the file is put back as it was, and its event comes in: the session takes the
text that it started from for one that others wrote, and its own is lost. Without the attempt to save
it would not be. -/
theorem failed_save_loses_text :
    unwritable.session.editor.text = "graph TD\n" ∧
    (unwritable.step .plain (.loop .save)).live.watcher.map (·.lastKnown) =
      some (some "graph TD\n") ∧
    restored.readText loosePlan.filePath = .ok loosePlan.source ∧
    looseWatcher.lastKnown = some loosePlan.source ∧
    (unwritable.run .plain
      [.loop .save, .write restored, .event atFile, .loop (.pollFile 0),
        .loop (.pollFile 250)]).session.editor.text = "graph TD  " ∧
    (unwritable.run .plain
      [.write restored, .event atFile, .loop (.pollFile 0),
        .loop (.pollFile 250)]).session.editor.text = "graph TD\n" := by
  decide +kernel

end SharedFile

end DiagramDesk
