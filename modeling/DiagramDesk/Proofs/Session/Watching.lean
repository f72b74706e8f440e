import DiagramDesk.Session.Watcher

/-!
A watched file over time. Others write it, the session saves its own text there,
and every write is heard of as an event; in between the clock goes on and the
watcher is asked. It never tells the session what the session knows, tells of a
burst of writes once, and at rest it knows what the file holds.
-/
namespace DiagramDesk

namespace Watcher

variable (w : Watcher) (now : Nat) (content : Option String)

@[simp] theorem quiet_hear (e : FileEvent) : (w.hear e).quiet = w.quiet := by
  cases h : w.isRelevant e <;> simp [hear, h, stir]

@[simp] theorem pending_hear (e : FileEvent) : (w.hear e).pending = w.pending := by
  cases h : w.isRelevant e <;> simp [hear, h, stir]

@[simp] theorem lastKnown_hear (e : FileEvent) : (w.hear e).lastKnown = w.lastKnown := by
  cases h : w.isRelevant e <;> simp [hear, h, stir]

theorem stirred_hear (e : FileEvent) : (w.hear e).stirred = (w.stirred || w.isRelevant e) := by
  cases h : w.isRelevant e <;> simp [hear, h, stir]

theorem pending_foldl_hear (events : List FileEvent) :
    (events.foldl hear w).pending = w.pending := by
  induction events generalizing w with
  | nil => rfl
  | cons e events ih => exact (ih (w.hear e)).trans (w.pending_hear e)

/-- A watcher that is stirred remains so, whatever it hears. -/
theorem stirred_foldl_hear (events : List FileEvent) (h : w.stirred = true) :
    (events.foldl hear w).stirred = true := by
  induction events generalizing w with
  | nil => exact h
  | cons e events ih => exact ih (w.hear e) (by rw [stirred_hear, h, Bool.true_or])

/-- An event at the file itself is heard. -/
@[simp] theorem hear_target : w.hear { paths := [w.target] } = w.stir := by
  simp [hear, isRelevant, Path.same]

@[simp] theorem stirred_notice : (w.notice now).stirred = false := by
  cases h : w.stirred <;> simp [notice, h]

@[simp] theorem quiet_notice : (w.notice now).quiet = w.quiet := by
  cases h : w.stirred <;> simp [notice, h]

@[simp] theorem lastKnown_notice : (w.notice now).lastKnown = w.lastKnown := by
  cases h : w.stirred <;> simp [notice, h]

theorem pending_notice :
    (w.notice now).pending = if w.stirred then some now else w.pending := by
  cases h : w.stirred <;> simp [notice, h]

/-- A watcher that is asked waits on, or is done with what happened to the file; then it gives the
text of the file, unless that cannot be read or is known. -/
theorem poll_cases :
    (w.notice now).isReady now = false ∧ w.poll now content = (none, w.notice now) ∨
    (w.notice now).isReady now = true ∧
      ((content = none ∨ content = w.lastKnown) ∧
          w.poll now content = (none, { w with stirred := false, pending := none }) ∨
        ∃ text, content = some text ∧ w.lastKnown ≠ some text ∧
          w.poll now content =
            (some text, { w with stirred := false, pending := none, lastKnown := some text })) := by
  have hdone : { w.notice now with pending := none } =
      { w with stirred := false, pending := none } := by
    cases h : w.stirred <;> simp [notice, h]
  cases hready : (w.notice now).isReady now with
  | false => exact .inl ⟨rfl, by simp [poll, hready]⟩
  | true =>
    refine .inr ⟨rfl, ?_⟩
    simp only [poll, hready, if_true, hdone]
    cases content with
    | none => exact .inl ⟨.inl rfl, rfl⟩
    | some text =>
      by_cases hknown : w.lastKnown = some text
      · exact .inl ⟨.inr hknown.symm, by simp [hknown]⟩
      · exact .inr ⟨text, rfl, hknown, by simp [hknown, note]⟩

end Watcher

/-- How many bursts some times make, the last one first: a time belongs to the burst of the one
before unless it comes a quiet period later. -/
def bursts (quiet : Nat) : List Nat → Nat
  | [] => 0
  | e :: older => bursts quiet older + if ∀ last ∈ older.head?, last + quiet ≤ e then 1 else 0

/-- A file, the watcher of a session, and what has happened so far. -/
structure WatchedFile where
  watcher : Watcher
  /-- What the file holds, if that can be read as text. -/
  content : Option String
  clock : Nat := 0
  /-- The text that the session noted or was given last. -/
  heard : Option String
  /-- Whether the file could be read the last time that the watcher was done waiting. -/
  readable : Bool
  /-- The times of all writes, the last one first. -/
  writes : List Nat := []
  /-- The texts that the session was given, the last one first. -/
  reports : List String := []

namespace WatchedFile

/-- The file is there, and the session may know what it holds. -/
def start (target : String) (quiet : Nat) (content known : Option String) : WatchedFile where
  watcher := { target, quiet, lastKnown := known }
  content := content
  heard := known
  readable := content.isSome && known = content

inductive Act where
  | wait (time : Nat)
  /-- Others write the file, or remove it, or make it unreadable. -/
  | write (content : Option String)
  /-- The session writes a text that it notes beforehand. -/
  | save (text : String)
  | poll

/-- The file is written, which the watcher is told by an event. -/
def put (s : WatchedFile) (content : Option String) : WatchedFile :=
  { s with
    content
    watcher := s.watcher.hear { paths := [s.watcher.target] }
    writes := s.clock :: s.writes }

def step (s : WatchedFile) : Act → WatchedFile
  | .wait time => { s with clock := s.clock + time }
  | .write content => s.put content
  | .save text => { s with watcher := s.watcher.note text, heard := some text }.put (some text)
  | .poll =>
    let (report, watcher) := s.watcher.poll s.clock s.content
    { s with
      watcher
      heard := report.or s.heard
      readable :=
        if (s.watcher.notice s.clock).isReady s.clock then s.content.isSome else s.readable
      reports := report.toList ++ s.reports }

def run (s : WatchedFile) (acts : List Act) : WatchedFile := acts.foldl step s

theorem put_eq (s : WatchedFile) (content : Option String) :
    s.put content =
      { s with content, watcher := s.watcher.stir, writes := s.clock :: s.writes } := by
  rw [put, Watcher.hear_target]

/-- The file when its watcher is asked: the watcher goes on waiting, or it is done and tells the
session nothing, or a text that the session does not know. -/
theorem step_poll_cases (s : WatchedFile) :
    (s.watcher.notice s.clock).isReady s.clock = false ∧
      s.step .poll = { s with watcher := s.watcher.notice s.clock } ∨
    (s.watcher.notice s.clock).isReady s.clock = true ∧
      ((s.content = none ∨ s.content = s.watcher.lastKnown) ∧
        s.step .poll =
          { s with
            watcher := { s.watcher with stirred := false, pending := none }
            readable := s.content.isSome } ∨
        ∃ text, s.content = some text ∧ s.watcher.lastKnown ≠ some text ∧
          s.step .poll =
            { s with
              watcher :=
                { s.watcher with stirred := false, pending := none, lastKnown := some text }
              heard := some text
              readable := true
              reports := text :: s.reports }) := by
  simp only [step]
  obtain ⟨hready, hpoll⟩ | ⟨hready, ⟨hcontent, hpoll⟩ | ⟨text, hcontent, hnew, hpoll⟩⟩ :=
    s.watcher.poll_cases s.clock s.content
  · exact .inl ⟨hready, by simp [hpoll, hready]⟩
  · exact .inr ⟨hready, .inl ⟨hcontent, by simp [hpoll, hready]⟩⟩
  · have hreadable : s.content.isSome = true := by simp [hcontent]
    exact .inr ⟨hready, .inr ⟨text, hcontent, hnew, by simp [hpoll, hready, hreadable]⟩⟩

/-- No event is queued or pending. -/
def AtRest (s : WatchedFile) : Prop := s.watcher.stirred = false ∧ s.watcher.pending = none

/-- A report that may still come: one as long as an event is queued or pending. -/
def owed (s : WatchedFile) : Nat := (s.watcher.stirred || s.watcher.pending.isSome).toNat

theorem owed_of_atRest {s : WatchedFile} (h : s.AtRest) : s.owed = 0 := by
  simp [owed, h.1, h.2]

theorem owed_of_not_atRest {s : WatchedFile} (h : ¬s.AtRest) : s.owed = 1 := by
  unfold owed
  cases hstirred : s.watcher.stirred with
  | true => rfl
  | false =>
    cases hpending : s.watcher.pending with
    | none => exact absurd ⟨hstirred, hpending⟩ h
    | some since => rfl

/-- What is queued or pending is no more and no less so when it is noticed. -/
theorem owed_notice (s : WatchedFile) :
    owed { s with watcher := s.watcher.notice s.clock } = s.owed := by
  simp only [owed, Watcher.stirred_notice, Watcher.pending_notice]
  cases s.watcher.stirred <;> rfl

theorem not_atRest_of_isReady {s : WatchedFile}
    (h : (s.watcher.notice s.clock).isReady s.clock = true) : ¬s.AtRest := by
  rintro ⟨hstirred, hpending⟩
  simp [Watcher.isReady, Watcher.pending_notice, hstirred, hpending] at h

/-- What a watcher has to do with its file and with the past. -/
structure Followed (s : WatchedFile) : Prop where
  heard : s.watcher.lastKnown = s.heard
  current : s.AtRest → s.readable = true → s.content.isSome = true ∧ s.content = s.heard
  past : ∀ last ∈ s.writes.head?, last ≤ s.clock
  /-- Unless an event is queued, the wait began after the last write. -/
  waiting : s.watcher.stirred = false → ∀ since, s.watcher.pending = some since →
    ∀ last ∈ s.writes.head?, last ≤ since
  quiet : s.AtRest → ∀ last ∈ s.writes.head?, last + s.watcher.quiet ≤ s.clock

theorem followed_start (target : String) (quiet : Nat) (content known : Option String) :
    (start target quiet content known).Followed where
  heard := rfl
  current := by
    intro _ hreadable
    have h : content.isSome = true ∧ known = content := by simpa [start] using hreadable
    exact ⟨h.1, h.2.symm⟩
  past := by simp [start]
  waiting := by simp [start]
  quiet := by simp [start]

variable {s : WatchedFile}

/-- A write starts everything anew but what is known. -/
theorem followed_put (h : s.watcher.lastKnown = s.heard) (content : Option String) :
    (s.put content).Followed where
  heard := (s.watcher.lastKnown_hear _).trans h
  current := by simp [AtRest, put, Watcher.stir]
  past := by simp [put]
  waiting := by simp [put, Watcher.stir]
  quiet := by simp [AtRest, put, Watcher.stir]

/-- The last write is a quiet period ago when the watcher is done waiting. -/
theorem Followed.quiet_of_isReady (h : s.Followed)
    (hready : (s.watcher.notice s.clock).isReady s.clock = true) :
    ∀ last ∈ s.writes.head?, last + s.watcher.quiet ≤ s.clock := by
  intro last hlast
  have hpast := h.past last hlast
  simp only [Watcher.isReady, Watcher.pending_notice, Watcher.quiet_notice] at hready
  cases hstirred : s.watcher.stirred with
  | true =>
    simp only [hstirred, if_true, Nat.sub_self, decide_eq_true_eq] at hready
    omega
  | false =>
    simp only [hstirred, Bool.false_eq_true, if_false] at hready
    cases hpending : s.watcher.pending with
    | none => simp [hpending] at hready
    | some since =>
      have hsince := h.waiting hstirred since hpending last hlast
      simp only [hpending, decide_eq_true_eq] at hready
      omega

theorem Followed.poll (h : s.Followed) : (s.step .poll).Followed := by
  obtain ⟨-, hstep⟩ | ⟨hready, ⟨hcontent, hstep⟩ | ⟨text, hcontent, -, hstep⟩⟩ := s.step_poll_cases
  · rw [hstep]
    have hrest (hpending : (s.watcher.notice s.clock).pending = none) : s.AtRest := by
      rw [Watcher.pending_notice] at hpending
      cases hstirred : s.watcher.stirred with
      | true => simp [hstirred] at hpending
      | false => exact ⟨hstirred, by simpa [hstirred] using hpending⟩
    refine ⟨by simpa using h.heard, fun hnow => h.current (hrest hnow.2), h.past, ?_,
      fun hnow => by simpa using h.quiet (hrest hnow.2)⟩
    intro _ since hsince last hlast
    rw [Watcher.pending_notice] at hsince
    cases hstirred : s.watcher.stirred with
    | true =>
      obtain rfl : s.clock = since := by simpa [hstirred] using hsince
      exact h.past last hlast
    | false => exact h.waiting hstirred since (by simpa [hstirred] using hsince) last hlast
  · rw [hstep]
    refine ⟨h.heard, ?_, h.past, by simp, fun _ => h.quiet_of_isReady hready⟩
    intro _ (hsome : s.content.isSome = true)
    obtain hnone | hknown := hcontent
    · simp [hnone] at hsome
    · exact ⟨hsome, hknown.trans h.heard⟩
  · rw [hstep]
    exact ⟨rfl, fun _ _ => by simp [hcontent], h.past, by simp, fun _ => h.quiet_of_isReady hready⟩

theorem Followed.step (h : s.Followed) (act : Act) : (s.step act).Followed := by
  cases act with
  | wait time =>
    refine ⟨h.heard, h.current, ?_, h.waiting, ?_⟩
    · intro last hlast
      exact Nat.le_add_right_of_le (h.past last hlast)
    · intro hrest last hlast
      exact Nat.le_add_right_of_le (h.quiet hrest last hlast)
  | write content => exact followed_put h.heard content
  | save text => exact followed_put rfl (some text)
  | poll => exact h.poll

theorem Followed.run (h : s.Followed) (acts : List Act) : (s.run acts).Followed := by
  induction acts generalizing s with
  | nil => exact h
  | cons act acts ih => exact ih (h.step act)

/-! ### Reports and bursts -/

theorem quiet_step (s : WatchedFile) (act : Act) :
    (s.step act).watcher.quiet = s.watcher.quiet := by
  cases act with
  | wait => rfl
  | write | save => exact Watcher.quiet_hear _ _
  | poll =>
    obtain ⟨-, hstep⟩ | ⟨-, ⟨-, hstep⟩ | ⟨text, -, -, hstep⟩⟩ := s.step_poll_cases <;> simp [hstep]

theorem quiet_run (s : WatchedFile) (acts : List Act) :
    (s.run acts).watcher.quiet = s.watcher.quiet := by
  induction acts generalizing s with
  | nil => rfl
  | cons act acts ih => exact (ih (s.step act)).trans (quiet_step s act)

/-- A write opens a burst, or falls into one whose report is still owed. -/
theorem reports_put
    (h : s.AtRest → ∀ last ∈ s.writes.head?, last + s.watcher.quiet ≤ s.clock)
    (content : Option String) :
    (s.put content).reports.length + (s.put content).owed + bursts s.watcher.quiet s.writes ≤
      s.reports.length + s.owed + bursts s.watcher.quiet (s.put content).writes := by
  have howed : (s.put content).owed = 1 := by
    rw [put_eq]
    rfl
  have hwrites : (s.put content).writes = s.clock :: s.writes := rfl
  have hreports : (s.put content).reports = s.reports := rfl
  rw [howed, hwrites, hreports, bursts]
  by_cases hrest : s.AtRest
  · rw [if_pos (h hrest)]
    omega
  · rw [owed_of_not_atRest hrest]
    omega

theorem reports_poll (s : WatchedFile) :
    (s.step .poll).reports.length + (s.step .poll).owed ≤ s.reports.length + s.owed := by
  obtain ⟨-, hstep⟩ | ⟨hready, ⟨-, hstep⟩ | ⟨text, -, -, hstep⟩⟩ := s.step_poll_cases
  · simp only [hstep, s.owed_notice, Nat.le_refl]
  · simp [hstep, owed]
  · rw [owed_of_not_atRest (not_atRest_of_isReady hready)]
    simp [hstep, owed]

/-- Reports and bursts keep step. -/
theorem Followed.reports_step (h : s.Followed) (act : Act) :
    (s.step act).reports.length + (s.step act).owed + bursts s.watcher.quiet s.writes ≤
      s.reports.length + s.owed + bursts s.watcher.quiet (s.step act).writes := by
  cases act with
  | wait time => exact Nat.le_refl _
  | write content => exact reports_put h.quiet content
  | save text =>
    let noted := { s with watcher := s.watcher.note text, heard := some text }
    exact reports_put (s := noted) h.quiet (some text)
  | poll => exact Nat.add_le_add_right s.reports_poll _

theorem Followed.reports_run (h : s.Followed) (acts : List Act) :
    (s.run acts).reports.length + (s.run acts).owed + bursts s.watcher.quiet s.writes ≤
      s.reports.length + s.owed + bursts s.watcher.quiet (s.run acts).writes := by
  induction acts generalizing s with
  | nil => exact Nat.le_refl _
  | cons act acts ih =>
    have hstep := h.reports_step act
    have hrun := ih (h.step act)
    rw [quiet_step] at hrun
    change ((s.step act).run acts).reports.length + ((s.step act).run acts).owed + _ ≤
      _ + bursts s.watcher.quiet ((s.step act).run acts).writes
    omega

/-! ### The session's own text -/

/-- Whether the file still holds a text if it held it before. -/
def Act.Keeps (text : String) : Act → Prop
  | .write content => content = some text
  | .save saved => saved = text
  | .wait _ | .poll => True

/-- What a step does while a text stays in the file: nothing is reported, and what is known of the
text stays known, or the text is new and is reported, and then it is known. -/
theorem step_keeps {text : String} {act : Act} (hcontent : s.content = some text)
    (h : act.Keeps text) :
    (s.step act).content = some text ∧
      ((s.step act).reports = s.reports ∧
          (s.watcher.lastKnown = some text → (s.step act).watcher.lastKnown = some text) ∨
        s.watcher.lastKnown ≠ some text ∧ (s.step act).reports = text :: s.reports ∧
          (s.step act).watcher.lastKnown = some text) := by
  cases act with
  | wait time => exact ⟨hcontent, .inl ⟨rfl, id⟩⟩
  | write content => exact ⟨h, .inl ⟨rfl, (s.watcher.lastKnown_hear _).trans⟩⟩
  | save saved =>
    have hknows := (s.watcher.note saved).lastKnown_hear { paths := [s.watcher.target] }
    exact ⟨congrArg some h, .inl ⟨rfl, fun _ => hknows.trans (congrArg some h)⟩⟩
  | poll =>
    refine ⟨hcontent, ?_⟩
    obtain ⟨-, hstep⟩ | ⟨-, ⟨-, hstep⟩ | ⟨found, hfound, hnew, hstep⟩⟩ := s.step_poll_cases
    · rw [hstep]
      exact .inl ⟨rfl, fun hknown => (s.watcher.lastKnown_notice s.clock).trans hknown⟩
    · rw [hstep]
      exact .inl ⟨rfl, id⟩
    · obtain rfl : text = found := Option.some.inj (hcontent.symm.trans hfound)
      rw [hstep]
      exact .inr ⟨hnew, rfl, rfl⟩

/-- A text that is known and stays in the file is not reported. -/
theorem reports_of_keeps {text : String} {acts : List Act} (hcontent : s.content = some text)
    (hknown : s.watcher.lastKnown = some text) (h : ∀ act ∈ acts, act.Keeps text) :
    (s.run acts).reports = s.reports := by
  induction acts generalizing s with
  | nil => rfl
  | cons act acts ih =>
    rw [List.forall_mem_cons] at h
    obtain ⟨hstays, ⟨hreports, hknows⟩ | ⟨hnew, -⟩⟩ := step_keeps hcontent h.1
    · exact (ih hstays (hknows hknown) h.2).trans hreports
    · exact absurd hknown hnew

/-- A text that stays in the file is reported once at most, for then it is known. -/
theorem reports_of_keeps_cases {text : String} {acts : List Act} (hcontent : s.content = some text)
    (h : ∀ act ∈ acts, act.Keeps text) :
    (s.run acts).reports = s.reports ∨ (s.run acts).reports = text :: s.reports := by
  induction acts generalizing s with
  | nil => exact .inl rfl
  | cons act acts ih =>
    rw [List.forall_mem_cons] at h
    obtain ⟨hstays, ⟨hreports, -⟩ | ⟨-, hreports, hknows⟩⟩ := step_keeps hcontent h.1
    · rw [← hreports]
      exact ih hstays h.2
    · exact .inr ((reports_of_keeps hstays hknows h.2).trans hreports)

/-! ### What others write -/

/-- Being asked at the end of the wait leaves nothing queued or pending. -/
theorem poll_of_isReady (h : (s.watcher.notice s.clock).isReady s.clock = true) :
    (s.step .poll).AtRest ∧ (s.step .poll).readable = s.content.isSome := by
  obtain ⟨hready, -⟩ | ⟨-, ⟨-, hstep⟩ | ⟨text, hcontent, -, hstep⟩⟩ := s.step_poll_cases
  · simp [h] at hready
  · rw [hstep]
    exact ⟨⟨rfl, rfl⟩, rfl⟩
  · rw [hstep, hcontent]
    exact ⟨⟨rfl, rfl⟩, rfl⟩

/-- Being asked too early, the watcher only notices what is queued. -/
theorem poll_of_not_isReady (h : (s.watcher.notice s.clock).isReady s.clock = false) :
    s.step .poll = { s with watcher := s.watcher.notice s.clock } := by
  obtain ⟨-, hstep⟩ | ⟨hready, -⟩ := s.step_poll_cases
  · exact hstep
  · simp [h] at hready

theorem poll_of_atRest (h : s.AtRest) : s.step .poll = s := by
  have hnotice : s.watcher.notice s.clock = s.watcher := by simp [Watcher.notice, h.1]
  have hready : (s.watcher.notice s.clock).isReady s.clock = false := by
    simp [hnotice, Watcher.isReady, h.2]
  rw [poll_of_not_isReady hready, hnotice]

/-- Of two polls after a write, with a quiet period between, one is at the end of the wait. -/
theorem exists_ready_after_quiet (s : WatchedFile) (content : Option String) {time : Nat}
    (h : s.watcher.quiet ≤ time) :
    ∃ ready : WatchedFile, (ready.watcher.notice ready.clock).isReady ready.clock = true ∧
      ready.content = content ∧ ready.watcher.lastKnown = s.watcher.lastKnown ∧
      ready.reports = s.reports ∧
      s.run [.write content, .poll, .wait time, .poll] =
        { ready.step .poll with clock := s.clock + time } := by
  let written := s.put content
  let waited := (written.step .poll).step (.wait time)
  change ∃ ready : WatchedFile, _ ∧ _ ∧ _ ∧ _ ∧ waited.step .poll = _
  cases hready : (written.watcher.notice written.clock).isReady written.clock with
  | true =>
    refine ⟨written, hready, rfl, s.watcher.lastKnown_hear _, rfl, ?_⟩
    have hrest : waited.AtRest := (poll_of_isReady hready).1
    rw [poll_of_atRest hrest]
    rfl
  | false =>
    have hwaited : waited = { written with
        watcher := written.watcher.notice written.clock, clock := s.clock + time } := by
      simp only [waited, poll_of_not_isReady hready]
      rfl
    refine ⟨waited, ?_, rfl, ?_, ?_, rfl⟩
    · rw [hwaited]
      simpa [written, put, Watcher.stir, Watcher.notice, Watcher.isReady] using h
    · rw [hwaited]
      simp [written, put, Watcher.stir]
    · rw [hwaited]
      rfl

theorem rests_after_quiet (s : WatchedFile) (text : String) {time : Nat}
    (h : s.watcher.quiet ≤ time) :
    let later := s.run [.write (some text), .poll, .wait time, .poll]
    later.AtRest ∧ later.readable = true ∧ later.content = some text := by
  obtain ⟨ready, hready, hcontent, -, -, hrun⟩ := s.exists_ready_after_quiet (some text) h
  obtain ⟨hrest, hreadable⟩ := poll_of_isReady hready
  rw [hrun]
  exact ⟨hrest, by rw [hreadable, hcontent, Option.isSome_some], hcontent⟩

/-! ### All together -/

/-- After any run: a poll never gives the text that the session noted or was given last, so that a
text that the session saved is not reported as long as it is in the file; between two moments the
first of which is at rest there are no more reports than bursts of writes; at rest, if the file
could be read the last time, the watcher knows what it holds; and what others write is known after
two polls with a quiet period between. -/
theorem watched_file_is_followed (target : String) (quiet : Nat) (content known : Option String)
    (acts : List Act) :
    let s := (start target quiet content known).run acts
    (∀ text, (s.watcher.poll s.clock s.content).1 = some text → s.heard ≠ some text) ∧
    (∀ text more, (∀ act ∈ more, act.Keeps text) →
      ((s.step (.save text)).run more).reports = s.reports) ∧
    (∀ more, s.AtRest → (s.run more).reports.length + bursts quiet s.writes ≤
      s.reports.length + bursts quiet (s.run more).writes) ∧
    (s.AtRest → s.readable = true →
      ∃ text, s.content = some text ∧ s.watcher.lastKnown = some text) ∧
    ∀ text time, quiet ≤ time →
      (s.run [.write (some text), .poll, .wait time, .poll]).heard = some text := by
  have h := (followed_start target quiet content known).run acts
  have hquiet := quiet_run (start target quiet content known) acts
  intro s
  refine ⟨?_, ?_, ?_, ?_, ?_⟩
  · intro text htext
    obtain ⟨-, hpoll⟩ | ⟨-, ⟨-, hpoll⟩ | ⟨found, -, hnew, hpoll⟩⟩ :=
      s.watcher.poll_cases s.clock s.content
    · simp [hpoll] at htext
    · simp [hpoll] at htext
    · obtain rfl : found = text := by simpa [hpoll] using htext
      rwa [← h.heard]
  · intro text more hmore
    exact reports_of_keeps rfl ((s.watcher.note text).lastKnown_hear _) hmore
  · intro more hrest
    have hmore := h.reports_run more
    rw [hquiet, owed_of_atRest hrest] at hmore
    exact Nat.le_trans (Nat.add_le_add_right (Nat.le_add_right ..) _) hmore
  · intro hrest hreadable
    obtain ⟨hsome, hcontent⟩ := h.current hrest hreadable
    obtain ⟨text, htext⟩ := Option.isSome_iff_exists.mp hsome
    exact ⟨text, htext, h.heard.trans (hcontent.symm.trans htext)⟩
  · intro text time htime
    have hwait : s.watcher.quiet ≤ time := Nat.le_trans (Nat.le_of_eq hquiet) htime
    obtain ⟨hrest, hreadable, hcontent⟩ := rests_after_quiet s text hwait
    have hlater := h.run [.write (some text), .poll, .wait time, .poll]
    exact (hlater.current hrest hreadable).2.symm.trans hcontent

/-- Two writes in a burst are told of once, and the session's own text not at all. -/
example :
    let s := run (start "a.mmd" 250 (some "a") (some "a")) [.write (some "b"), .poll, .wait 100,
      .write (some "c"), .poll, .wait 250, .poll, .save "d", .poll, .wait 250, .poll]
    s.reports = ["c"] ∧ s.heard = some "d" ∧ s.watcher.pending = none := by
  decide

end WatchedFile

end DiagramDesk
