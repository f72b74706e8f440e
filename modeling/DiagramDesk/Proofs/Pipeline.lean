import DiagramDesk.Pipeline

/-!
A pipeline over time. Work is started and results arrive in any order, late,
twice or never, while the language and the screen may change. Tickets tell the
starts apart, and only the result of the newest start gets on screen: a run is
the same as if no other result had ever arrived.
-/
namespace DiagramDesk

/-- The identifier of a job that draws something. -/
def RenderJob.id? : RenderJob → Option String
  | .empty _ => none
  | .render request => some request.id

namespace Pipeline

/-- What can happen around a pipeline. A result comes from any engine and names the job it is for
by its place among the jobs started so far. -/
inductive Event where
  | start (source : String) (style : Style)
  | arrive (place : Nat) (engine : Engine) (now : Nat)
  | setLang (lang : Language)
  | touch (change : Editor × Preview → Editor × Preview)

/-- A pipeline with the screen it works for, the jobs it gave out and the tickets of the results
it put on screen, both oldest first. -/
structure Desk where
  pipeline : Pipeline
  editor : Editor
  preview : Preview
  jobs : List RenderJob := []
  shown : List Nat := []

namespace Desk

def fresh (lang : Language) (editor : Editor) (preview : Preview) : Desk where
  pipeline := { lang }
  editor := editor
  preview := preview

def newest? (d : Desk) : Option Nat := d.jobs.getLast?.map RenderJob.ticket

def receive (d : Desk) (r : RenderResult) (now : Nat) : Desk :=
  match d.pipeline.apply r d.editor d.preview now with
  | (.committed, editor, preview) => { d with editor, preview, shown := d.shown ++ [r.ticket] }
  | (.stale, editor, preview) => { d with editor, preview }

def step (d : Desk) : Event → Desk
  | .start source style =>
    { d with
      pipeline := (d.pipeline.start source style).2
      jobs := d.jobs ++ [(d.pipeline.start source style).1] }
  | .arrive place engine now =>
    match d.jobs[place]? with
    | some job => d.receive (job.run engine) now
    | none => d
  | .setLang lang => { d with pipeline := d.pipeline.setLang lang }
  | .touch change =>
    { d with
      editor := (change (d.editor, d.preview)).1
      preview := (change (d.editor, d.preview)).2 }

def run (d : Desk) (events : List Event) : Desk := events.foldl step d

@[simp] theorem run_cons (d : Desk) (e : Event) (events : List Event) :
    d.run (e :: events) = (d.step e).run events := rfl

end Desk

/-! ### Identifiers -/

theorem toString_injective (m n : Nat) (h : toString m = toString n) : m = n := by
  have hd : Nat.toDigits 10 m = Nat.toDigits 10 n := by
    rw [← Nat.toList_repr, ← Nat.toList_repr]
    exact congrArg String.toList h
  have hm := Nat.ofDigitChars_toDigits (b := 10) (n := m) (by decide) (by decide)
  have hn := Nat.ofDigitChars_toDigits (b := 10) (n := n) (by decide) (by decide)
  rw [← hm, ← hn, hd]

theorem instanceId_injective (m n : Nat) (h : instanceId m = instanceId n) : m = n := by
  have hl := congrArg String.toList h
  simp only [instanceId, String.toList_append, List.append_cancel_left_eq] at hl
  exact toString_injective m n (String.toList_inj.mp hl)

/-! ### One result -/

@[simp] theorem ticket_run (job : RenderJob) (engine : Engine) :
    (job.run engine).ticket = job.ticket := by
  cases job <;> rfl

theorem ticket_jobFor (p : Pipeline) (source : String) (style : Style) :
    (p.jobFor source style).ticket = p.tickets + 1 := by
  unfold jobFor
  split <;> rfl

/-- A result is put on screen exactly if it belongs to the last ticket that was given out. -/
theorem apply_eq (p : Pipeline) (r : RenderResult) (editor : Editor) (preview : Preview)
    (now : Nat) :
    p.apply r editor preview now =
      if p.latest = some r.ticket then (.committed, p.commit r editor preview now)
      else (.stale, editor, preview) := by
  simp [apply, isLatest]

/-- A rendering that is waited for gets on screen. -/
theorem render_eq (p : Pipeline) (editor : Editor) (preview : Preview) (style : Style)
    (engine : Engine) (now : Nat) :
    p.render editor preview style engine now =
      (.committed, (p.issue editor.text).commit ((p.jobFor editor.text style).run engine) editor
        preview.setRendering now) := by
  simp only [render, start, apply_eq, ticket_run, ticket_jobFor]
  exact if_pos rfl

/-- What stands on screen once a result is there. -/
theorem content_commit (p : Pipeline) (r : RenderResult) (editor : Editor) (preview : Preview)
    (now : Nat) :
    (p.commit r editor preview now).2.content = match r.outcome with
      | .empty => .placeholder
      | .success scene => .diagram scene
      | .failure f => .error (p.panel f) := by
  unfold commit
  cases r.outcome <;> rfl

namespace Desk

theorem receive_latest (d : Desk) (r : RenderResult) (now : Nat)
    (h : d.pipeline.latest = some r.ticket) :
    d.receive r now =
      { d with
        editor := (d.pipeline.commit r d.editor d.preview now).1
        preview := (d.pipeline.commit r d.editor d.preview now).2
        shown := d.shown ++ [r.ticket] } := by
  rw [receive, apply_eq, if_pos h]

theorem receive_stale (d : Desk) (r : RenderResult) (now : Nat)
    (h : d.pipeline.latest ≠ some r.ticket) : d.receive r now = d := by
  rw [receive, apply_eq, if_neg h]

/-! ### Runs -/

/-- What the whole history of a desk has to do with its counters. -/
structure Orderly (d : Desk) : Prop where
  tickets : d.jobs.map RenderJob.ticket = List.range' 1 d.pipeline.tickets
  latest : d.pipeline.latest = d.newest?
  ids : d.jobs.filterMap RenderJob.id? = (List.range' 1 d.pipeline.instances).map instanceId
  rising : d.shown.Pairwise (· ≤ ·)
  bounded : ∀ t ∈ d.shown, t ≤ d.pipeline.tickets

theorem orderly_fresh (lang : Language) (editor : Editor) (preview : Preview) :
    Orderly (fresh lang editor preview) := by
  constructor <;> simp [fresh, newest?]

variable {d : Desk}

theorem Orderly.length_jobs (h : Orderly d) : d.jobs.length = d.pipeline.tickets := by
  have hl := congrArg List.length h.tickets
  simpa using hl

/-- Tickets count the jobs. -/
theorem Orderly.ticket_of_place (h : Orderly d) {place : Nat} {job : RenderJob}
    (hj : d.jobs[place]? = some job) : job.ticket = place + 1 := by
  have hp : (d.jobs.map RenderJob.ticket)[place]? = some job.ticket := by
    rw [List.getElem?_map, hj]
    rfl
  rw [h.tickets] at hp
  obtain ⟨hlt, he⟩ := List.getElem?_eq_some_iff.mp hp
  rw [List.getElem_range'] at he
  omega

/-- The last ticket belongs to the newest job and to no other. -/
theorem Orderly.latest_iff (h : Orderly d) {place : Nat} {job : RenderJob}
    (hj : d.jobs[place]? = some job) :
    d.pipeline.latest = some job.ticket ↔ place + 1 = d.jobs.length := by
  obtain ⟨hlt, -⟩ := List.getElem?_eq_some_iff.mp hj
  have hend : d.jobs.length - 1 < d.jobs.length := by omega
  have hlast : d.jobs[d.jobs.length - 1]? = some d.jobs[d.jobs.length - 1] :=
    List.getElem?_eq_getElem hend
  have hticket := h.ticket_of_place hlast
  rw [h.latest, newest?, List.getLast?_eq_getElem?, hlast, h.ticket_of_place hj]
  simp only [Option.map_some, Option.some.injEq, hticket]
  omega

/-- The result of a job that is not the newest changes nothing at all. -/
theorem Orderly.step_superseded (h : Orderly d) (place : Nat) (engine : Engine) (now : Nat)
    (hp : place + 1 ≠ d.jobs.length) : d.step (.arrive place engine now) = d := by
  cases hj : d.jobs[place]? with
  | none => simp [step, hj]
  | some job =>
    simp only [step, hj]
    apply receive_stale
    rw [ticket_run]
    exact mt (h.latest_iff hj).mp hp

theorem Orderly.start (h : Orderly d) (source : String) (style : Style) :
    Orderly (d.step (.start source style)) where
  tickets := by
    simp only [step, Pipeline.start, issue, List.map_append, List.map_cons, List.map_nil, h.tickets,
      ticket_jobFor, List.range'_1_concat, Nat.add_comm 1]
  latest := by
    simp [step, Pipeline.start, issue, newest?, ticket_jobFor]
  ids := by
    by_cases hb : Text.blank source.toList = true
    · simp [step, Pipeline.start, jobFor, issue, hb, h.ids, RenderJob.id?]
    · simp [step, Pipeline.start, jobFor, issue, hb, h.ids, RenderJob.id?, List.range'_1_concat,
        Nat.add_comm 1]
  rising := h.rising
  bounded := by
    intro t ht
    exact Nat.le_succ_of_le (h.bounded t ht)

theorem Orderly.receive (h : Orderly d) (r : RenderResult) (now : Nat) :
    Orderly (d.receive r now) := by
  by_cases hl : d.pipeline.latest = some r.ticket
  · have htop : r.ticket = d.pipeline.tickets := by
      obtain ⟨job, hjob, hticket⟩ : ∃ job, d.jobs.getLast? = some job ∧ job.ticket = r.ticket := by
        rw [h.latest] at hl
        exact Option.map_eq_some_iff.mp hl
      rw [List.getLast?_eq_getElem?] at hjob
      have hp := h.ticket_of_place hjob
      obtain ⟨hlt, -⟩ := List.getElem?_eq_some_iff.mp hjob
      rw [← h.length_jobs]
      omega
    rw [receive_latest d r now hl]
    refine ⟨h.tickets, h.latest, h.ids, ?_, ?_⟩
    · refine List.pairwise_append.mpr ⟨h.rising, List.pairwise_singleton _ _, ?_⟩
      intro t ht u hu
      rw [List.mem_singleton.mp hu, htop]
      exact h.bounded t ht
    · intro t ht
      rcases List.mem_append.mp ht with hs | hs
      · exact h.bounded t hs
      · exact Nat.le_of_eq ((List.mem_singleton.mp hs).trans htop)
  · rwa [receive_stale d r now hl]

/-- Whatever happens keeps the history in order. -/
theorem Orderly.step (h : Orderly d) (e : Event) : Orderly (d.step e) := by
  cases e with
  | start source style => exact h.start source style
  | arrive place engine now =>
    cases hj : d.jobs[place]? with
    | none => simpa [Desk.step, hj] using h
    | some job => simpa [Desk.step, hj] using h.receive (job.run engine) now
  | setLang lang => exact ⟨h.tickets, h.latest, h.ids, h.rising, h.bounded⟩
  | touch change => exact ⟨h.tickets, h.latest, h.ids, h.rising, h.bounded⟩

theorem Orderly.run (h : Orderly d) (events : List Event) : Orderly (d.run events) := by
  induction events generalizing d with
  | nil => exact h
  | cons e events ih => exact ih (h.step e)

/-- The events without the results of jobs that were no longer the newest when they arrived; the
number counts the jobs started before. -/
def timely : Nat → List Event → List Event
  | _, [] => []
  | n, .start source style :: events => .start source style :: timely (n + 1) events
  | n, .arrive place engine now :: events =>
    if place + 1 = n then .arrive place engine now :: timely n events else timely n events
  | n, .setLang lang :: events => .setLang lang :: timely n events
  | n, .touch change :: events => .touch change :: timely n events

@[simp] theorem jobs_receive (d : Desk) (r : RenderResult) (now : Nat) :
    (d.receive r now).jobs = d.jobs := by
  by_cases hl : d.pipeline.latest = some r.ticket
  · rw [receive_latest d r now hl]
  · rw [receive_stale d r now hl]

theorem jobs_step_arrive (d : Desk) (place : Nat) (engine : Engine) (now : Nat) :
    (d.step (.arrive place engine now)).jobs = d.jobs := by
  cases hj : d.jobs[place]? <;> simp [Desk.step, hj]

/-- Results that come too late leave no trace. -/
theorem Orderly.run_timely (h : Orderly d) (events : List Event) :
    d.run events = d.run (timely d.jobs.length events) := by
  induction events generalizing d with
  | nil => rfl
  | cons e events ih =>
    have hn := ih (h.step e)
    cases e with
    | start source style =>
      rw [run_cons, hn]
      simp [timely, Desk.step]
    | arrive place engine now =>
      rw [jobs_step_arrive] at hn
      by_cases hp : place + 1 = d.jobs.length
      · rw [run_cons, hn, timely, if_pos hp, run_cons]
      · rw [h.step_superseded place engine now hp] at hn
        rw [run_cons, h.step_superseded place engine now hp, hn, timely, if_neg hp]
    | setLang lang =>
      rw [run_cons, hn]
      rfl
    | touch change =>
      rw [run_cons, hn]
      rfl

/-- After any run from the start: tickets rise strictly and identifiers differ; a result is put on
screen exactly if its ticket is that of the newest job, and the result of any other job changes
nothing; the tickets of what was shown never fall; and the desk is as if no result had ever come
too late. -/
theorem only_newest_is_shown (lang : Language) (editor : Editor) (preview : Preview)
    (events : List Event) :
    let d := (fresh lang editor preview).run events
    (d.jobs.map RenderJob.ticket).Pairwise (· < ·) ∧
    (d.jobs.filterMap RenderJob.id?).Nodup ∧
    (∀ r now, d.pipeline.apply r d.editor d.preview now =
      if d.newest? = some r.ticket then
        (.committed, d.pipeline.commit r d.editor d.preview now)
      else (.stale, d.editor, d.preview)) ∧
    (∀ place engine now, place + 1 = d.jobs.length ∨ d.step (.arrive place engine now) = d) ∧
    d.shown.Pairwise (· ≤ ·) ∧
    d = (fresh lang editor preview).run (timely 0 events) := by
  intro d
  have hfresh := orderly_fresh lang editor preview
  have h : Orderly d := hfresh.run events
  refine ⟨?_, ?_, ?_, ?_, h.rising, hfresh.run_timely events⟩
  · rw [h.tickets]
    exact List.pairwise_lt_range'
  · rw [h.ids]
    refine List.Pairwise.map _ ?_ List.nodup_range'
    intro m n hne he
    exact hne (instanceId_injective m n he)
  · intro r now
    rw [apply_eq, h.latest]
  · intro place engine now
    by_cases hp : place + 1 = d.jobs.length
    · exact Or.inl hp
    · exact Or.inr (h.step_superseded place engine now hp)

end Desk

end Pipeline

end DiagramDesk
