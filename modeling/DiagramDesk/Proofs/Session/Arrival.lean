import DiagramDesk.Export.Standard
import DiagramDesk.Proofs.Session.Messages

/-!
In what order results arrive does not matter. What renderings are made from is the
same whatever arrives and when, so the newest result is the same; it alone gets on
screen, and nothing that arrives later takes it off. Only the hint in an error
panel remembers more: it is in the language that was set when the result came.
-/
namespace DiagramDesk

/-! ### What the newest result puts on screen -/

/-- Content without the hint of a panel, which is the only part in some language. -/
def Content.plain : Content → Content
  | .error p => .error { p with hint := none }
  | content => content

/-- A status without regard to how long a success is reported, and whether it still is. -/
def RenderStatus.settled : RenderStatus → RenderStatus
  | .ok _ => .idle
  | status => status

theorem RenderStatus.settled_aged (now : Nat) (status : RenderStatus) :
    (status.aged now).settled = status.settled := by
  cases status with
  | ok expires => simp only [aged]; split <;> rfl
  | idle | rendering | error => rfl

namespace Screen

/-- The same result on screen, at different times. -/
structure Same (v w : Screen) : Prop where
  content : v.content = w.content
  status : v.status.settled = w.status.settled
  lookWarning : v.lookWarning = w.lookWarning
  marks : v.marks = w.marks

theorem Same.refl (v : Screen) : Same v v := ⟨rfl, rfl, rfl, rfl⟩

theorem Same.symm {v w : Screen} (h : Same v w) : Same w v :=
  ⟨h.content.symm, h.status.symm, h.lookWarning.symm, h.marks.symm⟩

theorem Same.trans {u v w : Screen} (h₁ : Same u v) (h₂ : Same v w) : Same u w :=
  ⟨h₁.content.trans h₂.content, h₁.status.trans h₂.status, h₁.lookWarning.trans h₂.lookWarning,
    h₁.marks.trans h₂.marks⟩

/-- A screen without the hint of a panel. -/
def plain (v : Screen) : Screen := { v with content := v.content.plain }

theorem Same.plain {v w : Screen} (h : Same v w) : Same v.plain w.plain :=
  { h with content := congrArg Content.plain h.content }

variable (p q : Pipeline) (r : RenderResult) (now now' : Nat)

/-- Whatever the language, a result looks the same but for the hint. -/
theorem same_plain_ofResult : Same (ofResult p r now).plain (ofResult q r now').plain := by
  unfold ofResult
  cases r.outcome with
  | success scene => constructor <;> simp only [plain, RenderStatus.settled]
  | empty | failure => exact ⟨rfl, rfl, rfl, rfl⟩

/-- In one language a result looks the same at all times. -/
theorem same_ofResult (h : p.lang = q.lang) : Same (ofResult p r now) (ofResult q r now') := by
  unfold ofResult
  cases r.outcome with
  | empty => exact ⟨rfl, rfl, rfl, rfl⟩
  | success scene => exact ⟨rfl, by simp only [RenderStatus.settled], rfl, rfl⟩
  | failure f =>
    have hpanel : p.panel f = q.panel f := by simp only [Pipeline.panel, h]
    exact ⟨congrArg Content.error hpanel, rfl, rfl, rfl⟩

theorem settled_ofResult_ne : (ofResult p r now).status.settled ≠ .rendering := by
  unfold ofResult
  cases r.outcome <;> exact RenderStatus.noConfusion

end Screen

/-- Only a start, a dismissal and a result change what is shown. -/
theorem Session.same_screenAfter (s : Session) {m : Message} (hstart : m ≠ .renderNow)
    (hkept : m ≠ .dismissError) (own : ∀ r, m ≠ .renderFinished r) :
    (s.screenAfter m).Same s.screen := by
  cases m with
  | renderNow => exact absurd rfl hstart
  | dismissError => exact absurd rfl hkept
  | renderFinished r => exact absurd rfl (own r)
  | tick now => exact ⟨rfl, RenderStatus.settled_aged now s.screen.status, rfl, rfl⟩
  | _ => exact Screen.Same.refl _

/-! ### Runs -/

/-- What happens in a run: a message that is no result, or the arrival of a result. Results are
numbered from zero as their renderings are started. -/
inductive Act where
  | say (m : Message) (own : ∀ r, m ≠ .renderFinished r)
  | arrive (n : Nat)

namespace Act

def start : Act := .say .renderNow (by simp)

def setLang (lang : Language) : Act := .say (.setLang lang) (by simp)

def said (acts : List Act) : List Message := acts.filterMap fun
  | .say m _ => some m
  | .arrive _ => none

def withoutArrivals (acts : List Act) : List Act := acts.filter fun
  | .say _ _ => true
  | .arrive _ => false

def isStart : Message → Bool
  | .renderNow => true
  | _ => false

def starts (acts : List Act) : Nat := (said acts).countP isStart

theorem said_append (first second : List Act) :
    said (first ++ second) = said first ++ said second := List.filterMap_append

theorem starts_append (first second : List Act) :
    starts (first ++ second) = starts first + starts second := by
  rw [starts, said_append, List.countP_append]
  rfl

theorem said_withoutArrivals (acts : List Act) : said (withoutArrivals acts) = said acts := by
  induction acts with
  | nil => rfl
  | cons a acts ih =>
    cases a with
    | say m own => exact congrArg (m :: ·) ih
    | arrive n => exact ih

end Act

namespace Studio

def opening (p : SessionPlan) (host : Host) : Studio := { session := .start p, host }

def act (engine : Engine) (d : Studio) : Act → Studio
  | .say m _ => d.dispatch engine m
  | .arrive n => match d.results[n]? with
    | some r => d.dispatch engine (.renderFinished r)
    | none => d

def play (engine : Engine) (d : Studio) (acts : List Act) : Studio := acts.foldl (act engine) d

theorem play_append (engine : Engine) (d : Studio) (first second : List Act) :
    d.play engine (first ++ second) = (d.play engine first).play engine second :=
  List.foldl_append

/-- What renderings are made from, and the results of those that were started. -/
structure Record where
  ground : Ground
  results : List RenderResult

def Record.next (engine : Engine) (c : Record) : Message → Record
  | .renderNow => ⟨c.ground.started, c.results ++ [c.ground.job.run engine]⟩
  | m => ⟨c.ground.after m, c.results⟩

def record (d : Studio) : Record := ⟨d.session.ground, d.results⟩

theorem record_dispatch (engine : Engine) (d : Studio) (m : Message) :
    (d.dispatch engine m).record = d.record.next engine m := by
  by_cases hm : m = .renderNow
  · subst hm
    obtain ⟨hg, hr⟩ := dispatch_renderNow engine d
    simp only [record, hg, hr, Record.next]
  · obtain ⟨hg, hr⟩ := dispatch_quiet engine d m hm
    simp only [record, hg, hr]
    cases m <;> first | rfl | exact absurd rfl hm

/-- An arrival leaves no trace in the record. -/
theorem record_arrive (engine : Engine) (d : Studio) (n : Nat) :
    (d.act engine (.arrive n)).record = d.record := by
  cases hr : d.results[n]? with
  | none => simp only [act, hr]
  | some r =>
    simp only [act, hr]
    exact record_dispatch engine d (.renderFinished r)

/-- The record depends on the messages alone, not on what arrives among them. -/
theorem record_play (engine : Engine) (d : Studio) (acts : List Act) :
    (d.play engine acts).record = (Act.said acts).foldl (Record.next engine) d.record := by
  induction acts generalizing d with
  | nil => rfl
  | cons a acts ih =>
    cases a with
    | say m own =>
      have hd := record_dispatch engine d m
      exact (ih (d.dispatch engine m)).trans (by rw [hd]; rfl)
    | arrive n =>
      have hd := record_arrive engine d n
      exact (ih (d.act engine (.arrive n))).trans (by rw [hd]; rfl)

/-! ### Numbers and tickets -/

namespace Record

/-- Results are numbered from zero and their tickets from one, and the last ticket is that of the
last result. -/
structure Numbered (c : Record) : Prop where
  tickets : c.ground.pipeline.tickets = c.results.length
  latest : c.results ≠ [] → c.ground.pipeline.latest = some c.results.length
  ticket : ∀ n r, c.results[n]? = some r → r.ticket = n + 1

/-- A message that starts no rendering gives out no ticket. -/
theorem pipeline_after (g : Ground) (m : Message) :
    (g.after m).pipeline.tickets = g.pipeline.tickets ∧
    (g.after m).pipeline.latest = g.pipeline.latest := by
  cases m <;> exact ⟨rfl, rfl⟩

theorem Numbered.next {c : Record} (h : c.Numbered) (engine : Engine) (m : Message) :
    (c.next engine m).Numbered := by
  by_cases hm : m = .renderNow
  · subst hm
    refine ⟨?_, ?_, ?_⟩
    · simp [Record.next, Ground.started, Pipeline.issue, h.tickets]
    · simp [Record.next, Ground.started, Pipeline.issue, h.tickets]
    · intro n r hr
      simp only [Record.next, List.getElem?_append] at hr
      split at hr
      · exact h.ticket n r hr
      · rename_i hn
        obtain ⟨hlt, rfl⟩ := List.getElem?_eq_some_iff.mp hr
        simp only [List.length_singleton] at hlt
        have he : n = c.results.length := by omega
        simp [he, Pipeline.ticket_run, Ground.job, Pipeline.ticket_jobFor, h.tickets]
  · have hn : c.next engine m = ⟨c.ground.after m, c.results⟩ := by
      cases m <;> first | rfl | exact absurd rfl hm
    obtain ⟨ht, hl⟩ := pipeline_after c.ground m
    rw [hn]
    exact ⟨ht.trans h.tickets, fun hne => hl.trans (h.latest hne), h.ticket⟩

theorem Numbered.foldl {c : Record} (h : c.Numbered) (engine : Engine) (ms : List Message) :
    (ms.foldl (Record.next engine) c).Numbered := by
  induction ms generalizing c with
  | nil => exact h
  | cons m ms ih => exact ih (h.next engine m)

/-- Every start adds a result, and nothing else does. -/
theorem length_results_foldl (engine : Engine) (c : Record) (ms : List Message) :
    (ms.foldl (Record.next engine) c).results.length =
      c.results.length + ms.countP Act.isStart := by
  induction ms generalizing c with
  | nil => rfl
  | cons m ms ih =>
    rw [List.foldl_cons, ih, List.countP_cons]
    cases m with
    | renderNow => simp [Record.next, Act.isStart]; omega
    | _ => rfl

/-- Without a start the results stay as they are. -/
theorem results_foldl (engine : Engine) (c : Record) (ms : List Message)
    (h : ms.countP Act.isStart = 0) :
    (ms.foldl (Record.next engine) c).results = c.results := by
  induction ms generalizing c with
  | nil => rfl
  | cons m ms ih =>
    have hm : Act.isStart m = false := by
      simpa using List.countP_eq_zero.mp h m List.mem_cons_self
    have hms : ms.countP Act.isStart = 0 := by
      rw [List.countP_cons_of_neg (by simp [hm])] at h
      exact h
    rw [List.foldl_cons, ih _ hms]
    cases m <;> first | rfl | simp [Act.isStart] at hm

end Record

variable (engine : Engine) {d : Studio}

theorem numbered_opening (p : SessionPlan) (host : Host) : (opening p host).record.Numbered :=
  ⟨rfl, fun h => absurd rfl h, by simp [opening, record]⟩

theorem numbered_play (h : d.record.Numbered) (acts : List Act) :
    (d.play engine acts).record.Numbered := by
  rw [record_play]
  exact h.foldl engine _

/-- The newest result is put on screen when it arrives. -/
theorem screen_arrive_newest (h : d.record.Numbered) {n : Nat} {r : RenderResult}
    (hr : d.results[n]? = some r) (hn : n + 1 = d.results.length) :
    (d.act engine (.arrive n)).session.screen =
      Screen.ofResult d.session.pipeline r d.session.now := by
  have hl : d.session.pipeline.latest = some r.ticket := by
    rw [h.ticket n r hr, hn]
    refine h.latest ?_
    intro he
    simp [record] at he
    simp [he] at hn
  simp only [act, hr, screen_dispatch, Session.screenAfter, if_pos hl]

/-- Any other result leaves the screen alone. -/
theorem screen_arrive_stale (h : d.record.Numbered) {n : Nat} (hn : n + 1 ≠ d.results.length) :
    (d.act engine (.arrive n)).session.screen = d.session.screen := by
  cases hr : d.results[n]? with
  | none => simp only [act, hr]
  | some r =>
    have hl : d.session.pipeline.latest ≠ some r.ticket := by
      have hne : d.record.results ≠ [] := by
        intro he
        simp only [record] at he
        simp [he] at hr
      have hlatest := h.latest hne
      have hticket := h.ticket n r hr
      simp only [record, Session.ground] at hlatest
      simp [hlatest, hticket, Ne.symm hn]
    simp only [act, hr, screen_dispatch, Session.screenAfter, if_neg hl]

/-- As long as no rendering starts, no panel is dismissed and the newest result does not come again,
the screen shows the same. -/
theorem same_play (h : d.record.Numbered) (acts : List Act) (hstart : Act.starts acts = 0)
    (hkept : .dismissError ∉ Act.said acts)
    (hlast : ∀ n, n + 1 = d.results.length → .arrive n ∉ acts) :
    (d.play engine acts).session.screen.Same d.session.screen := by
  induction acts generalizing d with
  | nil => exact Screen.Same.refl _
  | cons a acts ih =>
    cases a with
    | say m own =>
      have hm : Act.isStart m = false := by
        simpa using List.countP_eq_zero.mp hstart m List.mem_cons_self
      have hrecord := record_dispatch engine d m
      have hresults : (d.dispatch engine m).results = d.results :=
        (dispatch_quiet engine d m (by rintro rfl; cases hm)).2
      refine (ih (d := d.dispatch engine m) ?_ ?_ ?_ ?_).trans ?_
      · rw [hrecord]
        exact h.next engine m
      · exact List.countP_eq_zero.mpr fun m' hm' =>
          List.countP_eq_zero.mp hstart m' (List.mem_cons_of_mem _ hm')
      · exact fun hd => hkept (List.mem_cons_of_mem _ hd)
      · exact fun n hn ha => hlast n (hresults ▸ hn) (List.mem_cons_of_mem _ ha)
      · rw [screen_dispatch]
        exact Session.same_screenAfter d.session (by rintro rfl; cases hm)
          (by rintro rfl; exact hkept List.mem_cons_self) own
    | arrive n =>
      have hrecord := record_arrive engine d n
      -- The newest result does not come again, so this one is stale.
      have hstale : n + 1 ≠ d.results.length := fun hn => hlast n hn List.mem_cons_self
      refine (ih (d := d.act engine (.arrive n)) ?_ hstart hkept ?_).trans ?_
      · rw [hrecord]
        exact h
      · have hresults : (d.act engine (.arrive n)).results = d.results :=
          congrArg Record.results hrecord
        exact fun n hn ha => hlast n (hresults ▸ hn) (List.mem_cons_of_mem _ ha)
      · rw [screen_arrive_stale engine h hstale]
        exact Screen.Same.refl _

end Studio

/-! ### Deliveries -/

/-- A run in which the newest result arrives, with what happens before the last start, between it
and the arrival, and later. Other results come whenever they do, or never. -/
structure Delivery where
  before : List Act
  waiting : List Act
  later : List Act
  last_start : Act.starts (waiting ++ later) = 0
  /-- No panel is closed once the result is there. -/
  kept : .dismissError ∉ Act.said later
  last_arrival : .arrive (Act.starts before) ∉ later

namespace Delivery

def newest (r : Delivery) : Nat := Act.starts r.before

def eve (r : Delivery) : List Act := r.before ++ .start :: r.waiting

def acts (r : Delivery) : List Act := r.eve ++ .arrive r.newest :: r.later

section
variable (engine : Engine) (p : SessionPlan) (host : Host) (r : Delivery)

def atArrival : Studio := (Studio.opening p host).play engine r.eve

def final : Studio := (Studio.opening p host).play engine r.acts

def result : RenderResult :=
  ((Act.said r.before).foldl (Studio.Record.next engine)
    (Studio.opening p host).record).ground.job.run engine

def alone : Delivery where
  before := Act.withoutArrivals r.before
  waiting := [.setLang (r.atArrival engine p host).session.pipeline.lang]
  later := []
  last_start := rfl
  kept := List.not_mem_nil
  last_arrival := List.not_mem_nil

theorem starts_waiting : Act.starts r.waiting = 0 := by
  have h := r.last_start
  rw [Act.starts_append] at h
  exact Nat.eq_zero_of_add_eq_zero_right h

theorem starts_later : Act.starts r.later = 0 := by
  have h := r.last_start
  rw [Act.starts_append] at h
  exact Nat.eq_zero_of_add_eq_zero_left h

/-- Behind the older results stands the newest one. -/
theorem results_atArrival :
    ∃ older, older.length = r.newest ∧
      (r.atArrival engine p host).results = older ++ [r.result engine p host] := by
  refine ⟨((Act.said r.before).foldl (Studio.Record.next engine)
    (Studio.opening p host).record).results, ?_, ?_⟩
  · rw [Studio.Record.length_results_foldl]
    exact Nat.zero_add _
  · have h := congrArg Studio.Record.results
      (Studio.record_play engine (Studio.opening p host) r.eve)
    rw [eve, Act.said_append, List.foldl_append] at h
    exact h.trans (Studio.Record.results_foldl engine _ _ r.starts_waiting)

/-- At the end the screen shows the newest result, in the language of its arrival. -/
theorem screen_final :
    (r.final engine p host).session.screen.Same
      (.ofResult (r.atArrival engine p host).session.pipeline (r.result engine p host)
        (r.atArrival engine p host).session.now) := by
  obtain ⟨older, hlength, hresults⟩ := r.results_atArrival engine p host
  have hnumbered : (r.atArrival engine p host).record.Numbered :=
    Studio.numbered_play engine (Studio.numbered_opening p host) r.eve
  have hrecord := Studio.record_arrive engine (r.atArrival engine p host) r.newest
  have harrive := Studio.screen_arrive_newest engine hnumbered
    (n := r.newest) (r := r.result engine p host) (by simp [hresults, ← hlength])
    (by simp [hresults, hlength])
  rw [final, acts, Studio.play_append, ← harrive]
  refine Studio.same_play engine (hrecord ▸ hnumbered) r.later r.starts_later r.kept ?_
  intro n hn ha
  have hsame : ((r.atArrival engine p host).act engine (.arrive r.newest)).results =
      (r.atArrival engine p host).results := congrArg Studio.Record.results hrecord
  have hlast : n + 1 = r.newest + 1 := by
    rw [← hlength]
    exact hn.trans ((congrArg List.length (hsame.trans hresults)).trans List.length_append)
  obtain rfl : n = r.newest := Nat.succ.inj hlast
  exact r.last_arrival ha

theorem result_alone : (r.alone engine p host).result engine p host = r.result engine p host := by
  rw [result, result, alone, Act.said_withoutArrivals]

theorem lang_alone :
    ((r.alone engine p host).atArrival engine p host).session.pipeline.lang =
      (r.atArrival engine p host).session.pipeline.lang := by
  have h := Studio.play_append engine (Studio.opening p host)
    (Act.withoutArrivals r.before ++ [.start])
    [.setLang (r.atArrival engine p host).session.pipeline.lang]
  rw [List.append_assoc] at h
  rw [atArrival, eve, alone]
  refine (congrArg (·.session.pipeline.lang) h).trans ?_
  exact congrArg (·.pipeline.lang) (Studio.dispatch_quiet engine _ (.setLang _) (by simp)).1

/-- What is said settles which result is the newest. -/
theorem result_eq_of_said_eq {r r' : Delivery} (h : Act.said r'.acts = Act.said r.acts) :
    r'.result engine p host = r.result engine p host := by
  have hfinal (q : Delivery) :
      (q.final engine p host).record.results.getLast? = some (q.result engine p host) := by
    obtain ⟨older, -, hresults⟩ := q.results_atArrival engine p host
    have hlater : (q.final engine p host).record.results = (q.atArrival engine p host).results := by
      rw [final, acts, Studio.play_append, Studio.record_play]
      exact Studio.Record.results_foldl engine _ _ q.starts_later
    rw [hlater, hresults, List.getLast?_append]
    rfl
  have hrecord : (r'.final engine p host).record = (r.final engine p host).record := by
    rw [final, final, Studio.record_play, Studio.record_play, h]
  exact Option.some.inj ((hfinal r').symm.trans (hrecord ▸ hfinal r))

end

/-- Once the newest result has arrived, the screen shows what it shows when that result alone
arrives in the same language, and nothing is rendering. Two runs in which the same is said end with
the same screen, in whatever order results arrive, but for the hint, which is the same too if the
newest result arrives in the same language. -/
theorem converges (engine : Engine) (p : SessionPlan) (host : Host) (r : Delivery) :
    (r.final engine p host).session.screen.Same
      ((r.alone engine p host).final engine p host).session.screen ∧
    (r.final engine p host).session.preview.status ≠ .rendering ∧
    ∀ r' : Delivery, Act.said r'.acts = Act.said r.acts →
      (r'.final engine p host).session.screen.plain.Same
        (r.final engine p host).session.screen.plain ∧
      ((r'.atArrival engine p host).session.pipeline.lang =
          (r.atArrival engine p host).session.pipeline.lang →
        (r'.final engine p host).session.screen.Same (r.final engine p host).session.screen) := by
  have hshown (q : Delivery) := q.screen_final engine p host
  refine ⟨?_, ?_, fun r' hsaid => ?_⟩
  · refine (hshown r).trans (.trans ?_ (hshown (r.alone engine p host)).symm)
    rw [r.result_alone engine p host]
    exact Screen.same_ofResult _ _ _ _ _ (r.lang_alone engine p host).symm
  · intro hrendering
    refine Screen.settled_ofResult_ne _ _ _ ((hshown r).status.symm.trans ?_)
    exact congrArg RenderStatus.settled hrendering
  · have hresult := result_eq_of_said_eq engine p host hsaid
    constructor
    · refine (hshown r').plain.trans (.trans ?_ (hshown r).plain.symm)
      rw [hresult]
      exact Screen.same_plain_ofResult _ _ _ _ _
    · intro hlang
      refine (hshown r').trans (.trans ?_ (hshown r).symm)
      rw [hresult]
      exact Screen.same_ofResult _ _ _ _ _ hlang

/-! ### The hint remembers when it came -/

/-- Two renderings, of which the second arrives before the language is set to another. -/
def beforeSwitch : Delivery where
  before := [.start]
  waiting := []
  later := [.setLang .zh, .arrive 0]
  last_start := rfl
  kept := by simp [Act.said, Act.setLang]
  last_arrival := by simp [Act.starts, Act.said, Act.start, Act.isStart, Act.setLang]

/-- Two renderings, of which the second arrives after the language was set to another. -/
def afterSwitch : Delivery where
  before := [.start]
  waiting := [.arrive 0, .setLang .zh]
  later := []
  last_start := rfl
  kept := List.not_mem_nil
  last_arrival := List.not_mem_nil

/-- A session with a text that is no diagram. -/
def faultyPlan : SessionPlan where
  filePath := "flow.mmd"
  source := "x"
  settings := {}
  baseUrl := { scheme := ['f', 'i', 'l', 'e'], authority := none, path := .segments [[]] }
  dice := { numbers := id }

def bareHost : Host where
  tools := .standard
  fonts := { fetch := fun _ _ => .ok [] }

theorem converges_switch :
    Act.said afterSwitch.acts = Act.said beforeSwitch.acts ∧
    (afterSwitch.final .plain faultyPlan bareHost).session.screen.plain.Same
      (beforeSwitch.final .plain faultyPlan bareHost).session.screen.plain :=
  ⟨rfl, ((beforeSwitch.converges .plain faultyPlan bareHost).2.2 afterSwitch rfl).1⟩

/-- The same is said and the same two results arrive in the same places; which of them arrives first
decides on the language of the hint. -/
theorem hint_depends_on_order :
    beforeSwitch.acts = [.start, .start, .arrive 1, .setLang .zh, .arrive 0] ∧
    afterSwitch.acts = [.start, .start, .arrive 0, .setLang .zh, .arrive 1] ∧
    (beforeSwitch.final .plain faultyPlan bareHost).session.preview.content ≠
      (afterSwitch.final .plain faultyPlan bareHost).session.preview.content :=
  ⟨rfl, rfl, by decide +kernel⟩

end Delivery

end DiagramDesk
