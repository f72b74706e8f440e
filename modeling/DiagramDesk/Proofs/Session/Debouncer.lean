import Mathlib.Data.List.Chain
import DiagramDesk.Session.Turn

/-!
A debouncer told by its history: which requests came, when it was asked, and what
it answered. The one request it keeps is the latest one, as long as nothing has
fired since; from this follows every answer. A burst of requests fires once, and
nothing fires that was not requested. The loop of a live session makes such a
history, turn by turn.
-/
namespace DiagramDesk

namespace Debouncer

/-- What is done with a debouncer: a request comes, or it is asked whether to fire. -/
inductive Call where
  | request (now : Nat)
  | ask (now : Nat)
  deriving DecidableEq, Repr

/-- What has come to pass: a request, or a question with its answer. -/
inductive Event where
  | requested (now : Nat)
  | asked (now : Nat) (fired : Bool)
  deriving DecidableEq, Repr

def Call.time : Call → Nat
  | request now | ask now => now

def Call.request? : Call → Option Nat
  | request now => some now
  | ask _ => none

def Event.isFiring : Event → Bool
  | requested _ => false
  | asked _ fired => fired

def requests (calls : List Call) : List Nat := calls.filterMap Call.request?

def act (d : Debouncer) : Call → Event × Debouncer
  | .request now => (.requested now, d.queue now)
  | .ask now => (.asked now (d.fire now).1, (d.fire now).2)

def record (d : Debouncer) : List Call → List Event
  | [] => []
  | c :: calls => (d.act c).1 :: (d.act c).2.record calls

def after (d : Debouncer) (calls : List Call) : Debouncer :=
  calls.foldl (fun d c => (d.act c).2) d

theorem record_append (d : Debouncer) (front rest : List Call) :
    d.record (front ++ rest) = d.record front ++ (d.after front).record rest := by
  induction front generalizing d with
  | nil => rfl
  | cons c front ih =>
    rw [List.cons_append, record, ih, record, List.cons_append]
    rfl

def firings (d : Debouncer) (calls : List Call) : Nat := (d.record calls).countP Event.isFiring

/-- In a history, a request of some time is the latest one, and nothing has fired since. -/
def Waits (history : List Event) (since : Nat) : Prop :=
  ∃ earlier later, history = earlier ++ .requested since :: later ∧
    ∀ e ∈ later, ∃ now, e = .asked now false

variable {d : Debouncer} {history : List Event}

/-! ### Single calls -/

theorem fire_of_idle (h : d.pending = none) (now : Nat) : d.fire now = (false, d) := by
  simp [fire, isReady, h]

theorem fire_of_ready {since now : Nat} (h : d.pending = some since) (hr : d.delay ≤ now - since) :
    d.fire now = (true, { d with pending := none }) := by
  simp [fire, isReady, h, hr]

theorem fire_of_early {since now : Nat} (h : d.pending = some since)
    (hr : ¬ d.delay ≤ now - since) : d.fire now = (false, d) := by
  simp [fire, isReady, h, hr]

theorem fire_iff (d : Debouncer) (now : Nat) :
    (d.fire now).1 = true ↔ ∃ since, d.pending = some since ∧ d.delay ≤ now - since := by
  cases h : d.pending with
  | none => simp [fire_of_idle h]
  | some since =>
    by_cases hr : d.delay ≤ now - since
    · simp [fire_of_ready h hr, hr]
    · simp [fire_of_early h hr, hr]

theorem fire_fst (d : Debouncer) (now : Nat) : (d.fire now).1 = d.isReady now := by
  unfold fire
  split <;> simp_all

/-- A firing lets go of what was kept; another answer changes nothing. -/
theorem fire_snd (d : Debouncer) (now : Nat) :
    (d.fire now).2 = if (d.fire now).1 then { d with pending := none } else d := by
  unfold fire
  split <;> rfl

@[simp] theorem delay_act (d : Debouncer) (c : Call) : (d.act c).2.delay = d.delay := by
  cases c with
  | request now => rfl
  | ask now =>
    simp only [act, fire_snd]
    split <;> rfl

/-! ### The answers -/

/-- One more event: a request waits from now on, a firing ends every wait, and being told to wait
changes nothing. -/
theorem waits_concat (history : List Event) (e : Event) (since : Nat) :
    Waits (history ++ [e]) since ↔
      e = .requested since ∨ (Waits history since ∧ ∃ now, e = .asked now false) := by
  constructor
  · rintro ⟨earlier, later, he, hlater⟩
    rcases later.eq_nil_or_concat with rfl | ⟨later, last, rfl⟩
    · exact .inl (List.cons.inj (List.append_inj' he rfl).2).1
    · rw [List.concat_eq_append, ← List.cons_append, ← List.append_assoc] at he
      obtain ⟨hhistory, hlast⟩ := List.append_inj' he rfl
      obtain rfl := (List.cons.inj hlast).1
      exact .inr ⟨⟨earlier, later, hhistory, fun x hx => hlater x (by simp [hx])⟩,
        hlater e (by simp)⟩
  · rintro (rfl | ⟨⟨earlier, later, rfl, hlater⟩, now, rfl⟩)
    · exact ⟨history, [], rfl, by simp⟩
    · refine ⟨earlier, later ++ [.asked now false], by simp, fun e he => ?_⟩
      rcases List.mem_append.mp he with he | he
      · exact hlater e he
      · exact ⟨now, List.mem_singleton.mp he⟩

/-- What a debouncer keeps is what waits in its history. -/
def Agrees (d : Debouncer) (history : List Event) : Prop :=
  ∀ since, d.pending = some since ↔ Waits history since

theorem agrees_nil (h : d.pending = none) : Agrees d [] := by
  intro since
  simp [h, Waits]

/-- One call keeps the agreement. -/
theorem Agrees.act (h : Agrees d history) (c : Call) :
    Agrees (d.act c).2 (history ++ [(d.act c).1]) := by
  intro since
  rw [waits_concat, ← h since]
  cases c with
  | request now => simp [Debouncer.act, queue]
  | ask now =>
    simp only [Debouncer.act, fire_snd]
    cases (d.fire now).1 <;> simp

theorem Agrees.fire_iff (h : Agrees d history) (now : Nat) :
    (d.fire now).1 = true ↔ ∃ since, Waits history since ∧ d.delay ≤ now - since := by
  rw [Debouncer.fire_iff]
  exact exists_congr fun since => and_congr_left' (h since)

/-- Every answer in a run follows from the history ahead of it. -/
theorem Agrees.answer_iff (h : Agrees d history) (calls : List Call) {before after : List Event}
    {now : Nat} {fired : Bool} (hr : d.record calls = before ++ .asked now fired :: after) :
    fired = true ↔ ∃ since, Waits (history ++ before) since ∧ d.delay ≤ now - since := by
  -- The history so far grows with each call, so that it is always the one ahead of the answer.
  induction calls generalizing d history before with
  | nil => simp [record] at hr
  | cons c calls ih =>
    cases before with
    | nil =>
      rw [record, List.nil_append, List.cons.injEq] at hr
      cases c with
      | request time => simp [Debouncer.act] at hr
      | ask time =>
        simp only [Debouncer.act, Event.asked.injEq] at hr
        obtain ⟨⟨rfl, rfl⟩, -⟩ := hr
        rw [List.append_nil]
        exact h.fire_iff time
    | cons e before =>
      rw [record, List.cons_append, List.cons.injEq] at hr
      obtain ⟨rfl, hr⟩ := hr
      simpa using ih (h.act c) hr

/-! ### How often it fires -/

theorem firings_cons (d : Debouncer) (c : Call) (calls : List Call) :
    d.firings (c :: calls) = (d.act c).2.firings calls + if (d.act c).1.isFiring then 1 else 0 := by
  rw [firings, record, List.countP_cons]
  rfl

theorem firings_request (d : Debouncer) (now : Nat) (calls : List Call) :
    d.firings (.request now :: calls) = (d.queue now).firings calls :=
  firings_cons d (.request now) calls

theorem firings_ask_idle (h : d.pending = none) (now : Nat) (calls : List Call) :
    d.firings (.ask now :: calls) = d.firings calls := by
  simp [firings_cons, act, fire_of_idle h, Event.isFiring]

theorem firings_ask_ready {since now : Nat} (h : d.pending = some since)
    (hr : d.delay ≤ now - since) (calls : List Call) :
    d.firings (.ask now :: calls) = Debouncer.firings { d with pending := none } calls + 1 := by
  simp [firings_cons, act, fire_of_ready h hr, Event.isFiring]

theorem firings_ask_early {since now : Nat} (h : d.pending = some since)
    (hr : ¬ d.delay ≤ now - since) (calls : List Call) :
    d.firings (.ask now :: calls) = d.firings calls := by
  simp [firings_cons, act, fire_of_early h hr, Event.isFiring]

@[simp] theorem requests_request (now : Nat) (calls : List Call) :
    requests (.request now :: calls) = now :: requests calls := rfl

@[simp] theorem requests_ask (now : Nat) (calls : List Call) :
    requests (.ask now :: calls) = requests calls := rfl

/-- Each firing takes a request with it, and there is never more than one to take. -/
theorem firings_le (d : Debouncer) (calls : List Call) :
    d.firings calls ≤ (requests calls).length + d.pending.toList.length := by
  induction calls generalizing d with
  | nil => simp [firings, record]
  | cons c calls ih =>
    cases c with
    | request now =>
      have hrest := ih (d.queue now)
      have hone : (d.queue now).pending.toList.length = 1 := rfl
      rw [firings_request, requests_request, List.length_cons]
      omega
    | ask now =>
      rw [requests_ask]
      cases hp : d.pending with
      | none =>
        rw [firings_ask_idle hp, ← hp]
        exact ih d
      | some since =>
        by_cases hr : d.delay ≤ now - since
        · rw [firings_ask_ready hp hr]
          exact Nat.add_le_add_right (ih { d with pending := none }) 1
        · rw [firings_ask_early hp hr, ← hp]
          exact ih d

theorem firings_eq_zero (h : d.pending = none) {calls : List Call} (hc : requests calls = []) :
    d.firings calls = 0 := by
  simpa [hc, h] using d.firings_le calls

/-- The time of the latest request, given that of the latest one so far. -/
def latest (since : Nat) (calls : List Call) : Nat := (requests calls).getLastD since

@[simp] theorem latest_request (since now : Nat) (calls : List Call) :
    latest since (.request now :: calls) = latest now calls := by
  rw [latest, latest, requests_request, List.getLastD_cons]

@[simp] theorem latest_ask (since now : Nat) (calls : List Call) :
    latest since (.ask now :: calls) = latest since calls := rfl

/-- The times of requests are times of calls. -/
theorem le_of_mem_requests {since : Nat} {calls : List Call}
    (h : ∀ t ∈ calls.map Call.time, since ≤ t) : ∀ t ∈ requests calls, since ≤ t := by
  intro t ht
  obtain ⟨c, hc, hct⟩ := List.mem_filterMap.mp ht
  cases c with
  | request now =>
    obtain rfl := Option.some.inj hct
    exact h now (List.mem_map_of_mem hc)
  | ask now => cases hct

theorem le_latest {since : Nat} {calls : List Call}
    (h : ∀ t ∈ calls.map Call.time, since ≤ t) : since ≤ latest since calls := by
  rw [latest]
  cases hr : (requests calls).getLast? with
  | none => simp [List.getLastD_eq_getLast?, hr]
  | some t =>
    rw [List.getLastD_eq_getLast?, hr]
    exact le_of_mem_requests h t (List.mem_of_getLast? hr)

/-- Behind a firing there are no more requests of the same burst. -/
theorem requests_of_ready {delay since now : Nat} {calls : List Call} (hr : delay ≤ now - since)
    (htimes : ∀ t ∈ calls.map Call.time, now ≤ t)
    (hgaps : (since :: requests calls).IsChain fun s t => t - s < delay) : requests calls = [] := by
  cases hc : requests calls with
  | nil => rfl
  | cons t ts =>
    rw [hc, List.isChain_cons_cons] at hgaps
    have hnow : now ≤ t := le_of_mem_requests htimes t (by simp [hc])
    omega

/-- With a request waiting, others that come within the delay only put off its firing, which
happens once it is asked for behind the delay of the last of them. -/
theorem firings_burst {since : Nat} (hp : d.pending = some since) (calls : List Call)
    (htimes : (since :: calls.map Call.time).Pairwise (· ≤ ·))
    (hgaps : (since :: requests calls).IsChain fun s t => t - s < d.delay) :
    d.firings calls ≤ 1 ∧ (d.firings calls = 1 ↔
      ∃ now, .ask now ∈ calls ∧ d.delay ≤ now - latest since calls) := by
  induction calls generalizing d since with
  | nil => simp [firings, record]
  | cons c calls ih =>
    obtain ⟨hsince, htimes⟩ := List.pairwise_cons.mp htimes
    cases c with
    | request now =>
      rw [requests_request, List.isChain_cons_cons] at hgaps
      simp only [firings_request, latest_request, List.mem_cons, reduceCtorEq, false_or]
      exact ih (d := d.queue now) rfl htimes hgaps.2
    | ask now =>
      have hlater : ∀ t ∈ calls.map Call.time, now ≤ t := (List.pairwise_cons.mp htimes).1
      have hcalls : ∀ t ∈ calls.map Call.time, since ≤ t :=
        fun t ht => hsince t (List.mem_cons_of_mem _ ht)
      rw [requests_ask] at hgaps
      by_cases hr : d.delay ≤ now - since
      -- It fires, and the burst is over: another request would come too late for it.
      · have hnone := requests_of_ready hr hlater hgaps
        have hlatest : latest since calls = since := by rw [latest, hnone, List.getLastD_nil]
        rw [firings_ask_ready hp hr, firings_eq_zero rfl hnone, latest_ask, hlatest]
        exact ⟨le_rfl, iff_of_true rfl ⟨now, List.mem_cons_self, hr⟩⟩
      -- It waits, as it would behind any later request.
      · have hle := le_latest hcalls
        have hearly : ¬ d.delay ≤ now - latest since calls := by omega
        have hrest := List.pairwise_cons.mpr ⟨hcalls, (List.pairwise_cons.mp htimes).2⟩
        simpa [firings_ask_early hp hr, or_and_right, exists_or, hearly] using ih hp hrest hgaps

end Debouncer

namespace LiveSession

variable (engine : Engine) (l : LiveSession)

/-! ### The loop -/

@[simp] theorem debouncer_pollFile (now : Nat) :
    (l.pollFile engine now).debouncer = l.debouncer := by
  unfold pollFile
  split <;> rfl

@[simp] theorem debouncer_saveIfAsked : l.saveIfAsked.debouncer = l.debouncer := by
  unfold saveIfAsked
  split <;> rfl

theorem debouncer_queueRender (now : Nat) :
    (l.queueRender now).debouncer =
      if l.studio.session.renderRequested then l.debouncer.queue now else l.debouncer := by
  unfold queueRender
  split <;> rfl

/-- What is done with the debouncer in a turn: a request may come, then it is asked. -/
def turnCalls (requested : Bool) (now : Nat) : List Debouncer.Call :=
  if requested then [.request now, .ask now] else [.ask now]

def turnEvents (r : TurnRecord) (now : Nat) : List Debouncer.Event :=
  if r.renderRequested then [.requested now, .asked now r.fired] else [.asked now r.fired]

/-- A turn does to the debouncer what its record says. -/
theorem record_turn (i : TurnInput) :
    let calls := turnCalls (l.turn engine i).1.renderRequested i.now
    l.debouncer.record calls = turnEvents (l.turn engine i).1 i.now ∧
      l.debouncer.after calls = (l.turn engine i).2.debouncer := by
  let clocked : LiveSession := { l with
    studio := { l.studio with said := "", session := l.studio.session.update (.tick i.now) } }
  let dispatched := { clocked with studio := clocked.studio.dispatchAll engine i.messages }
  let polled := dispatched.pollFile engine i.now
  let queued := polled.queueRender i.now
  have hpolled : polled.debouncer = l.debouncer := debouncer_pollFile engine dispatched i.now
  have hfired : (l.turn engine i).1.fired = (queued.debouncer.fire i.now).1 :=
    (Debouncer.fire_fst queued.debouncer i.now).symm
  have hbehind : (l.turn engine i).2.debouncer = (queued.debouncer.fire i.now).2 :=
    debouncer_saveIfAsked _
  have hrequested : (l.turn engine i).1.renderRequested = polled.studio.session.renderRequested :=
    rfl
  have hqueued := debouncer_queueRender polled i.now
  rw [hpolled] at hqueued
  rw [turnEvents, hfired, hbehind, hrequested]
  cases hr : polled.studio.session.renderRequested with
  | true =>
    rw [hr, if_pos rfl] at hqueued
    exact hqueued ▸ ⟨rfl, rfl⟩
  | false =>
    rw [hr, if_neg Bool.false_ne_true] at hqueued
    exact hqueued ▸ ⟨rfl, rfl⟩

/-- What the turns of a session say of its debouncer; before each of them the files may have
changed. -/
def debounces (engine : Engine) : LiveSession → List (FileNews × TurnInput) → List Debouncer.Event
  | _, [] => []
  | l, (news, i) :: inputs =>
    let turned := (l.refresh news).turn engine i
    turnEvents turned.1 i.now ++ debounces engine turned.2 inputs

/-- The turns of a session make a history of its debouncer. -/
theorem exists_record_eq_debounces (inputs : List (FileNews × TurnInput)) :
    ∃ calls, l.debouncer.record calls = l.debounces engine inputs := by
  induction inputs generalizing l with
  | nil => exact ⟨[], rfl⟩
  | cons i inputs ih =>
    obtain ⟨hrecord, hafter⟩ := record_turn engine (l.refresh i.1) i.2
    obtain ⟨calls, hcalls⟩ := ih ((l.refresh i.1).turn engine i.2).2
    rw [← hafter] at hcalls
    refine ⟨turnCalls ((l.refresh i.1).turn engine i.2).1.renderRequested i.2.now ++ calls, ?_⟩
    exact (Debouncer.record_append _ _ _).trans (congrArg₂ (· ++ ·) hrecord hcalls)

end LiveSession

namespace Debouncer

/-- Every answer follows from the history ahead of it: a question is answered by firing exactly if
a request waits, the latest one of all with nothing fired since, and has waited for the delay. Never
is there a firing without a request of its own. Whatever was kept before, requests that come within
the delay of one another fire once if it is asked for behind the delay of the last of them, and else
not at all. What the turns of a live session say is such a history. -/
theorem answers_by_history :
    (∀ (delay : Nat) (calls : List Call),
      (∀ before after now fired,
        ({ delay } : Debouncer).record calls = before ++ .asked now fired :: after →
          (fired = true ↔ ∃ since, Waits before since ∧ delay ≤ now - since)) ∧
      ({ delay } : Debouncer).firings calls ≤ (requests calls).length) ∧
    (∀ (d : Debouncer) (first : Nat) (calls : List Call),
      (first :: calls.map Call.time).Pairwise (· ≤ ·) →
      (first :: requests calls).IsChain (fun s t => t - s < d.delay) →
      d.firings (.request first :: calls) ≤ 1 ∧
        (d.firings (.request first :: calls) = 1 ↔
          ∃ now, .ask now ∈ calls ∧ d.delay ≤ now - latest first calls)) ∧
    ∀ engine studio reporter watcher inputs, ∃ calls,
      ({ delay := renderDelay } : Debouncer).record calls =
        LiveSession.debounces engine { studio, reporter, watcher } inputs := by
  refine ⟨fun delay calls => ⟨fun before after now fired hr => ?_, ?_⟩,
    fun d first calls htimes hgaps => ?_, fun engine studio reporter watcher inputs => ?_⟩
  · exact (agrees_nil rfl).answer_iff calls hr
  · exact firings_le { delay } calls
  · rw [firings_request]
    exact firings_burst (d := d.queue first) rfl calls htimes hgaps
  · exact LiveSession.exists_record_eq_debounces engine { studio, reporter, watcher } inputs

/-- Two edits, the second one within the delay of the first, and questions all along. -/
theorem two_edits_fire_once :
    let before : List Event :=
      [.asked 0 false, .requested 100, .asked 300 false, .requested 300, .asked 500 false]
    let calls : List Call := [.ask 300, .request 300, .ask 500, .ask 550, .ask 900]
    ({ delay := 250 } : Debouncer).record (.ask 0 :: .request 100 :: calls) =
        before ++ .asked 550 true :: [.asked 900 false] ∧
      (∃ since, Waits before since ∧ 250 ≤ 550 - since) ∧
      (100 :: calls.map Call.time).Pairwise (· ≤ ·) ∧
      (100 :: requests calls).IsChain (fun s t => t - s < 250) ∧
      ({ delay := 250 } : Debouncer).firings (.request 100 :: calls) = 1 := by
  intro before calls
  have hrecord : ({ delay := 250 } : Debouncer).record (.ask 0 :: .request 100 :: calls) =
      before ++ .asked 550 true :: [.asked 900 false] := by decide
  have hwaits := ((answers_by_history.1 250 _).1 before _ 550 true hrecord).mp rfl
  have htimes : (100 :: calls.map Call.time).Pairwise (· ≤ ·) := by decide
  have hgaps : (100 :: requests calls).IsChain (fun s t => t - s < 250) := by decide
  have hburst := answers_by_history.2.1 { delay := 250 } 100 calls htimes hgaps
  exact ⟨hrecord, hwaits, htimes, hgaps, hburst.2.mpr ⟨550, by decide, by decide⟩⟩

end Debouncer

end DiagramDesk
