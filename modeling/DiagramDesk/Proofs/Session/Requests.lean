import DiagramDesk.Session.Turn
import DiagramDesk.Proofs.Session.Messages

/-!
No change is lost. A change of the text is heard by the session, which asks for a
rendering; a change of style or language asks for one itself. The request waits in
the session, then in the debouncer, until a rendering starts, which takes the
text, the style and the language as they are then. So at every moment of the loop,
what the last rendering was started with is what it is now, or a rendering is
still owed.
-/
namespace DiagramDesk

/-- What a rendering depends on. -/
structure Snapshot where
  text : String
  style : Style
  lang : Language
  deriving DecidableEq, Repr

namespace Ground

def snapshot (g : Ground) : Snapshot := ⟨g.text, g.settings.style, g.settings.lang⟩

/-- A seed that is drawn for a rendering is kept, so that the style is still that of the rendering
after it was started. -/
theorem snapshot_started (g : Ground) :
    g.started.snapshot = ⟨g.text, g.style, g.settings.lang⟩ := by
  unfold snapshot started style Settings.styleForRender
  cases g.settings.seedMode <;> rfl

end Ground

namespace Session

def snapshot (s : Session) : Snapshot := s.ground.snapshot

/-- The session hears of new texts and has taken in all it was sent. -/
def Listens (s : Session) : Prop := s.editor.waiting? 0 = some []

theorem listens_start (p : SessionPlan) : (start p).Listens := rfl

variable {s : Session}

/-- Whatever is waiting is taken in, and a rendering is asked for. -/
theorem drainEdits_of_waiting {texts : List String} (h : s.editor.waiting? 0 = some texts) :
    s.drainEdits.Listens ∧
    (s.drainEdits.renderRequested = true ↔ s.renderRequested = true ∨ texts ≠ []) := by
  cases texts with
  | nil => simp [drainEdits, h, Listens]
  | cons text texts =>
    simp only [drainEdits, h]
    refine ⟨?_, by simp [requestRender]⟩
    simp [Listens, requestRender, Editor.waiting?_take, h]

/-- No request is taken back. If the text, the style or the language changes, a rendering is asked
for, or a new text is waiting. -/
theorem react_asks (h : s.Listens) (m : Message) :
    (s.renderRequested = true → (s.react m).renderRequested = true) ∧
    ∃ texts, (s.react m).editor.waiting? 0 = some texts ∧
      ((s.ground.after m).snapshot = s.snapshot ∨ (s.react m).renderRequested = true ∨
        texts ≠ []) := by
  cases m with
  | sourceChanged text =>
    by_cases ht : text = s.editor.text
    · rw [react, if_pos ht]
      refine ⟨id, [], h, Or.inl ?_⟩
      rw [ht]
      rfl
    · rw [react, if_neg ht]
      refine ⟨id, [text], ?_, by simp⟩
      rw [Editor.waiting?_setText, h]
      rfl
  | format =>
    by_cases hf : s.editor.isUnformatted = true
    · rw [react, if_pos hf]
      refine ⟨id, [formatSource s.editor.text], ?_, by simp⟩
      rw [requestSave, Editor.waiting?_format _ _ hf, h]
      rfl
    · rw [react, if_neg hf]
      refine ⟨id, [], h, Or.inl ?_⟩
      have he : formatSource s.editor.text = s.editor.text := by
        simpa [Editor.isUnformatted] using hf
      simp [Ground.after, Ground.snapshot, snapshot, ground, he]
  | renderFinished r =>
    rw [react, receive_eq]
    split
    · refine ⟨id, [], ?_, Or.inl rfl⟩
      simp only [Pipeline.commit]
      cases r.outcome <;> exact h
    · exact ⟨id, [], h, Or.inl rfl⟩
  | jumpToError =>
    refine ⟨id, [], ?_, Or.inl rfl⟩
    simp only [react, jumpToError]
    cases s.preview.error?.bind (·.line) <;> exact h
  | toggleHandDrawn | setTheme | setHandFont | setFontSize | reshuffleSeed | setLang =>
    exact ⟨fun _ => rfl, [], h, Or.inr (Or.inl rfl)⟩
  | _ => exact ⟨id, [], h, Or.inl rfl⟩

theorem Listens.update (h : s.Listens) (m : Message) : (s.update m).Listens := by
  obtain ⟨-, texts, hw, -⟩ := react_asks h m
  exact (drainEdits_of_waiting hw).1

theorem renderRequested_update (h : s.Listens) (hr : s.renderRequested = true) (m : Message) :
    (s.update m).renderRequested = true := by
  obtain ⟨hk, texts, hw, -⟩ := react_asks h m
  exact (drainEdits_of_waiting hw).2.mpr (Or.inl (hk hr))

/-- Whatever changes what a rendering depends on asks for one. -/
theorem snapshot_update (h : s.Listens) (m : Message) :
    (s.update m).snapshot = s.snapshot ∨ (s.update m).renderRequested = true := by
  obtain ⟨-, texts, hw, hs⟩ := react_asks h m
  rw [update, (drainEdits_of_waiting hw).2]
  rcases hs with hs | hs | hs
  · left
    rw [← hs, ← ground_update]
    rfl
  · exact Or.inr (Or.inl hs)
  · exact Or.inr (Or.inr hs)

end Session

namespace Studio

/-- What may have become of a studio in which no rendering was started. -/
structure Quiet (d d' : Studio) : Prop where
  listens : d.session.Listens → d'.session.Listens
  requested : d.session.Listens → d.session.renderRequested = true →
    d'.session.renderRequested = true
  snapshot : d.session.Listens →
    d'.session.snapshot = d.session.snapshot ∨ d'.session.renderRequested = true
  results : d'.results = d.results

theorem Quiet.of_session {d d' : Studio} (hs : d'.session = d.session)
    (hr : d'.results = d.results) : Quiet d d' := by
  refine ⟨?_, ?_, ?_, hr⟩ <;> rw [hs]
  · exact id
  · exact fun _ => id
  · exact fun _ => Or.inl rfl

theorem Quiet.refl (d : Studio) : Quiet d d := .of_session rfl rfl

theorem Quiet.trans {d₁ d₂ d₃ : Studio} (h₁ : Quiet d₁ d₂) (h₂ : Quiet d₂ d₃) : Quiet d₁ d₃ where
  listens h := h₂.listens (h₁.listens h)
  requested h hr := h₂.requested (h₁.listens h) (h₁.requested h hr)
  snapshot h := by
    rcases h₂.snapshot (h₁.listens h) with hs | hs
    · rcases h₁.snapshot h with hs' | hs'
      · exact Or.inl (hs.trans hs')
      · exact Or.inr (h₂.requested (h₁.listens h) hs')
    · exact Or.inr hs
  results := h₂.results.trans h₁.results

/-- A message inside the session starts no rendering. -/
theorem quiet_update (d : Studio) (m : Message) :
    Quiet d { d with session := d.session.update m } where
  listens h := h.update m
  requested h hr := Session.renderRequested_update h hr m
  snapshot h := Session.snapshot_update h m
  results := rfl

theorem quiet_dispatch (engine : Engine) (d : Studio) (m : Message) (hm : m ≠ .renderNow) :
    Quiet d (d.dispatch engine m) := by
  refine (quiet_update d m).trans ?_
  obtain ⟨hr, notice, hs⟩ := perform_quiet engine { d with session := d.session.update m } m hm
  refine ⟨?_, ?_, ?_, hr⟩ <;> rw [dispatch, hs]
  · exact id
  · exact fun _ => id
  · exact fun _ => Or.inl rfl

theorem quiet_dispatchAll (engine : Engine) (d : Studio) (ms : List Message)
    (hm : ∀ m ∈ ms, m ≠ .renderNow) : Quiet d (d.dispatchAll engine ms) := by
  induction ms generalizing d with
  | nil => exact Quiet.refl d
  | cons m ms ih =>
    rw [List.forall_mem_cons] at hm
    exact (quiet_dispatch engine d m hm.1).trans (ih (d.dispatch engine m) hm.2)

theorem quiet_takeIn (engine : Engine) (d : Studio) (text : String) :
    Quiet d (d.takeIn engine text) := by
  unfold takeIn
  refine Quiet.trans (.of_session ?_ ?_) (quiet_dispatch engine _ (.sourceChanged text) (by simp))
  all_goals rfl

theorem quiet_save (d : Studio) : Quiet d d.save := by
  unfold save
  split <;> exact ⟨id, fun _ => id, fun _ => Or.inl rfl, rfl⟩

end Studio

/-! ### The loop -/

/-- A moment in the loop of a live session, also in the middle of a turn. -/
structure Moment where
  live : LiveSession
  /-- Whether a rendering is about to be started in this turn. -/
  due : Bool := false
  /-- What the last rendering was started with. -/
  begun : Option Snapshot := none

/-- What the loop does, step by step. -/
inductive Move where
  | dispatch (m : Message)
  | clock (now : Nat)
  | refresh (news : FileNews)
  | pollFile (now : Nat)
  /-- A request in the session goes on to the debouncer. -/
  | queueRender (now : Nat)
  /-- A request in the debouncer may have waited long enough. -/
  | ripen (now : Nat)
  /-- A rendering that is due starts. -/
  | fire
  | deliver (numbers : List Nat)
  | save
  | tell

namespace Moment

def session (t : Moment) : Session := t.live.studio.session

def dispatch (engine : Engine) (t : Moment) (m : Message) : Moment where
  live := { t.live with studio := t.live.studio.dispatch engine m }
  due := t.due
  begun := match m with
    | .renderNow => some ⟨t.session.editor.text, t.session.ground.style, t.session.settings.lang⟩
    | _ => t.begun

def step (engine : Engine) (t : Moment) : Move → Moment
  | .dispatch m => t.dispatch engine m
  | .clock now =>
    { t with live := { t.live with
        studio := { t.live.studio with said := "", session := t.session.update (.tick now) } } }
  | .refresh news => { t with live := t.live.refresh news }
  | .pollFile now => { t with live := t.live.pollFile engine now }
  | .queueRender now => { t with live := t.live.queueRender now }
  | .ripen now =>
    let (fired, debouncer) := t.live.debouncer.fire now
    { t with live := { t.live with debouncer }, due := t.due || fired }
  | .fire => if t.due then { t.dispatch engine .renderNow with due := false } else t
  | .deliver numbers => { t with live := t.live.deliver engine numbers }
  | .save => { t with live := t.live.saveIfAsked }
  | .tell => { t with live := t.live.tell.2 }

def run (engine : Engine) (t : Moment) (moves : List Move) : Moment := moves.foldl (step engine) t

/-- The first moment of the loop: a rendering was started, and nothing else was done. -/
def start (engine : Engine) (p : SessionPlan) (host : Host) (watcher : Option Watcher) : Moment :=
  dispatch engine
    { live := {
        studio := { session := { Session.start p with renderRequested := false }, host }
        watcher } }
    .renderNow

/-- A rendering is owed: it is asked for in the session, or waits in the debouncer, or is about to
be started. -/
def Owed (t : Moment) : Prop :=
  t.session.renderRequested = true ∨ t.live.debouncer.pending.isSome = true ∨ t.due = true

/-- What every step of the loop keeps. -/
structure Kept (engine : Engine) (t : Moment) : Prop where
  listens : t.session.Listens
  /-- The last rendering was started with what is noted. -/
  begun : ∃ b, t.begun = some b ∧ ∃ p : Pipeline,
    t.live.studio.results.getLast? = some ((p.jobFor b.text b.style).run engine)
  owed : t.begun = some t.session.snapshot ∨ t.Owed

variable {engine : Engine} {t : Moment}

/-- Where no rendering starts and no request is let go of, what holds goes on holding. -/
theorem Kept.quiet (h : t.Kept engine) {t' : Moment}
    (hq : t.live.studio.Quiet t'.live.studio)
    (hd : t.live.debouncer.pending.isSome = true ∨ t.due = true →
      t'.live.debouncer.pending.isSome = true ∨ t'.due = true)
    (hb : t'.begun = t.begun) : t'.Kept engine where
  listens := hq.listens h.listens
  begun := by
    rw [hb, hq.results]
    exact h.begun
  owed := by
    rw [hb]
    rcases h.owed with ho | ho | ho
    · rcases hq.snapshot h.listens with hs | hs
      · left
        rw [ho]
        exact congrArg some hs.symm
      · exact Or.inr (Or.inl hs)
    · exact Or.inr (Or.inl (hq.requested h.listens ho))
    · exact Or.inr (Or.inr (hd ho))

/-- A rendering that starts takes everything as it is now. -/
theorem kept_renderNow (hl : t.session.Listens) (due : Bool) :
    Kept engine { t.dispatch engine .renderNow with due } := by
  obtain ⟨hg, hr⟩ := Studio.dispatch_renderNow engine t.live.studio
  refine ⟨hl.update .renderNow, ⟨_, rfl, t.session.pipeline, ?_⟩, Or.inl ?_⟩
  · simp only [dispatch]
    rw [hr, List.getLast?_concat]
    rfl
  · have hs : (t.dispatch engine .renderNow).session.snapshot = t.session.ground.started.snapshot :=
      congrArg Ground.snapshot hg
    rw [Ground.snapshot_started] at hs
    exact congrArg some hs.symm

theorem Kept.dispatch (h : t.Kept engine) (m : Message) : (t.dispatch engine m).Kept engine := by
  by_cases hm : m = .renderNow
  · rw [hm]
    exact kept_renderNow h.listens t.due
  · refine h.quiet (Studio.quiet_dispatch engine t.live.studio m hm) id ?_
    cases m <;> first | rfl | exact absurd rfl hm

theorem Kept.pollFile (h : t.Kept engine) (now : Nat) :
    (t.step engine (.pollFile now)).Kept engine := by
  refine h.quiet ?_ ?_ rfl
  · simp only [Moment.step, LiveSession.pollFile]
    split
    · exact .refl _
    · split
      · exact Studio.quiet_takeIn engine t.live.studio _
      · exact .refl _
  · simp only [Moment.step, LiveSession.pollFile]
    split <;> exact id

/-- A request that leaves the session waits in the debouncer. -/
theorem Kept.queueRender (h : t.Kept engine) (now : Nat) :
    (t.step engine (.queueRender now)).Kept engine := by
  by_cases hr : t.live.studio.session.renderRequested = true
  · simp only [Moment.step, LiveSession.queueRender, if_pos hr]
    exact ⟨h.listens, h.begun, Or.inr (Or.inr (Or.inl rfl))⟩
  · simpa only [Moment.step, LiveSession.queueRender, if_neg hr] using h

/-- A request that leaves the debouncer is about to be met. -/
theorem Kept.ripen (h : t.Kept engine) (now : Nat) : (t.step engine (.ripen now)).Kept engine := by
  by_cases hr : t.live.debouncer.isReady now = true
  · simp only [Moment.step, Debouncer.fire, if_pos hr]
    exact ⟨h.listens, h.begun, Or.inr (Or.inr (Or.inr (Bool.or_true _)))⟩
  · simpa only [Moment.step, Debouncer.fire, if_neg hr, Bool.or_false] using h

theorem Kept.deliver (h : t.Kept engine) (numbers : List Nat) :
    (t.step engine (.deliver numbers)).Kept engine := by
  refine h.quiet ?_ id rfl
  refine Studio.quiet_dispatchAll engine t.live.studio _ ?_
  intro m hm
  obtain ⟨r, -, rfl⟩ := List.mem_map.mp hm
  simp

theorem Kept.save (h : t.Kept engine) : (t.step engine .save).Kept engine := by
  by_cases hs : t.live.studio.session.saveRequested = true
  · simp only [Moment.step, LiveSession.saveIfAsked, if_pos hs]
    refine h.quiet (Studio.Quiet.trans ?_ (Studio.quiet_save _)) id rfl
    exact ⟨id, fun _ => id, fun _ => Or.inl rfl, rfl⟩
  · simpa only [Moment.step, LiveSession.saveIfAsked, if_neg hs] using h

/-- One step of the loop loses no change. -/
theorem Kept.step (h : t.Kept engine) (move : Move) : (t.step engine move).Kept engine := by
  cases move with
  | dispatch m => exact h.dispatch m
  | clock now =>
    have htick := Studio.quiet_update t.live.studio (.tick now)
    exact h.quiet (htick.trans (.of_session rfl rfl)) id rfl
  | refresh news => exact h.quiet (.of_session rfl rfl) id rfl
  | pollFile now => exact h.pollFile now
  | queueRender now => exact h.queueRender now
  | ripen now => exact h.ripen now
  | fire =>
    by_cases hd : t.due = true
    · simp only [Moment.step, if_pos hd]
      exact kept_renderNow h.listens false
    · simpa only [Moment.step, if_neg hd] using h
  | deliver numbers => exact h.deliver numbers
  | save => exact h.save
  | tell => exact h.quiet (.of_session rfl rfl) id rfl

theorem Kept.run (h : t.Kept engine) (moves : List Move) : (t.run engine moves).Kept engine := by
  induction moves generalizing t with
  | nil => exact h
  | cons move moves ih => exact ih (h.step move)

theorem kept_start (engine : Engine) (p : SessionPlan) (host : Host) (watcher : Option Watcher) :
    (start engine p host watcher).Kept engine := by
  refine kept_renderNow ?_ false
  exact Session.listens_start p

/-! ### Turns -/

theorem run_append (engine : Engine) (t : Moment) (first second : List Move) :
    t.run engine (first ++ second) = (t.run engine first).run engine second :=
  List.foldl_append

theorem run_dispatches (engine : Engine) (t : Moment) (ms : List Message) :
    (t.run engine (ms.map .dispatch)).live =
      { t.live with studio := t.live.studio.dispatchAll engine ms } ∧
    (t.run engine (ms.map .dispatch)).due = t.due := by
  induction ms generalizing t with
  | nil => exact ⟨rfl, rfl⟩
  | cons m ms ih => exact ih (t.dispatch engine m)

/-- Letting a request ripen and then starting the rendering that is due is what a turn does. -/
theorem fire_ripen (engine : Engine) (t : Moment) (now : Nat) (hd : t.due = false) :
    ((t.step engine (.ripen now)).step engine .fire).live = t.live.fireRender engine now ∧
    ((t.step engine (.ripen now)).step engine .fire).due = false := by
  by_cases hr : t.live.debouncer.isReady now = true
  · simp [step, LiveSession.fireRender, Debouncer.fire, hr, dispatch]
  · simp [step, LiveSession.fireRender, Debouncer.fire, hr, hd]

/-- What a turn does once the messages are dispatched. -/
theorem run_closing (engine : Engine) (t : Moment) (now : Nat) (numbers : List Nat)
    (hd : t.due = false) :
    let t' := t.run engine [.pollFile now, .queueRender now, .ripen now, .fire, .deliver numbers,
      .save, .tell]
    t'.live = ((((t.live.pollFile engine now).queueRender now).fireRender engine now).deliver engine
      numbers).saveIfAsked.tell.2 ∧
    t'.due = false := by
  obtain ⟨hfire, hfired⟩ :=
    fire_ripen engine ((t.step engine (.pollFile now)).step engine (.queueRender now)) now hd
  exact ⟨congrArg (fun l : LiveSession => (l.deliver engine numbers).saveIfAsked.tell.2) hfire,
    hfired⟩

/-- A turn is made of steps. -/
theorem exists_run_eq_turn (engine : Engine) (t : Moment) (i : TurnInput) (hd : t.due = false) :
    ∃ moves, (t.run engine moves).live = (t.live.turn engine i).2 ∧
      (t.run engine moves).due = false := by
  let clocked := t.step engine (.clock i.now)
  let dispatched := clocked.run engine (i.messages.map .dispatch)
  obtain ⟨hlive, hdue⟩ := run_dispatches engine clocked i.messages
  let fired := ((dispatched.live.pollFile engine i.now).queueRender i.now).fireRender engine i.now
  let known := t.live.studio.results.length
  let numbers := i.arrived.getD (List.range' known (fired.studio.results.length - known))
  obtain ⟨hclosing, hidle⟩ := run_closing engine dispatched i.now numbers (hdue.trans hd)
  refine ⟨.clock i.now :: (i.messages.map .dispatch ++ [.pollFile i.now, .queueRender i.now,
    .ripen i.now, .fire, .deliver numbers, .save, .tell]), ?_⟩
  have hrun : ∀ moves, t.run engine (.clock i.now :: (i.messages.map .dispatch ++ moves)) =
      dispatched.run engine moves :=
    fun moves => run_append engine clocked _ moves
  rw [hrun]
  refine ⟨?_, hidle⟩
  rw [hclosing]
  simp only [numbers, fired, dispatched, hlive]
  rfl

end Moment

/-- Turn after turn; before each of them the files may have changed. -/
def LiveSession.turns (engine : Engine) (l : LiveSession) (inputs : List (FileNews × TurnInput)) :
    LiveSession :=
  inputs.foldl (fun l i => ((l.refresh i.1).turn engine i.2).2) l

namespace Moment

theorem exists_run_eq_turns (engine : Engine) (t : Moment) (inputs : List (FileNews × TurnInput))
    (hd : t.due = false) : ∃ moves, (t.run engine moves).live = t.live.turns engine inputs := by
  induction inputs generalizing t with
  | nil => exact ⟨[], rfl⟩
  | cons i inputs ih =>
    obtain ⟨first, hlive, hdue⟩ := exists_run_eq_turn engine (t.step engine (.refresh i.1)) i.2 hd
    obtain ⟨second, hrest⟩ := ih ((t.step engine (.refresh i.1)).run engine first) hdue
    refine ⟨.refresh i.1 :: (first ++ second), ?_⟩
    have hrun : t.run engine (.refresh i.1 :: (first ++ second)) =
        ((t.step engine (.refresh i.1)).run engine first).run engine second :=
      run_append engine _ first second
    rw [hrun, hrest, hlive]
    rfl

/-- At every moment of the loop, whatever its steps were and in whatever order, the last rendering
was started with a text, a style and a language which are still those of the session, or a rendering
is owed. The turns of the loop are made of such steps. -/
theorem no_change_is_lost (engine : Engine) (p : SessionPlan) (host : Host)
    (watcher : Option Watcher) :
    (∀ moves, let t := (start engine p host watcher).run engine moves
      ∃ b, t.begun = some b ∧
        (∃ pipeline : Pipeline,
          t.live.studio.results.getLast? = some ((pipeline.jobFor b.text b.style).run engine)) ∧
        (b = ⟨t.session.editor.text, t.session.settings.style, t.session.settings.lang⟩ ∨ t.Owed)) ∧
    ∀ inputs, ∃ moves, ((start engine p host watcher).run engine moves).live =
      (LiveSession.begin engine { studio := { session := .start p, host }, watcher }).turns engine
        inputs := by
  have hstart := kept_start engine p host watcher
  refine ⟨?_, fun inputs => exists_run_eq_turns engine (start engine p host watcher) inputs rfl⟩
  intro moves t
  have ht : t.Kept engine := hstart.run moves
  obtain ⟨b, hb, hlast⟩ := ht.begun
  refine ⟨b, hb, hlast, ?_⟩
  have ho := ht.owed
  rw [hb, Option.some.injEq] at ho
  exact ho

end Moment

end DiagramDesk
