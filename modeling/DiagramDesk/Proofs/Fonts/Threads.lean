import DiagramDesk.Proofs.Fonts.Cache
import Mathlib.Logic.Function.Basic

/-!
Many threads at one cache. A claim and a settlement are one step each, and a fetch
takes its time between the two, while the others go on. A thread that finds the
file being fetched gives up, or waits and looks again when it is woken, which may
happen at any moment. Told for each address on its own, every step is one of four
changes; over every schedule the entry of an address fits the one thread that
fetches it, if any, and its fetches follow each other as they should.
-/
namespace DiagramDesk

inductive FetchMark where
  | started | failed | succeeded
  deriving DecidableEq, Repr

structure FetchEvent where
  url : String
  time : Nat
  mark : FetchMark
  deriving DecidableEq, Repr

def FetchMark.ofOutcome : Option (List UInt8) → FetchMark
  | some _ => .succeeded
  | none => .failed

inductive Stage where
  /-- Between two calls, with the files that the last one gave. -/
  | idle (given : List FontFile)
  /-- In a call that waits for the fetch of another thread. -/
  | waiting (url : String)
  /-- In a call that fetches. -/
  | fetching (url : String)
  /-- In a call whose fetch ended at some time and is not recorded yet. -/
  | landed (url : String) (time : Nat) (outcome : Option (List UInt8))
  deriving DecidableEq, Repr

/-- A cache, what each thread is at, and what became of all fetches, the last one first. -/
structure Crowd where
  cache : FontCache
  stage : Nat → Stage := fun _ => .idle []
  log : List FetchEvent := []

namespace Crowd

/-- What can happen: time goes by, or a thread takes its next step. -/
inductive Act where
  | wait (time : Nat)
  | get (t : Nat) (url : String)
  | preload (t : Nat) (font : HandFont)
  | cached (t : Nat) (url : String)
  | files (t : Nat)
  /-- A thread that waits looks again. -/
  | wake (t : Nat)
  /-- A fetch ends, in whatever way. -/
  | land (t : Nat) (outcome : Option (List UInt8))
  | settle (t : Nat)

def put (s : Crowd) (t : Nat) (stage : Stage) : Crowd :=
  { s with stage := Function.update s.stage t stage }

def withCache (s : Crowd) (cache : FontCache) : Crowd := { s with cache }

def note (s : Crowd) (url : String) (mark : FetchMark) : Crowd :=
  { s with log := ⟨url, s.cache.clock, mark⟩ :: s.log }

def lookUp (s : Crowd) (t : Nat) (url : String) (timeout : Nat) (patient : Bool) : Crowd :=
  match s.cache.entries.claim s.cache.clock url with
  | (.ready file, _) => s.put t (.idle [file])
  | (.refused, _) => s.put t (.idle [])
  | (.busy, _) => s.put t (if patient then .waiting url else .idle [])
  | (.granted, entries) =>
    let cache := { s.cache with entries, requests := s.cache.requests ++ [(url, timeout)] }
    ((s.withCache cache).note url .started).put t (.fetching url)

/-- A step that its thread is not ready for does nothing. -/
def step (s : Crowd) : Act → Crowd
  | .wait time => { s with cache := { s.cache with clock := s.cache.clock + time } }
  | .get t url => match s.stage t with
    | .idle _ => s.lookUp t url FontCache.exportTimeout true
    | _ => s
  | .preload t font => match s.stage t, font.source? with
    | .idle _, some url => s.lookUp t url FontCache.preloadTimeout false
    | .idle _, none => s.put t (.idle [])
    | _, _ => s
  | .cached t url => match s.stage t with
    | .idle _ => s.put t (.idle (s.cache.cached url).toList)
    | _ => s
  | .files t => match s.stage t with
    | .idle _ => s.put t (.idle s.cache.files)
    | _ => s
  | .wake t => match s.stage t with
    | .waiting url => s.lookUp t url FontCache.exportTimeout true
    | _ => s
  | .land t outcome => match s.stage t with
    | .fetching url => (s.note url (.ofOutcome outcome)).put t (.landed url s.cache.clock outcome)
    | _ => s
  | .settle t => match s.stage t with
    | .landed url time outcome =>
      let cache := { s.cache with entries := s.cache.entries.settle time url outcome }
      (s.withCache cache).put t (.idle (outcome.map (FontFile.mk url)).toList)
    | _ => s

def run (s : Crowd) (acts : List Act) : Crowd := acts.foldl step s

end Crowd

/-! ### One address -/

inductive Flight where
  | out
  | back (time : Nat) (outcome : Option (List UInt8))
  deriving DecidableEq, Repr

/-- How far the fetch of an address is, if that is what a thread is at. -/
def Stage.flight? (url : String) : Stage → Option Flight
  | .fetching a => if a = url then some .out else none
  | .landed a time outcome => if a = url then some (.back time outcome) else none
  | _ => none

@[simp] theorem Stage.flight?_fetching (url : String) :
    (Stage.fetching url).flight? url = some .out := if_pos rfl

@[simp] theorem Stage.flight?_landed (url : String) (time : Nat)
    (outcome : Option (List UInt8)) :
    (Stage.landed url time outcome).flight? url = some (.back time outcome) := if_pos rfl

theorem Stage.flight?_other {a url : String} (h : a ≠ url) :
    (Stage.fetching a).flight? url = none := if_neg h

theorem Stage.flight?_other' {a url : String} (h : a ≠ url) {time : Nat}
    {outcome : Option (List UInt8)} : (Stage.landed a time outcome).flight? url = none := if_neg h

/-- What is known of one address: its entry, how far the fetch of each thread is, and what became of
its fetches, the last one first. -/
structure View where
  entry : Option CacheEntry
  flight : Nat → Option Flight
  history : List FetchEvent

/-- What a step at some time can change for an address. -/
inductive View.Change (url : String) (now : Nat) (v : View) : View → Prop
  | stay : Change url now v v
  | grant (t : Nat)
      (due : v.entry = none ∨
        ∃ since, v.entry = some (.failed since) ∧ since + CacheEntries.retryAfter ≤ now) :
      Change url now v
        ⟨some .fetching, Function.update v.flight t (some .out), ⟨url, now, .started⟩ :: v.history⟩
  | land (t : Nat) (outcome : Option (List UInt8)) (out : v.flight t = some .out) :
      Change url now v
        ⟨v.entry, Function.update v.flight t (some (.back now outcome)),
          ⟨url, now, .ofOutcome outcome⟩ :: v.history⟩
  | settle (t time : Nat) (outcome : Option (List UInt8))
      (back : v.flight t = some (.back time outcome)) :
      Change url now v
        ⟨some (.settled time url outcome), Function.update v.flight t none, v.history⟩

/-- A claim changes nothing, or it is granted, since the file was never asked for or the last
failure is long enough ago. -/
theorem CacheEntries.claim_cases (es : CacheEntries) (now : Nat) (url : String) :
    (∃ file, es.claim now url = (.ready file, es)) ∨ es.claim now url = (.refused, es) ∨
    es.claim now url = (.busy, es) ∨
    es.claim now url = (.granted, es.set url .fetching) ∧
      (es.entry? url = none ∨
        ∃ since, es.entry? url = some (.failed since) ∧ since + retryAfter ≤ now) := by
  unfold claim
  cases es.entry? url with
  | none => exact .inr (.inr (.inr ⟨rfl, .inl rfl⟩))
  | some entry =>
    cases entry with
    | ready file => exact .inl ⟨file, rfl⟩
    | fetching => exact .inr (.inr (.inl rfl))
    | failed since =>
      by_cases h : now - since < retryAfter
      · exact .inr (.inl (if_pos h))
      · have hdue : since + retryAfter ≤ now := by
          unfold retryAfter at h ⊢
          omega
        exact .inr (.inr (.inr ⟨if_neg h, .inr ⟨since, rfl, hdue⟩⟩))

theorem CacheEntries.entry?_of_claim {es after : CacheEntries} {now : Nat} {url : String}
    {file : FontFile} (h : es.claim now url = (.ready file, after)) :
    es.entry? url = some (.ready file) := by
  unfold claim at h
  split at h
  case h_1 hentry =>
    cases h
    exact hentry
  case h_2 => cases h
  case h_3 => split at h <;> cases h
  case h_4 => cases h

namespace Crowd

/-- A look for a file that nobody comes between, with the end of its fetch, does what it does where
there is one user. Only where the file is being fetched by another does a patient thread wait. -/
theorem lookUp_alone (c : FontCache) (url : String) (timeout : Nat) (patient : Bool) :
    let s := run (lookUp { cache := c } 0 url timeout patient)
      [.land 0 (c.fetch url timeout).toOption, .settle 0]
    s.cache = (c.lookup url timeout).2 ∧
      (s.stage 0 = .idle (c.lookup url timeout).1.toList ∨
        patient = true ∧ c.entries.claim c.clock url = (.busy, c.entries)) := by
  obtain ⟨file, hc⟩ | hc | hc | ⟨hc, -⟩ := c.entries.claim_cases c.clock url
  · simp [lookUp, FontCache.lookup, hc, run, step, put]
  · simp [lookUp, FontCache.lookup, hc, run, step, put]
  · cases patient <;> simp [lookUp, FontCache.lookup, hc, run, step, put]
  · simp [lookUp, FontCache.lookup, hc, run, step, put, note, withCache]

def view (s : Crowd) (url : String) : View where
  entry := s.cache.entries.entry? url
  flight t := (s.stage t).flight? url
  history := s.log.filter (·.url = url)

variable (s : Crowd) {t : Nat}

theorem view_put (stage : Stage) (url : String) :
    (s.put t stage).view url =
      { s.view url with flight := Function.update (s.view url).flight t (stage.flight? url) } := by
  have hflight : (fun u => (Function.update s.stage t stage u).flight? url) =
      Function.update (fun u => (s.stage u).flight? url) t (stage.flight? url) := by
    funext u
    by_cases hu : u = t
    · rw [hu, Function.update_self, Function.update_self]
    · rw [Function.update_of_ne hu, Function.update_of_ne hu]
  simp only [view, put, hflight]

/-- A thread that goes from one stage to another, both without a fetch of the address. -/
theorem view_put_idle {stage : Stage} {url : String} (h : (s.stage t).flight? url = none)
    (h' : stage.flight? url = none) : (s.put t stage).view url = s.view url := by
  have hflight : (s.view url).flight t = stage.flight? url := h.trans h'.symm
  rw [view_put, ← hflight, Function.update_eq_self]

theorem view_note_self (url : String) (mark : FetchMark) :
    (s.note url mark).view url =
      { s.view url with history := ⟨url, s.cache.clock, mark⟩ :: (s.view url).history } := by
  simp [view, note]

theorem view_note_other {a url : String} (h : a ≠ url) (mark : FetchMark) :
    (s.note a mark).view url = s.view url := by
  simp [view, note, h]

/-- Of the cache only the entry counts. -/
theorem view_withCache (cache : FontCache) (url : String) :
    (s.withCache cache).view url = { s.view url with entry := cache.entries.entry? url } := rfl

/-- A look for a file, by a thread that has no fetch of its own. -/
theorem change_lookUp (h : ∀ url, (s.stage t).flight? url = none) (a : String) (timeout : Nat)
    (patient : Bool) (url : String) :
    View.Change url s.cache.clock (s.view url) ((s.lookUp t a timeout patient).view url) := by
  unfold lookUp
  obtain ⟨file, hc⟩ | hc | hc | ⟨hc, hdue⟩ := s.cache.entries.claim_cases s.cache.clock a
  · have hstage : (Stage.idle [file]).flight? url = none := rfl
    simp only [hc, view_put_idle s (h url) hstage]
    exact .stay
  · have hstage : (Stage.idle []).flight? url = none := rfl
    simp only [hc, view_put_idle s (h url) hstage]
    exact .stay
  · have hstage : (if patient then Stage.waiting a else .idle []).flight? url = none := by
      cases patient <;> rfl
    simp only [hc, view_put_idle s (h url) hstage]
    exact .stay
  · simp only [hc]
    by_cases ha : a = url
    · subst ha
      rw [view_put, view_note_self, view_withCache, CacheEntries.entry?_set, if_pos rfl,
        Stage.flight?_fetching]
      exact .grant (v := s.view a) t hdue
    · rw [view_put_idle _ _ (Stage.flight?_other ha), view_note_other _ ha, view_withCache,
        CacheEntries.entry?_set, if_neg ha]
      · exact .stay
      · exact h url

/-- A step of any thread changes an address in one of four ways. -/
theorem change_step (act : Act) (url : String) :
    View.Change url s.cache.clock (s.view url) ((s.step act).view url) := by
  cases act with
  | wait time => exact .stay
  | get t a =>
    simp only [step]
    split
    case h_1 hstage => exact change_lookUp s (fun _ => by rw [hstage]; rfl) a _ _ url
    case h_2 => exact .stay
  | preload t font =>
    simp only [step]
    split
    case h_1 hstage hsource => exact change_lookUp s (fun _ => by rw [hstage]; rfl) _ _ _ url
    case h_2 hstage hsource =>
      rw [view_put_idle s (by rw [hstage]; rfl) rfl]
      exact .stay
    case h_3 => exact .stay
  | cached t a =>
    simp only [step]
    split
    case h_1 hstage =>
      rw [view_put_idle s (by rw [hstage]; rfl) rfl]
      exact .stay
    case h_2 => exact .stay
  | files t =>
    simp only [step]
    split
    case h_1 hstage =>
      rw [view_put_idle s (by rw [hstage]; rfl) rfl]
      exact .stay
    case h_2 => exact .stay
  | wake t =>
    simp only [step]
    split
    case h_1 hstage => exact change_lookUp s (fun _ => by rw [hstage]; rfl) _ _ _ url
    case h_2 => exact .stay
  | land t outcome =>
    simp only [step]
    split
    case h_1 a hstage =>
      by_cases ha : a = url
      · subst ha
        rw [view_put, view_note_self, Stage.flight?_landed]
        exact .land (v := s.view a) t outcome (by simp [view, hstage])
      · rw [view_put_idle _ _ (Stage.flight?_other' ha), view_note_other _ ha]
        · exact .stay
        · simp [note, hstage, Stage.flight?_other ha]
    case h_2 => exact .stay
  | settle t =>
    simp only [step]
    split
    case h_1 a time outcome hstage =>
      by_cases ha : a = url
      · subst ha
        rw [view_put, view_withCache, CacheEntries.entry?_settle, if_pos rfl]
        exact .settle (v := s.view a) t time outcome (by simp [view, hstage])
      · rw [view_put_idle _ _ rfl, view_withCache, CacheEntries.entry?_settle, if_neg ha]
        · exact .stay
        · simp [withCache, hstage, Stage.flight?_other' ha]
    case h_2 => exact .stay

end Crowd

/-! ### Over time -/

/-- The fetches of one address, the last one first: one starts only after another failed long
enough before, and ends before the next. -/
def Lawful : List FetchEvent → Prop
  | [] => True
  | e :: older => Lawful older ∧ match e.mark with
    | .started => ∀ last ∈ older.head?,
        last.mark = .failed ∧ last.time + CacheEntries.retryAfter ≤ e.time
    | _ => older.head?.map (·.mark) = some .started

theorem Lawful.of_append {newer older : List FetchEvent} (h : Lawful (newer ++ older)) :
    Lawful older := by
  induction newer with
  | nil => exact h
  | cons e newer ih => exact ih h.1

/-- Nothing follows a success. -/
theorem Lawful.unsuccessful {e : FetchEvent} {older : List FetchEvent} (h : Lawful (e :: older)) :
    ∀ e' ∈ older, e'.mark ≠ .succeeded := by
  induction older generalizing e with
  | nil => simp
  | cons last older ih =>
    obtain ⟨hlawful, hmark⟩ := h
    rw [List.forall_mem_cons]
    refine ⟨?_, ih hlawful⟩
    cases he : e.mark with
    | started =>
      rw [he] at hmark
      simp [(hmark last rfl).1]
    | failed | succeeded =>
      rw [he] at hmark
      simp [Option.some.inj hmark]

namespace View

/-- What is known of an address fits together: its entry, the one fetch that may be under way, and
the last that was heard of its fetches. -/
inductive Sound (url : String) : View → Prop
  | unknown : Sound url ⟨none, fun _ => none, []⟩
  | out (t time : Nat) (older : List FetchEvent)
      (lawful : Lawful (⟨url, time, .started⟩ :: older)) :
      Sound url ⟨some .fetching, Function.update (fun _ => none) t (some .out),
        ⟨url, time, .started⟩ :: older⟩
  | back (t time : Nat) (outcome : Option (List UInt8)) (older : List FetchEvent)
      (lawful : Lawful (⟨url, time, .ofOutcome outcome⟩ :: older)) :
      Sound url ⟨some .fetching, Function.update (fun _ => none) t (some (.back time outcome)),
        ⟨url, time, .ofOutcome outcome⟩ :: older⟩
  | settled (time : Nat) (outcome : Option (List UInt8)) (older : List FetchEvent)
      (lawful : Lawful (⟨url, time, .ofOutcome outcome⟩ :: older)) :
      Sound url ⟨some (.settled time url outcome), fun _ => none,
        ⟨url, time, .ofOutcome outcome⟩ :: older⟩

theorem eq_of_update {t u : Nat} {f g : Flight}
    (h : Function.update (fun _ => none) u (some f) t = some g) : t = u ∧ f = g := by
  by_cases htu : t = u
  · rw [htu, Function.update_self] at h
    exact ⟨htu, Option.some.inj h⟩
  · rw [Function.update_of_ne htu] at h
    cases h

variable {url : String} {now : Nat} {v v' : View}

theorem Sound.change (h : v.Sound url) (hc : Change url now v v') : v'.Sound url := by
  cases hc with
  | stay => exact h
  | grant t due =>
    cases h with
    | unknown => exact .out t now [] ⟨trivial, by simp⟩
    | out | back => simp at due
    | settled time outcome older lawful =>
      cases outcome with
      | none =>
        obtain ⟨since, hsince, hdue⟩ := due.resolve_left (by simp)
        obtain rfl : time = since := by simpa [CacheEntry.settled] using hsince
        refine .out t now _ ⟨lawful, ?_⟩
        rintro last ⟨⟩
        exact ⟨rfl, hdue⟩
      | some bytes => simp [CacheEntry.settled] at due
  | land t outcome out =>
    cases h with
    | unknown | settled => simp at out
    | out u time older lawful =>
      obtain ⟨rfl, -⟩ := eq_of_update out
      rw [Function.update_idem]
      refine .back t now outcome _ ⟨lawful, ?_⟩
      cases outcome <;> rfl
    | back u time outcome' older lawful => cases (eq_of_update out).2
  | settle t time outcome back =>
    cases h with
    | unknown | settled => simp at back
    | out u time' older lawful => cases (eq_of_update back).2
    | back u time' outcome' older lawful =>
      obtain ⟨rfl, hback⟩ := eq_of_update back
      cases hback
      rw [Function.update_idem, Function.update_eq_self]
      exact .settled time outcome older lawful

theorem Sound.lawful (h : v.Sound url) : Lawful v.history := by
  cases h with
  | unknown => trivial
  | out _ _ _ lawful | back _ _ _ _ lawful | settled _ _ _ lawful => exact lawful

/-- At most one thread has a fetch under way or to be recorded. -/
theorem Sound.alone (h : v.Sound url) {t u : Nat} {f g : Flight} (ht : v.flight t = some f)
    (hu : v.flight u = some g) : t = u := by
  cases h with
  | unknown | settled => simp at ht
  | out | back => exact (eq_of_update ht).1.trans (eq_of_update hu).1.symm

/-- A file that is there stays. -/
theorem Sound.ready (h : v.Sound url) (hc : Change url now v v') {file : FontFile}
    (hready : v.entry = some (.ready file)) : v'.entry = some (.ready file) := by
  cases hc with
  | stay | land => exact hready
  | grant t due => simp [hready] at due
  | settle t time outcome back =>
    cases h with
    | unknown | settled => simp at back
    | out | back => cases hready

end View

namespace Crowd

def fresh (fetch : Fetcher) : Crowd := { cache := { fetch } }

def Orderly (s : Crowd) : Prop := ∀ url, (s.view url).Sound url

theorem orderly_fresh (fetch : Fetcher) : (fresh fetch).Orderly := fun _ => .unknown

variable {s : Crowd}

theorem Orderly.step (h : s.Orderly) (act : Act) : (s.step act).Orderly :=
  fun url => (h url).change (change_step s act url)

theorem Orderly.run (h : s.Orderly) (acts : List Act) : (s.run acts).Orderly := by
  induction acts generalizing s with
  | nil => exact h
  | cons act acts ih => exact ih (h.step act)

theorem Orderly.ready_run (h : s.Orderly) {url : String} {file : FontFile}
    (hready : s.cache.entries.entry? url = some (.ready file)) (acts : List Act) :
    (s.run acts).cache.entries.entry? url = some (.ready file) := by
  induction acts generalizing s with
  | nil => exact hready
  | cons act acts ih => exact ih (h.step act) ((h url).ready (change_step s act url) hready)

/-- Over every schedule of any number of threads: of each address at most one fetch is under way or
to be recorded; a file that is there stays; a fetch starts only if none of the address started
before or the last one failed at least a minute ago; and at most one fetch succeeds. Whatever is in
the cache by then, a look for a file that nobody comes between, with the end of its fetch, is what it
is where there is one user. -/
theorem one_fetch_at_a_time (fetch : Fetcher) (acts : List Act) :
    let s := (fresh fetch).run acts
    (∀ url t u, ((s.stage t).flight? url).isSome → ((s.stage u).flight? url).isSome → t = u) ∧
    (∀ url file, s.cache.entries.entry? url = some (.ready file) →
      ∀ more, (s.run more).cache.entries.entry? url = some (.ready file)) ∧
    (∀ newer url now older, s.log = newer ++ ⟨url, now, .started⟩ :: older →
      ∀ last ∈ (older.filter (·.url = url)).head?,
        last.mark = .failed ∧ last.time + 60000 ≤ now) ∧
    (∀ url, s.log.countP (fun e => e.url = url ∧ e.mark = .succeeded) ≤ 1) ∧
    ∀ url timeout patient,
      let alone := run (lookUp { cache := s.cache } 0 url timeout patient)
        [.land 0 (s.cache.fetch url timeout).toOption, .settle 0]
      alone.cache = (s.cache.lookup url timeout).2 ∧
        (alone.stage 0 = .idle (s.cache.lookup url timeout).1.toList ∨
          patient = true ∧
            s.cache.entries.claim s.cache.clock url = (.busy, s.cache.entries)) := by
  intro s
  have hs : s.Orderly := (orderly_fresh fetch).run acts
  refine ⟨?_, ?_, ?_, ?_, lookUp_alone s.cache⟩
  · intro url t u ht hu
    obtain ⟨f, hf⟩ := Option.isSome_iff_exists.mp ht
    obtain ⟨g, hg⟩ := Option.isSome_iff_exists.mp hu
    exact (hs url).alone (v := s.view url) hf hg
  · exact fun url file hready => hs.ready_run hready
  · intro newer url now older hlog
    have hlawful := (hs url).lawful
    simp only [view, hlog, List.filter_append] at hlawful
    have hstart := hlawful.of_append
    simp only [List.filter_cons, decide_true, if_true] at hstart
    exact hstart.2
  · intro url
    have hlawful := (hs url).lawful
    have hcount : s.log.countP (fun e => e.url = url ∧ e.mark = .succeeded) =
        (s.view url).history.countP (·.mark = .succeeded) := by
      simp only [view, List.countP_filter]
      congr 1
      funext e
      simp [Bool.and_comm]
    rw [hcount]
    cases hhistory : (s.view url).history with
    | nil => simp
    | cons e older =>
      rw [hhistory] at hlawful
      have holder : older.countP (·.mark = .succeeded) = 0 :=
        List.countP_eq_zero.mpr fun e' he' => by simpa using hlawful.unsuccessful e' he'
      rw [List.countP_cons, holder]
      split <;> omega

/-- Two threads ask for one file. The first fetch fails; the thread that waited gives up, and asks
again when the failure is forgotten. -/
example :
    let url := "https://x/a.woff2"
    let s := run (fresh fun _ _ => .ok []) [.get 0 url, .get 1 url, .wait 5, .land 0 none,
      .settle 0, .wake 1, .wait 59999, .get 1 url, .wait 1, .get 1 url, .get 0 url,
      .land 1 (some [7]), .settle 1, .wake 0]
    s.log = [⟨url, 60005, .succeeded⟩, ⟨url, 60005, .started⟩, ⟨url, 5, .failed⟩,
      ⟨url, 0, .started⟩] ∧ s.stage 0 = .idle [⟨url, [7]⟩] := by
  decide +kernel

end Crowd

end DiagramDesk
