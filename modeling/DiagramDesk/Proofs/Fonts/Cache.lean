import DiagramDesk.Fonts.Cache

/-!
The font cache while its clock stands still. What it answers for an address does not
depend on what it was asked before: a file that was fetched is kept, and a failure is
remembered.
-/
namespace DiagramDesk

theorem CacheEntries.entry?_set (es : CacheEntries) (a b : String) (entry : CacheEntry) :
    CacheEntries.entry? (es.set a entry) b = if a = b then some entry else es.entry? b := by
  induction es with
  | nil =>
    by_cases hab : a = b
    · simp [set, entry?, hab]
    · simp [set, entry?, hab]
  | cons e es ih =>
    unfold entry? at ih
    by_cases hea : e.1 = a
    · by_cases hab : a = b
      · simp [set, entry?, hea, hab]
      · simp [set, entry?, hea, hab]
    · by_cases heb : e.1 = b
      · have hab : a ≠ b := fun h => hea (heb.trans h.symm)
        simp [set, entry?, heb, hab, hab.symm]
      · simp [set, entry?, hea, heb, ih]

/-- What is known of a file once what a fetch brought is recorded. -/
def CacheEntry.settled (now : Nat) (url : String) : Option (List UInt8) → CacheEntry
  | some bytes => .ready ⟨url, bytes⟩
  | none => .failed now

theorem CacheEntries.entry?_settle (es : CacheEntries) (now : Nat) (a b : String)
    (bytes : Option (List UInt8)) :
    CacheEntries.entry? (es.settle now a bytes) b =
      if a = b then some (CacheEntry.settled now a bytes) else es.entry? b := by
  cases bytes with
  | none => exact entry?_set es a b _
  | some bytes => exact entry?_set es a b _

namespace FontCache

variable (c : FontCache)

def fetched (url : String) : Option FontFile :=
  (c.fetch url exportTimeout).toOption.map fun bytes => ⟨url, bytes⟩

def answer (url : String) : Option FontFile :=
  match c.entries.entry? url with
  | some (.ready file) => some file
  | some .fetching => none
  | some (.failed since) =>
    if c.clock - since < CacheEntries.retryAfter then none else c.fetched url
  | none => c.fetched url

theorem get_fst (url : String) : (c.get url).1 = c.answer url := by
  rw [get, lookup, CacheEntries.claim, answer]
  cases c.entries.entry? url with
  | none => rfl
  | some entry =>
    cases entry with
    | ready file => rfl
    | fetching => rfl
    | failed since =>
      by_cases h : c.clock - since < CacheEntries.retryAfter
      · simp [h]
      · simp [h, fetched]

/-- Asking for a file changes nothing, or settles what the fetcher brought. -/
theorem get_snd_cases (url : String) :
    (c.get url).2 = c ∨ (c.get url).1 = c.fetched url ∧
      (c.get url).2 = { c with
        entries := (c.entries.set url .fetching).settle c.clock url
          (c.fetch url exportTimeout).toOption
        requests := c.requests ++ [(url, exportTimeout)] } := by
  rw [get, lookup, CacheEntries.claim]
  cases c.entries.entry? url with
  | none => exact .inr ⟨rfl, rfl⟩
  | some entry =>
    cases entry with
    | ready file => exact .inl rfl
    | fetching => exact .inl rfl
    | failed since =>
      by_cases h : c.clock - since < CacheEntries.retryAfter
      · exact .inl (by simp [h])
      · exact .inr (by simp [h, fetched])

/-- Two caches that answer alike. -/
def Alike (c c' : FontCache) : Prop := ∀ url, (c'.get url).1 = (c.get url).1

/-- Asking for one file changes no answer, not even the one for this file. -/
theorem alike_get (a : String) : Alike c (c.get a).2 := by
  intro b
  obtain h | ⟨ha, h⟩ := c.get_snd_cases a
  · rw [h]
  by_cases hab : a = b
  · subst hab
    rw [ha, h, get_fst, answer, CacheEntries.entry?_settle, if_pos rfl]
    cases hf : (c.fetch a exportTimeout).toOption with
    | some bytes => simp [CacheEntry.settled, fetched, hf]
    | none => simp [CacheEntry.settled, fetched, hf, CacheEntries.retryAfter]
  · rw [h, get_fst, get_fst, answer, CacheEntries.entry?_settle, if_neg hab,
      CacheEntries.entry?_set, if_neg hab]
    rfl

/-- Whether a file is fetched when it is asked for. -/
def due (url : String) : Bool :=
  match c.entries.entry? url with
  | none => true
  | some (.failed since) => since + CacheEntries.retryAfter ≤ c.clock
  | some _ => false

end FontCache

end DiagramDesk
