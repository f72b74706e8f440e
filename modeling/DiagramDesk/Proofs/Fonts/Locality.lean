import DiagramDesk.Proofs.Fonts.Inline
import DiagramDesk.Proofs.Fonts.Threads

/-!
Bringing fonts into a document changes nothing but the references in its styles. A relation
holds both texts side by side, with the replies between them. That the texts stand in it is shown
for any way to ask for files, so it holds for one user of the cache and for a thread among many;
what the replies are is then a matter of the cache alone.
-/
namespace DiagramDesk

open Text Svg

variable {σ : Type}

/-! ### Both texts, side by side -/

structure Reply where
  url : String
  file : Option FontFile

def fileReference (file : Option FontFile) : List Char :=
  (file.map fun file => ("url('" ++ file.dataUri ++ "')").toList).getD []

/-- A style sheet before and after, with the replies for its references in their order. Read from
the left, a character at which no reference begins is kept, and a reference is replaced as a
whole. -/
inductive SheetInlined : List Char → List Reply → List Char → Prop
  | nil : SheetInlined [] [] []
  | char {c : Char} {s out : List Char} {replies : List Reply}
    (outside : remoteReference (c :: s) = none) (rest : SheetInlined s replies out) :
    SheetInlined (c :: s) replies (c :: out)
  | reference {v address s out : List Char} {replies : List Reply} (file : Option FontFile)
    (found : remoteReference (v ++ s) = some (address, v.length))
    (rest : SheetInlined s replies out) :
    SheetInlined (v ++ s) (⟨String.ofList address, file⟩ :: replies) (fileReference file ++ out)

/-- A document before and after, with the replies for the references of its styles in their order.
Read from the left, a character at which no style block begins is kept, and of a style block all but
its sheet is. -/
inductive Inlined : List Char → List Reply → List Char → Prop
  | nil : Inlined [] [] []
  | char {c : Char} {s out : List Char} {replies : List Reply}
    (outside : styleBlock (c :: s) = none) (rest : Inlined s replies out) :
    Inlined (c :: s) replies (c :: out)
  | block {b : StyleBlock} {s sheet out : List Char} {mine replies : List Reply}
    (found : styleBlock (b.opening ++ b.body ++ styleEnd ++ s) =
      some (b, (b.opening ++ b.body ++ styleEnd).length))
    (body : SheetInlined b.body mine sheet) (rest : Inlined s replies out) :
    Inlined (b.opening ++ b.body ++ styleEnd ++ s) (mine ++ replies)
      (b.opening ++ sheet ++ styleEnd ++ out)

def sheetUrls (body : List Char) : List String :=
  (spans remoteReference body).filterMap fun
    | .char _ => none
    | .found address => some (String.ofList address)

def styleUrls (markup : List Char) : List String :=
  (styleBlocks markup).flatMap fun b => sheetUrls b.body

/-! ### Any way to ask -/

def replaceBy (ask : σ → String → Option FontFile × σ) (st : σ) (address : List Char) :
    List Char × σ :=
  let (file, st) := ask st (String.ofList address)
  (fileReference file, st)

/-- A style sheet with its references replaced by what is had for them. -/
def inlineSheetBy (ask : σ → String → Option FontFile × σ) (st : σ) (body : List Char) :
    List Char × σ :=
  replaceSpans (replaceBy ask) st (spans remoteReference body)

/-- A document with the references of its styles replaced by what is had for them. A cache inlines
in this way when it asks itself. -/
def inlineBy (ask : σ → String → Option FontFile × σ) (st : σ) (markup : List Char) :
    List Char × σ :=
  rewriteStyles (inlineSheetBy ask) st markup

section Asking

variable (ask : σ → String → Option FontFile × σ)

end Asking

def tell : List (Option FontFile) → String → Option FontFile × List (Option FontFile)
  | [], _ => (none, [])
  | file :: files, _ => (file, files)

/-- The replies are for the references of the sheet, and settle what becomes of it. -/
theorem SheetInlined.told {body out : List Char} {replies : List Reply}
    (h : SheetInlined body replies out) (more : List (Option FontFile)) :
    replies.map (·.url) = sheetUrls body ∧
      inlineSheetBy tell (replies.map (·.file) ++ more) body = (out, more) := by
  induction h with
  | nil =>
    rw [sheetUrls, inlineSheetBy, spans]
    exact ⟨rfl, rfl⟩
  | @char c s out replies outside _ ih =>
    obtain ⟨hurls, htext⟩ := ih
    rw [inlineSheetBy] at htext
    rw [sheetUrls, inlineSheetBy, spans_cons outside, replaceSpans, htext]
    exact ⟨hurls, rfl⟩
  | @reference v address s out replies file found _ ih =>
    obtain ⟨hurls, htext⟩ := ih
    rw [inlineSheetBy] at htext
    rw [sheetUrls, inlineSheetBy, remoteReference_local.spans_of_match found, replaceSpans]
    simp only [List.map_cons, List.cons_append, replaceBy, tell, htext]
    exact ⟨congrArg (_ :: ·) hurls, trivial⟩

/-- The replies are for the references of the styles, and settle what becomes of the document. -/
theorem Inlined.told {markup out : List Char} {replies : List Reply}
    (h : Inlined markup replies out) (more : List (Option FontFile)) :
    replies.map (·.url) = styleUrls markup ∧
      inlineBy tell (replies.map (·.file) ++ more) markup = (out, more) := by
  induction h with
  | nil =>
    rw [styleUrls, styleBlocks_nil, inlineBy, rewriteStyles, spans]
    exact ⟨rfl, rfl⟩
  | @char c s out replies outside _ ih =>
    obtain ⟨hurls, htext⟩ := ih
    rw [inlineBy, rewriteStyles] at htext
    rw [styleUrls, styleBlocks_cons outside, inlineBy, rewriteStyles, spans_cons outside,
      replaceSpans, htext]
    exact ⟨hurls, rfl⟩
  | @block b s sheet out mine replies found body _ ih =>
    obtain ⟨hurls, htext⟩ := ih
    obtain ⟨hmine, hsheet⟩ := body.told (replies.map (·.file) ++ more)
    rw [inlineBy, rewriteStyles] at htext
    rw [styleUrls, styleBlocks_match (written_of_match found), inlineBy, rewriteStyles,
      styleBlock_local.spans_of_match found, replaceSpans, List.map_append, List.map_append,
      List.append_assoc, hsheet]
    simp only [htext]
    exact ⟨by rw [hmine, hurls]; rfl, trivial⟩

namespace FontCache

variable (c : FontCache)

end FontCache

/-! ### Among others, while time goes by -/

def Stage.url? : Stage → Option String
  | .idle _ => none
  | .waiting url | .fetching url | .landed url .. => some url

namespace Crowd

def Act.thread? : Act → Option Nat
  | .wait _ => none
  | .get t _ | .preload t _ | .cached t _ | .files t | .wake t | .land t _ | .settle t => some t

def Act.isCall : Act → Bool
  | .get .. | .preload .. | .cached .. | .files _ => true
  | .wait _ | .wake _ | .land .. | .settle _ => false

/-- A call of a thread for a file. It begins, and until it is over time goes by, others take steps,
and the thread goes on with it. -/
inductive Call (t : Nat) : Crowd → Reply → Crowd → Prop
  | mk {s : Crowd} {url : String} {given : List FontFile} {file : Option FontFile}
    {acts : List Act} (idle : s.stage t = .idle given)
    (goesOn : ∀ act ∈ acts, act.thread? = some t → act.isCall = false)
    (ended : ((s.step (.get t url)).run acts).stage t = .idle file.toList) :
    Call t s ⟨url, file⟩ ((s.step (.get t url)).run acts)

inductive Calls (t : Nat) : Crowd → List Reply → Crowd → Prop
  | nil (s : Crowd) : Calls t s [] s
  | cons {s between after : Crowd} {reply : Reply} {replies : List Reply}
    (first : Call t s reply between) (rest : Calls t between replies after) :
    Calls t s (reply :: replies) after

variable {s : Crowd} {t : Nat} {url : String}

theorem stage_lookUp_other {u : Nat} (h : u ≠ t) (a : String) (timeout : Nat) (patient : Bool) :
    (s.lookUp u a timeout patient).stage t = s.stage t := by
  unfold lookUp
  split <;> simp [put, note, withCache, Function.update_of_ne h.symm]

/-- The steps of others leave a thread where it is. -/
theorem stage_step_other {act : Act} (h : act.thread? ≠ some t) :
    (s.step act).stage t = s.stage t := by
  cases act with
  | wait => rfl
  | _ u =>
    have hu : u ≠ t := fun hut => h (congrArg some hut)
    simp only [step]
    split <;> simp [put, note, withCache, stage_lookUp_other hu, Function.update_of_ne hu.symm]

/-- What a thread is at in a call for a file, or right behind it: a file it was given is there. -/
inductive Calling (t : Nat) (url : String) (s : Crowd) : Prop
  | waiting (here : s.stage t = .waiting url)
  | fetching (here : s.stage t = .fetching url)
  | landed (time : Nat) (outcome : Option (List UInt8))
    (here : s.stage t = .landed url time outcome)
  | refused (here : s.stage t = .idle [])
  | served (file : FontFile) (here : s.stage t = .idle [file])
    (ready : s.cache.entries.entry? url = some (.ready file))

theorem stage_put_self (stage : Stage) : (s.put t stage).stage t = stage :=
  Function.update_self ..

theorem calling_lookUp (timeout : Nat) : Calling t url (s.lookUp t url timeout true) := by
  unfold lookUp
  obtain ⟨file, hc⟩ | hc | hc | ⟨hc, -⟩ := s.cache.entries.claim_cases s.cache.clock url
  · rw [hc]
    exact .served file (stage_put_self _) (CacheEntries.entry?_of_claim hc)
  · rw [hc]
    exact .refused (stage_put_self _)
  · rw [hc]
    exact .waiting (stage_put_self _)
  · rw [hc]
    exact .fetching (stage_put_self _)

theorem Calling.eq_of_url (h : Calling t url s) {a : String}
    (ha : (s.stage t).url? = some a) : a = url := by
  cases h with
  | waiting here | fetching here | landed _ _ here =>
    rw [here] at ha
    exact (Option.some.inj ha).symm
  | refused here | served _ here =>
    rw [here] at ha
    cases ha

theorem calling_settle (time : Nat) (outcome : Option (List UInt8)) :
    Calling t url ((s.withCache { s.cache with
      entries := s.cache.entries.settle time url outcome }).put t
        (.idle (outcome.map (FontFile.mk url)).toList)) := by
  cases outcome with
  | none => exact .refused (stage_put_self _)
  | some bytes =>
    have hready := CacheEntries.entry?_settle s.cache.entries time url url (some bytes)
    rw [if_pos rfl] at hready
    exact .served ⟨url, bytes⟩ (stage_put_self _) hready

/-- A call goes on until it is over, and then it stays so. -/
theorem Calling.step (h : Calling t url s) (hs : s.Orderly) {act : Act}
    (hact : act.thread? = some t → act.isCall = false) : Calling t url (s.step act) := by
  by_cases hmine : act.thread? = some t
  case neg =>
    have hstage := stage_step_other (s := s) hmine
    cases h with
    | waiting here => exact .waiting (hstage.trans here)
    | fetching here => exact .fetching (hstage.trans here)
    | landed time outcome here => exact .landed time outcome (hstage.trans here)
    | refused here => exact .refused (hstage.trans here)
    | served file here ready =>
      exact .served file (hstage.trans here) ((hs url).ready (change_step s act url) ready)
  case pos =>
    cases act with
    | wait => cases hmine
    | get | preload | cached | files => cases hact hmine
    | wake u =>
      obtain rfl : u = t := Option.some.inj hmine
      cases hstage : s.stage u with
      | waiting a =>
        obtain rfl := h.eq_of_url (congrArg Stage.url? hstage)
        simpa only [Crowd.step, hstage] using calling_lookUp _
      | _ => simpa only [Crowd.step, hstage] using h
    | land u outcome =>
      obtain rfl : u = t := Option.some.inj hmine
      cases hstage : s.stage u with
      | fetching a =>
        obtain rfl := h.eq_of_url (congrArg Stage.url? hstage)
        simp only [Crowd.step, hstage]
        exact .landed _ outcome (stage_put_self _)
      | _ => simpa only [Crowd.step, hstage] using h
    | settle u =>
      obtain rfl : u = t := Option.some.inj hmine
      cases hstage : s.stage u with
      | landed a time outcome =>
        obtain rfl := h.eq_of_url (congrArg Stage.url? hstage)
        simpa only [Crowd.step, hstage] using calling_settle time outcome
      | _ => simpa only [Crowd.step, hstage] using h

theorem Calling.run (h : Calling t url s) (hs : s.Orderly) {acts : List Act}
    (hacts : ∀ act ∈ acts, act.thread? = some t → act.isCall = false) :
    Calling t url (s.run acts) := by
  induction acts generalizing s with
  | nil => exact h
  | cons act acts ih =>
    rw [List.forall_mem_cons] at hacts
    exact ih (h.step hs hacts.1) (hs.step act) hacts.2

variable {after : Crowd} {reply : Reply} {replies : List Reply}

theorem step_get {given : List FontFile} (h : s.stage t = .idle given) :
    s.step (.get t url) = s.lookUp t url FontCache.exportTimeout true := by
  simp only [step, h]

theorem Call.orderly (h : Call t s reply after) (hs : s.Orderly) : after.Orderly := by
  obtain ⟨-, -, -⟩ := h
  exact (hs.step _).run _

/-- The file that a call brought is there. -/
theorem Call.ready (h : Call t s reply after) (hs : s.Orderly) {file : FontFile}
    (hfile : reply.file = some file) :
    after.cache.entries.entry? reply.url = some (.ready file) := by
  cases h with
  | @mk url given replied acts idle goesOn ended =>
    obtain rfl : replied = some file := hfile
    have hcalling : Calling t url (s.step (.get t url)) := step_get idle ▸ calling_lookUp _
    cases hcalling.run (hs.step _) goesOn with
    | waiting here | fetching here | landed _ _ here | refused here =>
      rw [here] at ended
      cases ended
    | served file' here ready =>
      rw [here] at ended
      cases ended
      exact ready

theorem Call.ready_of_ready (h : Call t s reply after) (hs : s.Orderly) {file : FontFile}
    (hready : s.cache.entries.entry? url = some (.ready file)) :
    after.cache.entries.entry? url = some (.ready file) := by
  obtain ⟨-, -, -⟩ := h
  exact (hs.step _).ready_run ((hs url).ready (change_step s _ url) hready) _

theorem Calls.orderly (h : Calls t s replies after) (hs : s.Orderly) : after.Orderly := by
  induction h with
  | nil => exact hs
  | cons first _ ih => exact ih (first.orderly hs)

theorem Calls.ready_of_ready (h : Calls t s replies after) (hs : s.Orderly) {file : FontFile}
    (hready : s.cache.entries.entry? url = some (.ready file)) :
    after.cache.entries.entry? url = some (.ready file) := by
  induction h with
  | nil => exact hready
  | cons first _ ih => exact ih (first.orderly hs) (first.ready_of_ready hs hready)

/-- The files that calls brought are there. -/
theorem Calls.ready (h : Calls t s replies after) (hs : s.Orderly) :
    ∀ reply ∈ replies, ∀ file, reply.file = some file →
      after.cache.entries.entry? reply.url = some (.ready file) := by
  induction h with
  | nil => simp
  | cons first rest ih =>
    have hbetween := first.orderly hs
    rw [List.forall_mem_cons]
    exact ⟨fun file hfile => rest.ready_of_ready hbetween (first.ready hs hfile), ih hbetween⟩

end Crowd

/-- One file is named twice and fetched once; what is not in a style stays. -/
example :
    let svg := "<style>a(url( 'http://a' ))b(url(http://lost))</style>url(http://c)" ++
      "<style>url(http://a)</style>"
    (someFonts.inline svg none).1 =
      "<style>a(url('data:font/truetype;base64,AAEAAA=='))b()</style>url(http://c)" ++
        "<style>url('data:font/truetype;base64,AAEAAA==')</style>" ∧
    (someFonts.inline svg none).2.requests = [("http://a", 10), ("http://lost", 10)] := by
  decide +kernel

/-- A thread asks for one file twice. The first fetch fails; a minute later another thread fetches
the file, for which the second call waits. So the first reference is taken out, but not the next. -/
example :
    let url := "http://a"
    let replies : List Reply := [⟨url, none⟩, ⟨url, some ⟨url, [7]⟩⟩]
    (∃ after, Crowd.Calls 0 (Crowd.fresh fun _ _ => .ok []) replies after) ∧
      (inlineBy tell (replies.map (·.file))
        "<style>url(http://a)url(http://a)</style>".toList).1 =
          "<style>url('data:font/truetype;base64,Bw==')</style>".toList := by
  refine ⟨⟨_, .cons (@Crowd.Call.mk 0 _ _ [] none
    [.land 0 none, .settle 0, .wait 60000, .get 1 "http://a"] ?_ ?_ ?_)
    (.cons (@Crowd.Call.mk 0 _ _ [] _
      [.land 1 (some [7]), .settle 1, .wake 0] ?_ ?_ ?_) (.nil _))⟩, ?_⟩
  all_goals decide +kernel

end DiagramDesk
