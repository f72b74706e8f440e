import DiagramDesk.Flags.Basic
import DiagramDesk.Proofs.Number.Reading
import DiagramDesk.Proofs.Text.Lines

/-!
Flags and the text of a file of defaults. The text has a line for each setting, and its tokens are
read back in the same order. Two settings have values that can be anything. They come back exactly
if they are words: a blank cuts a value off, and an empty value lets the token behind it slip into
its place.
-/
namespace DiagramDesk.Flags

open Text

/-! ### Settings -/

inductive Setting where
  | turn (s : Switch)
  | make (c : Choice) (value : String)

namespace Setting

def line : Setting → String
  | turn s => s.word
  | make c value => choiceLine c value

def tokens : Setting → List String
  | turn s => [s.word]
  | make c value => c.word :: if value = "" then [] else [value]

def apply (f : Flags) : Setting → Flags
  | turn s => f.turnOn s
  | make c value => f.choose c value

end Setting

/-- A text without blanks. -/
def Unbroken (s : String) : Prop := ∀ c ∈ s.toList, isBlank c = false

def IsWord (s : String) : Prop := s ≠ "" ∧ Unbroken s

-- The instance over a list is named: the one over all characters does not compute.
instance (s : String) : Decidable (Unbroken s) :=
  List.decidableBAll (fun c => isBlank c = false) s.toList

instance (s : String) : Decidable (IsWord s) :=
  inferInstanceAs (Decidable (s ≠ "" ∧ Unbroken s))

def lookSwitch : Look → Switch
  | .handDrawn => .handDrawn
  | .classic => .classic

/-- The values that can be anything hold no blanks. -/
structure Whole (f : Flags) : Prop where
  page : ∀ u ∈ f.baseUrl, Unbroken u
  path : ∀ d ∈ f.debugLog, Unbroken d

def named (f : Flags) : List Setting :=
  (f.theme.map fun t => Setting.make .theme t.name).toList ++
  (f.look.map fun l => Setting.turn (lookSwitch l)).toList ++
  (f.handFont.map fun x => Setting.make .handFont x.name).toList ++
  (f.fontSize.map fun x => Setting.make .fontSize x.name).toList ++
  (f.seed.map fun n => Setting.make .seed (toString n)).toList ++
  (if f.randomSeed then [Setting.turn .randomSeed] else []) ++
  (f.scale.map fun x => Setting.make .scale x.text).toList ++
  (f.background.map fun b => Setting.make .background b.name).toList ++
  (f.lang.map fun l => Setting.make .lang l.code).toList

def free (f : Flags) : List Setting :=
  (f.baseUrl.map (Setting.make .baseUrl)).toList ++
  (if f.perf then [Setting.turn .perf] else []) ++
  (f.debugLog.map (Setting.make .debugLog)).toList

theorem lines_eq (f : Flags) : f.lines = (f.named ++ f.free).map Setting.line := by
  have hlook : (f.look.map lookWord) = f.look.map fun l => (lookSwitch l).word := by
    obtain _ | _ | _ := f.look <;> rfl
  have hmap {α : Type} (o : Option α) (mk : α → Setting) :
      (o.map mk).toList.map Setting.line = (o.map fun a => (mk a).line).toList := by
    cases o <;> rfl
  have hswitch (b : Bool) (s : Switch) :
      (if b then [Setting.turn s] else []).map Setting.line = if b then [s.word] else [] := by
    cases b <;> rfl
  simp only [lines, named, free, List.map_append, hmap, hswitch, hlook, List.append_assoc]
  rfl

/-! ### Reading tokens -/

theorem of_switch (s : Switch) : Token.of s.word = .switch s := by cases s <;> rfl

theorem of_choice (c : Choice) : Token.of c.word = .opens c := by cases c <;> rfl

theorem scan_turn (f : Flags) (s : Switch) (rest : List String) :
    f.scan (s.word :: rest) = (f.turnOn s).scan rest := by
  cases rest <;> simp [scan, of_switch]

theorem scan_make (f : Flags) (c : Choice) (value : String) (rest : List String) :
    f.scan (c.word :: value :: rest) = (f.choose c value).scan rest := by
  simp [scan, of_choice]

/-- A choice at the end of all tokens is passed over. -/
theorem scan_dangling (f : Flags) (c : Choice) : f.scan [c.word] = f := by
  simp [scan, of_choice]

/-- The tokens of settings have the effect of the settings, if no value is empty. -/
theorem scan_settings (f : Flags) (xs : List Setting) (rest : List String)
    (h : ∀ c, .make c "" ∉ xs) :
    f.scan (xs.flatMap Setting.tokens ++ rest) = (xs.foldl Setting.apply f).scan rest := by
  induction xs generalizing f with
  | nil => rfl
  | cons x xs ih =>
    have hxs : ∀ c, .make c "" ∉ xs := fun c hc => h c (List.mem_cons_of_mem x hc)
    rw [List.flatMap_cons, List.append_assoc, List.foldl_cons, ← ih _ hxs]
    cases x with
    | turn s => exact scan_turn f s _
    | make c value =>
      have hvalue : value ≠ "" := by
        rintro rfl
        exact h c List.mem_cons_self
      rw [Setting.tokens, if_neg hvalue]
      exact scan_make f c value _

/-! ### The settings of flags -/

/-- Flags as they are given: a seed is a number of 32 bits, and a scale is finite and above
zero. -/
structure InRange (f : Flags) : Prop where
  seed : ∀ n ∈ f.seed, n < seedBound
  scale : ∀ x ∈ f.scale, x.value.isFinite = true ∧ x.value.isPositive = true

theorem scale?_text {x : Single} (h : x.value.isFinite = true ∧ x.value.isPositive = true) :
    scale? x.text = some x := by
  simp [scale?, Single.read?_text h.1 h.2, h]

/-- Names and numbers come back. -/
theorem foldl_named (f g : Flags) (h : f.InRange) :
    f.named.foldl Setting.apply g =
      { g with
        theme := f.theme <|> g.theme
        look := f.look <|> g.look
        handFont := f.handFont <|> g.handFont
        fontSize := f.fontSize <|> g.fontSize
        seed := f.seed <|> g.seed
        randomSeed := f.randomSeed || g.randomSeed
        scale := f.scale <|> g.scale
        background := f.background <|> g.background
        lang := f.lang <|> g.lang } := by
  have htheme (g : Flags) :
      (f.theme.map fun t => Setting.make .theme t.name).toList.foldl Setting.apply g =
        { g with theme := f.theme <|> g.theme } := by
    obtain _ | _ | _ | _ | _ | _ := f.theme <;> rfl
  have hlook (g : Flags) :
      (f.look.map fun l => Setting.turn (lookSwitch l)).toList.foldl Setting.apply g =
        { g with look := f.look <|> g.look } := by
    obtain _ | _ | _ := f.look <;> rfl
  have hhandFont (g : Flags) :
      (f.handFont.map fun x => Setting.make .handFont x.name).toList.foldl Setting.apply g =
        { g with handFont := f.handFont <|> g.handFont } := by
    obtain _ | _ | _ | _ := f.handFont <;> rfl
  have hfontSize (g : Flags) :
      (f.fontSize.map fun x => Setting.make .fontSize x.name).toList.foldl Setting.apply g =
        { g with fontSize := f.fontSize <|> g.fontSize } := by
    obtain _ | _ | _ | _ := f.fontSize <;> rfl
  have hseed (g : Flags) :
      (f.seed.map fun n => Setting.make .seed (toString n)).toList.foldl Setting.apply g =
        { g with seed := f.seed <|> g.seed } := by
    cases hn : f.seed with
    | none => rfl
    | some n =>
      show { g with seed := natBelow? seedBound (toString n).toList <|> g.seed } = _
      rw [natBelow?_toString (h.seed n hn)]
  have hrandom (g : Flags) :
      (if f.randomSeed then [Setting.turn .randomSeed] else []).foldl Setting.apply g =
        { g with randomSeed := f.randomSeed || g.randomSeed } := by
    cases f.randomSeed <;> rfl
  have hscale (g : Flags) :
      (f.scale.map fun x => Setting.make .scale x.text).toList.foldl Setting.apply g =
        { g with scale := f.scale <|> g.scale } := by
    cases hx : f.scale with
    | none => rfl
    | some x =>
      show { g with scale := scale? x.text <|> g.scale } = _
      rw [scale?_text (h.scale x hx)]
  have hbackground (g : Flags) :
      (f.background.map fun b => Setting.make .background b.name).toList.foldl Setting.apply g =
        { g with background := f.background <|> g.background } := by
    obtain _ | _ | _ | _ | _ := f.background <;> rfl
  have hlang (g : Flags) :
      (f.lang.map fun l => Setting.make .lang l.code).toList.foldl Setting.apply g =
        { g with lang := f.lang <|> g.lang } := by
    obtain _ | _ | _ := f.lang <;> rfl
  simp only [named, List.foldl_append, htheme, hlook, hhandFont, hfontSize, hseed, hrandom, hscale,
    hbackground, hlang]

theorem foldl_free (f g : Flags) :
    f.free.foldl Setting.apply g =
      { g with
        baseUrl := f.baseUrl <|> g.baseUrl
        perf := f.perf || g.perf
        debugLog := f.debugLog <|> g.debugLog } := by
  obtain ⟨perf, -, -, -, -, -, -, -, -, -, baseUrl, debugLog⟩ := f
  cases perf <;> cases baseUrl <;> cases debugLog <;> rfl

/-- Settings have the effect of the flags that they come from. -/
theorem foldl_settings (f : Flags) (h : f.InRange) :
    (f.named ++ f.free).foldl Setting.apply {} = f := by
  rw [List.foldl_append, foldl_named f {} h, foldl_free]
  simp

theorem not_blank_of_isDigit {c : Char} (hc : c.isDigit = true) : isBlank c = false := by
  obtain ⟨hlow, hhigh⟩ := Char.isDigit_iff_toNat.mp hc
  have hlow : 48 ≤ c.toNat := hlow
  have hhigh : c.toNat ≤ 57 := hhigh
  simp only [isBlank, Bool.or_eq_false_iff, Bool.and_eq_false_iff, decide_eq_false_iff_not,
    beq_eq_false_iff_ne]
  omega

theorem isWord_toString (n : Nat) : IsWord (toString n) := by
  rw [Nat.toString_eq_ofList_toDigits]
  refine ⟨fun h => Nat.toDigits_ne_nil (String.ofList_eq_empty_iff.mp h), fun c hc => ?_⟩
  rw [String.toList_ofList] at hc
  exact not_blank_of_isDigit (isDigit_of_mem_toDigits hc)

theorem isWord_text {x : Single} (h : x.value.isFinite = true ∧ x.value.isPositive = true) :
    IsWord x.text := by
  constructor
  · intro hempty
    have hread := Single.read?_text h.1 h.2
    rw [hempty] at hread
    cases hread
  · intro c hc
    obtain ⟨d, htext, -⟩ := Single.exists_decimal h.1 h.2
    rw [htext] at hc
    obtain hdigit | rfl := d.mem_text c hc
    · exact not_blank_of_isDigit hdigit
    · rfl

theorem mem_free {f : Flags} {c : Choice} {value : String} (h : .make c value ∈ f.free) :
    c = .baseUrl ∧ f.baseUrl = some value ∨ c = .debugLog ∧ f.debugLog = some value := by
  simp only [free, List.mem_append, Option.mem_toList, Option.map_eq_some_iff] at h
  obtain (⟨u, hu, hmake⟩ | hp) | ⟨d, hd, hmake⟩ := h
  · cases hmake
    exact .inl ⟨rfl, hu⟩
  · split at hp <;> simp at hp
  · cases hmake
    exact .inr ⟨rfl, hd⟩

/-- Names and numbers are words. -/
theorem isWord_of_mem_named (f : Flags) (h : f.InRange) (c : Choice) (value : String)
    (hmem : .make c value ∈ f.named) : IsWord value := by
  simp only [named, List.mem_append, Option.mem_toList, Option.map_eq_some_iff] at hmem
  obtain (((((((⟨t, -, ht⟩ | ⟨_, -, hl⟩) | ⟨x, -, hx⟩) | ⟨x, -, hx⟩) | ⟨n, -, hn⟩) | hr) |
    ⟨x, hscale, hx⟩) | ⟨b, -, hb⟩) | ⟨l, -, hl⟩ := hmem
  · cases ht
    cases t <;> decide
  · cases hl
  · cases hx
    cases x <;> decide
  · cases hx
    cases x <;> decide
  · cases hn
    exact isWord_toString n
  · split at hr <;> simp at hr
  · cases hx
    exact isWord_text (h.scale x hscale)
  · cases hb
    cases b <;> decide
  · cases hl
    cases l <;> decide

/-! ### Values that can be anything -/

theorem baseUrl_turnOn (f : Flags) (s : Switch) : (f.turnOn s).baseUrl = f.baseUrl := by
  cases s <;> rfl

theorem debugLog_turnOn (f : Flags) (s : Switch) : (f.turnOn s).debugLog = f.debugLog := by
  cases s <;> rfl

theorem baseUrl_choose (f : Flags) (c : Choice) (value : String) :
    (f.choose c value).baseUrl = if c = .baseUrl then some value else f.baseUrl := by
  cases c <;> rfl

theorem debugLog_choose (f : Flags) (c : Choice) (value : String) :
    (f.choose c value).debugLog = if c = .debugLog then some value else f.debugLog := by
  cases c <;> rfl

/-- The value of a choice that is held in one token is the rest of the token. -/
theorem toList_of_holds {t value : String} {c : Choice} (h : Token.of t = .holds c value) :
    t.toList = c.word.toList ++ '=' :: value.toList := by
  unfold Token.of at h
  split at h
  case h_1 => cases h
  case h_2 =>
    split at h
    case h_1 => cases h
    case h_2 =>
      cases hheld : Choice.all.findSome? (heldBy t) with
      | none =>
        rw [hheld] at h
        cases h
      | some token =>
        rw [hheld, Option.getD_some] at h
        subst h
        obtain ⟨d, -, hd⟩ := List.exists_of_findSome?_eq_some hheld
        obtain ⟨rest, hrest, htoken⟩ := Option.map_eq_some_iff.mp hd
        obtain ⟨rfl, rfl⟩ := Token.holds.inj htoken
        rw [String.toList_ofList, after?_eq_some _ _ _ hrest, List.append_assoc,
          List.singleton_append]

/-- A token alone does not give itself as the file to log to. -/
theorem debugLog_scan_lone (g : Flags) (token : String) (h : g.debugLog = none) :
    (g.scan [token]).debugLog ≠ some token := by
  rw [scan]
  split
  case h_1 s hs =>
    rw [debugLog_turnOn, h]
    exact nofun
  case h_2 c value hvalue =>
    have hlonger := congrArg List.length (toList_of_holds hvalue)
    rw [debugLog_choose]
    split
    · rintro heq
      cases heq
      simp at hlonger
      omega
    · rw [h]
      exact nofun
  case h_3 =>
    rw [h]
    exact nofun

/-- The tokens of the last line do not name a page. -/
theorem baseUrl_scan_last (g : Flags) (log : Option String) :
    (g.scan ((log.map (Setting.make .debugLog)).toList.flatMap Setting.tokens)).baseUrl =
      g.baseUrl := by
  cases log with
  | none => rfl
  | some d =>
    by_cases hd : d = ""
    · subst hd
      exact congrArg baseUrl (scan_dangling g .debugLog)
    · have htokens : (Option.map (Setting.make .debugLog) (some d)).toList.flatMap Setting.tokens =
          [Choice.debugLog.word, d] := by simp [Setting.tokens, hd]
      rw [htokens, scan_make]
      rfl

/-- An empty page slips: the token behind it is taken for the page. -/
theorem scan_free_empty_page (f g : Flags) (hbase : g.baseUrl = none) (hlog : g.debugLog = none)
    (h : f.baseUrl = some "") : g.scan (f.free.flatMap Setting.tokens) ≠ f := by
  intro heq
  have hpage := congrArg baseUrl heq
  rw [h] at hpage
  cases hperf : f.perf with
  | true =>
    have htokens : f.free.flatMap Setting.tokens = Choice.baseUrl.word :: Switch.perf.word ::
        (f.debugLog.map (Setting.make .debugLog)).toList.flatMap Setting.tokens := by
      simp [free, h, hperf, Setting.tokens]
    rw [htokens, scan_make, baseUrl_scan_last] at hpage
    exact absurd (Option.some.inj hpage) (by decide)
  | false =>
    cases hd : f.debugLog with
    | none =>
      have htokens : f.free.flatMap Setting.tokens = [Choice.baseUrl.word] := by
        simp [free, h, hperf, hd, Setting.tokens]
      rw [htokens, scan_dangling, hbase] at hpage
      cases hpage
    | some d =>
      have htokens : f.free.flatMap Setting.tokens =
          Choice.baseUrl.word :: Choice.debugLog.word :: if d = "" then [] else [d] := by
        simp [free, h, hperf, hd, Setting.tokens]
      rw [htokens, scan_make] at heq hpage
      by_cases hempty : d = ""
      · rw [if_pos hempty] at hpage
        exact absurd (Option.some.inj hpage) (by decide)
      · rw [if_neg hempty] at heq
        exact debugLog_scan_lone (g.choose .baseUrl Choice.debugLog.word) d hlog (by rw [heq, hd])

/-- An empty path at the end is as good as none. -/
theorem scan_free_empty_path (f g : Flags) (hlog : g.debugLog = none) (hbase : f.baseUrl ≠ some "")
    (h : f.debugLog = some "") : g.scan (f.free.flatMap Setting.tokens) ≠ f := by
  intro heq
  have hpath := congrArg debugLog heq
  have htokens : f.free.flatMap Setting.tokens =
      ((f.baseUrl.map (Setting.make .baseUrl)).toList ++
        if f.perf then [Setting.turn .perf] else []).flatMap Setting.tokens ++
        [Choice.debugLog.word] := by
    simp [free, h, Setting.tokens]
  rw [htokens, scan_settings, scan_dangling, h] at hpath
  · cases hb : f.baseUrl <;> cases hp : f.perf <;>
      simp [hb, hp, Setting.apply, debugLog_choose, debugLog_turnOn, hlog] at hpath
  · intro c hc
    obtain hc | hc := List.mem_append.mp hc
    · obtain ⟨u, hu, hmake⟩ := Option.map_eq_some_iff.mp (Option.mem_toList.mp hc)
      cases hmake
      exact hbase hu
    · split at hc <;> simp at hc

/-- The tokens of unbroken values give the flags back exactly if no value is empty. -/
theorem ofTokens_settings_iff (f : Flags) (h : f.InRange) :
    ofTokens ((f.named ++ f.free).flatMap Setting.tokens) = f ↔
      f.baseUrl ≠ some "" ∧ f.debugLog ≠ some "" := by
  have hnamed : ∀ c, .make c "" ∉ f.named := fun c hc =>
    (isWord_of_mem_named f h c "" hc).1 rfl
  constructor
  · intro heq
    -- the values that can be anything are read last, from where neither is known
    have hstart : f.named.foldl Setting.apply {} =
        { f with perf := false, baseUrl := none, debugLog := none } := by
      rw [foldl_named f {} h]
      simp
    rw [List.flatMap_append, ofTokens, scan_settings _ _ _ hnamed, hstart] at heq
    by_cases hbase : f.baseUrl = some ""
    · exact absurd heq (scan_free_empty_page f _ rfl rfl hbase)
    · exact ⟨hbase, fun hlog => scan_free_empty_path f _ rfl hbase hlog heq⟩
  · rintro ⟨hbase, hlog⟩
    have hall : ∀ c, .make c "" ∉ f.named ++ f.free := by
      intro c hc
      obtain hc | hc := List.mem_append.mp hc
      · exact hnamed c hc
      · obtain ⟨-, hu⟩ | ⟨-, hd⟩ := mem_free hc
        · exact hbase hu
        · exact hlog hd
    have hscan := scan_settings {} (f.named ++ f.free) [] hall
    rwa [List.append_nil, foldl_settings f h] at hscan

/-! ### Text -/

def lineTokens (line : List Char) : List String :=
  if startsWith (trim line) ['#'] then [] else (words (trim line)).map String.ofList

theorem tokensOf_eq (content : String) :
    tokensOf content = (Text.lines content.toList).flatMap lineTokens := by
  rw [tokensOf, List.flatMap_map]
  rfl

def Setting.Unbroken : Setting → Prop
  | turn _ => True
  | make _ value => Flags.Unbroken value

theorem Switch.isWord (s : Switch) : IsWord s.word := by cases s <;> decide

theorem Choice.isWord (c : Choice) : IsWord c.word := by cases c <;> decide

theorem IsWord.toList_ne_nil {s : String} (h : IsWord s) : s.toList ≠ [] :=
  fun hnil => h.1 (String.toList_eq_nil_iff.mp hnil)

theorem lineTokens_line (x : Setting) (h : x.Unbroken) :
    lineTokens x.line.toList = x.tokens := by
  cases x with
  | turn s => cases s <;> rfl
  | make c value =>
    by_cases hempty : value = ""
    · subst hempty
      cases c <;> rfl
    · have hne : value.toList ≠ [] := IsWord.toList_ne_nil ⟨hempty, h⟩
      obtain ⟨rest, hrest⟩ : ∃ rest, c.word.toList = '-' :: rest := by
        cases c <;> exact ⟨_, rfl⟩
      have hline : (Setting.make c value).line.toList =
          '-' :: (rest ++ [' ']) ++ value.toList := by
        simp [Setting.line, choiceLine, hrest]
      have hwords : words ('-' :: (rest ++ [' ']) ++ value.toList) =
          [c.word.toList, value.toList] := by
        have hcut : '-' :: (rest ++ [' ']) ++ value.toList =
            c.word.toList ++ ' ' :: value.toList := by simp [hrest]
        rw [hcut, words_append_cons _ ' ' _ c.isWord.toList_ne_nil c.isWord.2 rfl,
          words_of_clean _ hne h]
      rw [lineTokens, hline, trim_append_clean '-' _ _ rfl hne h, hwords, Setting.tokens,
        if_neg hempty]
      simp [startsWith]

/-- A line of unbroken values has no blanks but spaces. -/
theorem blank_of_mem_line (x : Setting) (h : x.Unbroken) (c : Char) (hc : c ∈ x.line.toList) :
    isBlank c = false ∨ c = ' ' := by
  cases x with
  | turn s => exact .inl (s.isWord.2 c hc)
  | make d value =>
    simp only [Setting.line, choiceLine, String.toList_append, List.mem_append] at hc
    obtain (hc | hc) | hc := hc
    · exact .inl (d.isWord.2 c hc)
    · exact .inr (by simpa using hc)
    · exact .inl (h c hc)

theorem toList_text (f : Flags) :
    f.text.toList = unlines ((remark :: f.lines).map String.toList) := by
  have hjoin (l : List Char) (ls : List (List Char)) :
      ['\n'].intercalate (l :: ls) ++ ['\n'] = unlines (l :: ls) := by
    induction ls generalizing l with
    | nil => simp [unlines]
    | cons m ls ih =>
      rw [List.intercalate_cons_cons, List.append_assoc, ih, unlines_cons l]
      simp
  rw [text, String.toList_append, String.toList_intercalate, List.map_cons]
  exact hjoin _ _

/-- The lines of unbroken values are read back with the tokens of their settings. -/
theorem tokensOf_text (f : Flags) (h : f.InRange) (hwhole : f.Whole) :
    tokensOf f.text = (f.named ++ f.free).flatMap Setting.tokens := by
  have hunbroken : ∀ x ∈ f.named ++ f.free, x.Unbroken := by
    intro x hx
    cases x with
    | turn s => trivial
    | make c value =>
      obtain hx | hx := List.mem_append.mp hx
      · exact (isWord_of_mem_named f h c value hx).2
      · obtain ⟨-, hu⟩ | ⟨-, hd⟩ := mem_free hx
        · exact hwhole.page value hu
        · exact hwhole.path value hd
  have hspaced : ∀ l ∈ (remark :: f.lines).map String.toList, ∀ c ∈ l,
      isBlank c = false ∨ c = ' ' := by
    rw [List.map_cons, List.forall_mem_cons, lines_eq, List.map_map]
    refine ⟨fun c hc => ?_, fun l hl => ?_⟩
    · have hall : remark.toList.all (fun c => !isBlank c || c == ' ') = true := rfl
      simpa using List.all_eq_true.mp hall c hc
    obtain ⟨x, hx, rfl⟩ := List.mem_map.mp hl
    exact blank_of_mem_line x (hunbroken x hx)
  have hlines : Text.lines f.text.toList = (remark :: f.lines).map String.toList := by
    rw [toList_text, lines_unlines]
    · intro l hl hmem
      exact absurd (hspaced l hl _ hmem) (by decide)
    · intro l hl hne heq
      exact absurd (heq ▸ hspaced l hl _ (List.getLast_mem hne)) (by decide)
  have hremark : lineTokens remark.toList = [] := rfl
  rw [tokensOf_eq, hlines, List.map_cons, List.flatMap_cons, lines_eq, List.map_map,
    List.flatMap_map, hremark, List.nil_append]
  exact List.flatMap_congr fun x hx => lineTokens_line x (hunbroken x hx)

/-! ### Blanks -/

theorem Unbroken.of_holds {t value : String} {c : Choice} (h : Token.of t = .holds c value)
    (ht : Unbroken t) : Unbroken value := by
  intro d hd
  refine ht d ?_
  rw [toList_of_holds h]
  exact List.mem_append_right _ (List.mem_cons_of_mem _ hd)

theorem Whole.turnOn {f : Flags} (h : f.Whole) (s : Switch) : (f.turnOn s).Whole :=
  ⟨by rw [baseUrl_turnOn]; exact h.page, by rw [debugLog_turnOn]; exact h.path⟩

theorem Whole.choose {f : Flags} (h : f.Whole) (c : Choice) {value : String}
    (hvalue : Unbroken value) : (f.choose c value).Whole := by
  constructor
  · rw [baseUrl_choose]
    split
    · rintro u ⟨⟩
      exact hvalue
    · exact h.page
  · rw [debugLog_choose]
    split
    · rintro d ⟨⟩
      exact hvalue
    · exact h.path

/-- No blank comes from tokens without blanks. -/
theorem Whole.scan {f : Flags} (h : f.Whole) (tokens : List String)
    (htokens : ∀ t ∈ tokens, Unbroken t) : (f.scan tokens).Whole := by
  fun_induction Flags.scan f tokens with
  | case1 f => exact h
  | case2 f t s => exact h.turnOn s
  | case3 f t c value hvalue => exact h.choose c ((htokens t List.mem_cons_self).of_holds hvalue)
  | case4 f t => exact h
  | case5 f t v rest s hs ih =>
    exact ih (h.turnOn s) fun t ht => htokens t (List.mem_cons_of_mem _ ht)
  | case6 f t v rest c hc ih =>
    rw [List.forall_mem_cons, List.forall_mem_cons] at htokens
    exact ih (h.choose c htokens.2.1) htokens.2.2
  | case7 f t v rest c value hvalue ih =>
    rw [List.forall_mem_cons] at htokens
    exact ih (h.choose c (htokens.1.of_holds hvalue)) htokens.2
  | case8 f t v rest hother ih => exact ih h fun t ht => htokens t (List.mem_cons_of_mem _ ht)

/-- Flags that were read from a text have no blanks in their values. -/
theorem whole_ofText (content : String) : (ofText content).Whole := by
  have hstart : ({} : Flags).Whole := by
    constructor <;> intro _ h <;> cases h
  refine hstart.scan _ fun t ht => ?_
  rw [tokensOf_eq] at ht
  obtain ⟨line, -, ht⟩ := List.mem_flatMap.mp ht
  unfold lineTokens at ht
  split at ht
  case isTrue => cases ht
  case isFalse =>
    obtain ⟨w, hw, rfl⟩ := List.mem_map.mp ht
    intro c hc
    rw [String.toList_ofList] at hc
    exact (clean_of_mem_words _ w hw).2 c hc

/-- Flags come back from their text exactly if the values that can be anything are words. -/
theorem ofText_text_iff (f : Flags) (h : f.InRange) :
    ofText f.text = f ↔ (∀ u ∈ f.baseUrl, IsWord u) ∧ ∀ d ∈ f.debugLog, IsWord d := by
  constructor
  · intro hback
    have hwhole : f.Whole := hback ▸ whole_ofText f.text
    rw [ofText, tokensOf_text f h hwhole, ofTokens_settings_iff f h] at hback
    exact ⟨fun u hu => ⟨fun hempty => hback.1 (hempty ▸ hu), hwhole.page u hu⟩,
      fun d hd => ⟨fun hempty => hback.2 (hempty ▸ hd), hwhole.path d hd⟩⟩
  · rintro ⟨hpage, hpath⟩
    have hwhole : f.Whole := ⟨fun u hu => (hpage u hu).2, fun d hd => (hpath d hd).2⟩
    rw [ofText, tokensOf_text f h hwhole, ofTokens_settings_iff f h]
    exact ⟨fun hempty => (hpage "" hempty).1 rfl, fun hempty => (hpath "" hempty).1 rfl⟩

end DiagramDesk.Flags
