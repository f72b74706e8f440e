import DiagramDesk.Proofs.Url.Sibling

/-!
What can stand in a URL. Under a scheme with known rules, what is read begins with the letter of the
scheme and ends in a path with a name in it, a query or a fragment, none of which holds a blank. So
nothing is lost of its text when blanks around it are trimmed off. Under any scheme who asks and the
path are escaped, so ahead of the query only the host can bring a quote.
-/
namespace DiagramDesk.Url

open Text

/-! ### Characters -/

/-- A part that escapes spaces holds no blanks. -/
theorem isBlank_of_not_escapes {part : Part} {c : Char} (hspace : part.escapes ' ' = true)
    (h : part.escapes c = false) : isBlank c = false := by
  have hlt : 0x20 < c.toNat := lt_of_not_escapes hspace h
  have hcontrol := isControl_of_not_escapes h
  simp only [isControl, Bool.or_eq_false_iff, decide_eq_false_iff_not] at hcontrol
  exact forall_ascii (P := fun c => 0x20 < c.toNat → isBlank c = false) (by decide) c (by omega) hlt

/-- A known scheme begins with a letter. -/
theorem exists_scheme_head {scheme : List Char} (hk : (SchemeKind.of scheme).isKnown = true) :
    ∃ c rest, scheme = c :: rest ∧ isBlank c = false := by
  have hscheme {name : String} (h : String.ofList scheme = name) : scheme = name.toList := by
    rw [← h, String.toList_ofList]
  unfold SchemeKind.of at hk
  split at hk
  case h_7 => cases hk
  all_goals
    rename_i h
    exact ⟨_, _, hscheme h, by decide⟩

theorem unpadded_subset (s : List Char) : unpadded s ⊆ s := by
  rw [unpadded, dropEndWhile_eq_rdropWhile]
  exact List.Subset.trans (List.rdropWhile_prefix _ _).subset (List.dropWhile_sublist _).subset

theorem cut_fst_subset (mark : Char) (s : List Char) : (cut mark s).1 ⊆ s :=
  (List.takeWhile_sublist _).subset

/-- What has no colon is no URL: it would have no scheme. -/
theorem colon_mem_of_parse {s : List Char} {u : Url} (h : parse s = .ok u) : ':' ∈ s := by
  have hfront : (cut '?' (cut '#' (unpadded s)).1).1 ⊆ s :=
    List.Subset.trans (cut_fst_subset _ _)
      (List.Subset.trans (cut_fst_subset _ _) (unpadded_subset s))
  refine hfront (by_contra fun hcolon => ?_)
  have hnone : readScheme? (cut '?' (cut '#' (unpadded s)).1).1 = none := by
    have hcut := cut_append none hcolon
    rw [Option.map_none, Option.getD_none, List.append_nil] at hcut
    simp only [readScheme?, hcut]
  simp only [parse, hnone] at h
  cases h

/-! ### Names of a path -/

/-- A dot segment at the end leaves an empty name behind, and anything else a name of its own. -/
theorem resolveSegments_ne_nil (k : SchemeKind) (driven : Bool) (done parts : List (List Char))
    (h : done ≠ [] ∨ parts ≠ []) : (resolveSegments k driven done parts).2 ≠ [] := by
  fun_induction resolveSegments k driven done parts with
  | case1 driven done => simpa using h
  | case2 => simp
  | case3 driven done s rest name _ hrest ih => exact ih (.inr (by simpa using hrest))
  | case4 => simp
  | case5 driven done s rest name _ _ hrest ih => exact ih (.inr (by simpa using hrest))
  | case6 driven done s rest name _ _ _ _ ih => exact ih (.inl (by simp))
  | case7 driven done s rest name _ _ _ _ drive more _ ih => exact ih (.inl (by simp))
  | case8 driven done s rest name _ _ _ _ _ ih => exact ih (.inl (by simp))
  | case9 driven done s rest name _ _ _ ih => exact ih (.inl (by simp))

theorem settleSegments_ne_nil (k : SchemeKind) {names : List (List Char)} (h : names ≠ []) :
    settleSegments k names ≠ [] := by
  unfold settleSegments
  split
  · split
    · simp
    · assumption
  · exact h

/-- Names are escaped but for drives, which need no escapes. -/
theorem escapes_of_mem_resolveSegments (k : SchemeKind) (parts : List (List Char)) :
    ∀ name ∈ (resolveSegments k false [] parts).2, ∀ c ∈ name, Part.path.escapes c = false := by
  have hdrive : ∀ c, c.isAlpha = true → ∀ d ∈ [c, ':'], Part.path.escapes d = false := by
    intro c hc
    simp [escapes_of_isAlpha hc, show Part.path.escapes ':' = false from rfl]
  refine forall_resolveSegments k false [] parts (by simp) (by simp) ?_ hdrive ?_
  · exact fun part _ _ _ => escapes_of_mem_escape
  · intro part _ drive more hcut
    obtain ⟨⟨c, rfl, hc⟩, -⟩ := of_cutDrive? hcut
    exact ⟨hdrive c hc, escapes_of_mem_escape⟩

/-- There is a name in every path that is read, and every name is escaped. -/
theorem of_readSegments (k : SchemeKind) (s : List Char) :
    ∃ names, (readSegments k s).2 = .segments names ∧ names ≠ [] ∧
      ∀ name ∈ names, ∀ c ∈ name, Part.path.escapes c = false := by
  have hparts : splitAll k.isSlash s ≠ [] := by
    cases s with
    | nil => simp [splitAll]
    | cons c s =>
      rw [splitAll]
      split
      · simp
      · split <;> simp
  refine ⟨_, rfl, settleSegments_ne_nil k (resolveSegments_ne_nil k false [] _ (.inr hparts)), ?_⟩
  intro name hname c hc
  obtain hname | rfl := mem_of_mem_settleSegments hname
  · exact escapes_of_mem_resolveSegments k _ name hname c hc
  · cases hc

/-! ### Paths -/

theorem exists_readPath {k : SchemeKind} (hk : k.isKnown = true) (s : List Char) :
    ∃ t, readPath k s = readSegments k t := by
  unfold readPath
  split
  · exact ⟨_, rfl⟩
  · exact ⟨s, by simp [hk]⟩

theorem exists_path_of_readFile {s : List Char} {rest : Option Authority × Path}
    (h : readFile s = .ok rest) : ∃ t, rest.2 = (readSegments .file t).2 := by
  obtain ⟨t, rfl⟩ | ⟨place, host, t, -, rfl⟩ := readFile_cases h
  · exact ⟨t, rfl⟩
  · obtain ⟨t', ht⟩ := exists_readPath (k := .file) rfl t
    exact ⟨t', congrArg Prod.snd ht⟩

/-- Wherever the path begins, it is read as segments. -/
theorem exists_path_of_readRest {k : SchemeKind} (hk : k.isKnown = true) {last : Bool}
    {s : List Char} {rest : Option Authority × Path} (h : readRest k last s = .ok rest) :
    ∃ t, rest.2 = (readSegments k t).2 := by
  cases k with
  | unknown => cases hk
  | file => exact exists_path_of_readFile h
  | network port =>
    obtain ⟨⟨a, left⟩, -, h⟩ := bind_eq_ok h
    cases h
    obtain ⟨t, ht⟩ := exists_readPath hk _
    exact ⟨t, congrArg Prod.snd ht⟩

theorem path_of_parse {s : List Char} {u : Url} (h : parse s = .ok u)
    (hk : (SchemeKind.of u.scheme).isKnown = true) :
    ∃ names, u.path = .segments names ∧ names ≠ [] ∧
      ∀ name ∈ names, ∀ c ∈ name, Part.path.escapes c = false := by
  simp only [parse] at h
  split at h
  · cases h
  · obtain ⟨rest, hrest, h⟩ := bind_eq_ok h
    cases h
    obtain ⟨t, ht⟩ := exists_path_of_readRest hk hrest
    rw [ht]
    exact of_readSegments _ t

/-! ### Whole URLs -/

/-- No blank stands at either end of a URL that was read. -/
theorem trim_text {s : List Char} {u : Url} (h : parse s = .ok u)
    (hk : (SchemeKind.of u.scheme).isKnown = true) : trim u.text = u.text := by
  obtain ⟨c, scheme, hscheme, hc⟩ := exists_scheme_head hk
  obtain ⟨hclean, ⟨a, ha, -⟩, -⟩ := clean_of_parse h hk
  obtain ⟨names, hpath, hnames, hescaped⟩ := path_of_parse h hk
  let tail := u.path.text ++ (u.query.map ('?' :: ·)).getD [] ++ (u.fragment.map ('#' :: ·)).getD []
  have htext : u.text = c :: (scheme ++ ':' :: a.text) ++ tail := by
    simp [tail, text, stem, hscheme, ha]
  have hne : tail ≠ [] := by
    obtain ⟨name, names, rfl⟩ := List.exists_cons_of_ne_nil hnames
    simp [tail, hpath, Path.text]
  have htail : ∀ d ∈ tail, isBlank d = false := by
    intro d hd
    simp only [tail, List.mem_append, hpath, Path.text] at hd
    obtain (hd | hd) | hd := hd
    · obtain ⟨name, hname, hd⟩ := List.mem_flatMap.mp hd
      obtain rfl | hd := List.mem_cons.mp hd
      · decide
      · exact isBlank_of_not_escapes rfl (hescaped name hname d hd)
    · obtain rfl | ⟨q, hq, hd⟩ := mem_marked hd
      · decide
      · exact isBlank_of_not_escapes rfl (hclean.query q hq d hd)
    · obtain rfl | ⟨f, hf, hd⟩ := mem_marked hd
      · decide
      · exact isBlank_of_not_escapes rfl (hclean.fragment f hf d hd)
  rw [htext, trim_append_clean c _ tail hc hne htail]

/-! ### Parts -/

/-- A path without characters that its names escape. -/
def Path.Escaped (path : Path) : Prop :=
  ∀ names, path = .segments names → ∀ name ∈ names, ∀ c ∈ name, Part.path.escapes c = false

/-- Name and password of who asks without characters that they escape. -/
def Authority.Escaped (a : Authority) : Prop :=
  ∀ c ∈ a.username ++ a.password, Part.userinfo.escapes c = false

/-- What stands behind the scheme of a URL, escaped but for the host. -/
structure EscapedRest (rest : Option Authority × Path) : Prop where
  authority : ∀ a ∈ rest.1, a.Escaped
  path : rest.2.Escaped

theorem escaped_readSegments (k : SchemeKind) (s : List Char) : (readSegments k s).2.Escaped := by
  intro names hnames
  obtain ⟨found, hfound, -, hescaped⟩ := of_readSegments k s
  cases hfound.symm.trans hnames
  exact hescaped

theorem escaped_readPath (k : SchemeKind) (s : List Char) : (readPath k s).2.Escaped := by
  unfold readPath
  split
  · exact escaped_readSegments k _
  · split
    · intro names hnames
      cases hnames
      simp
    · exact escaped_readSegments k s

theorem escaped_of_readAuthority {k : SchemeKind} {ends : Bool} {s left : List Char}
    {a : Authority} (h : readAuthority k ends s = .ok (a, left)) : a.Escaped := by
  have huser (user : List Char) (host : Option Host) (port : Option Nat) :
      ({ username := (readUser user).1, password := (readUser user).2, host, port } :
        Authority).Escaped :=
    List.forall_mem_append.mpr ⟨escapes_of_mem_escape, escapes_of_mem_escape⟩
  simp only [readAuthority] at h
  split at h
  · cases h
  split at h
  · cases h
  -- However the host is read, the name and the password are escaped.
  split at h
  all_goals
    obtain ⟨host, -, h⟩ := bind_eq_ok h
    obtain ⟨port, -, h⟩ := bind_eq_ok h
    split at h <;> split at h <;> cases h <;> exact huser _ _ _

theorem escaped_of_readFile {s : List Char} {rest : Option Authority × Path}
    (h : readFile s = .ok rest) : EscapedRest rest := by
  have hnameless (host : Option Host) : ({ host } : Authority).Escaped := by
    simp [Authority.Escaped]
  obtain ⟨t, rfl⟩ | ⟨place, host, t, -, rfl⟩ := readFile_cases h
  · exact ⟨by simpa using hnameless none, escaped_readSegments .file t⟩
  · exact ⟨by simpa using hnameless _, escaped_readPath .file t⟩

theorem escaped_of_readRest {k : SchemeKind} {last : Bool} {s : List Char}
    {rest : Option Authority × Path} (h : readRest k last s = .ok rest) : EscapedRest rest := by
  have hbare (path : Path) (hpath : path.Escaped) : EscapedRest (none, path) :=
    ⟨by simp, hpath⟩
  simp only [readRest] at h
  split at h
  · exact escaped_of_readFile h
  · obtain ⟨⟨a, left⟩, ha, h⟩ := bind_eq_ok h
    cases h
    exact ⟨by simpa using escaped_of_readAuthority ha, escaped_readPath _ _⟩
  · split at h
    · cases h
      exact hbare _ fun names hnames => by cases hnames
    split at h
    · cases h
      exact hbare _ (escaped_readSegments .unknown _)
    · obtain ⟨⟨a, left⟩, ha, h⟩ := bind_eq_ok h
      cases h
      exact ⟨by simpa using escaped_of_readAuthority ha, escaped_readPath _ _⟩

theorem escaped_of_parse {s : List Char} {u : Url} (h : parse s = .ok u) :
    (∀ c ∈ u.scheme, isSchemeChar c = true) ∧ EscapedRest (u.authority, u.path) := by
  simp only [parse] at h
  split at h
  · cases h
  · rename_i scheme rest hscheme
    obtain ⟨found, hfound, h⟩ := bind_eq_ok h
    cases h
    exact ⟨isSchemeChar_of_readScheme? hscheme, escaped_of_readRest hfound⟩

/-- Nothing but the host brings a quote into an authority. -/
theorem quote_mem_authority_iff {a : Authority} (h : a.Escaped) :
    '"' ∈ a.text ↔ ∃ host ∈ a.host, '"' ∈ host.text := by
  have hname : '"' ∉ a.username := fun hc => absurd (h '"' (by simp [hc])) (by decide)
  have hpassword : '"' ∉ a.password := fun hc => absurd (h '"' (by simp [hc])) (by decide)
  have huser : '"' ∉ a.username ++ (if a.password.isEmpty then [] else ':' :: a.password) := by
    split <;> simp [hname, hpassword]
  have hport : '"' ∉ (a.port.map fun p => ':' :: decimalText p).getD [] := by
    intro hc
    have hmarked : '"' ∈ ((a.port.map decimalText).map (':' :: ·)).getD [] := by
      rwa [Option.map_map]
    obtain hc | ⟨digits, hdigits, hc⟩ := mem_marked hmarked
    · exact absurd hc (by decide)
    · obtain ⟨n, -, rfl⟩ := Option.map_eq_some_iff.mp hdigits
      exact absurd (Nat.isDigit_of_mem_toDigits (by decide) (by decide) hc) (by decide)
  have htext : '"' ∈ a.text ↔ '"' ∈ (a.host.map Host.text).getD [] := by
    simp only [Authority.text, List.mem_append]
    generalize a.username ++ (if a.password.isEmpty then [] else ':' :: a.password) = user at huser
    simp [huser, hport]
  rw [htext]
  cases a.host <;> simp

theorem quote_mem_stem_iff {u : Url} (hscheme : ∀ c ∈ u.scheme, isSchemeChar c = true)
    (hauthority : ∀ a ∈ u.authority, a.Escaped) (hpath : '"' ∉ u.path.text) :
    '"' ∈ u.stem ↔ ∃ a ∈ u.authority, ∃ host ∈ a.host, '"' ∈ host.text := by
  have hname : '"' ∉ u.scheme := fun hc => absurd (hscheme _ hc) (by decide)
  unfold stem
  cases ha : u.authority with
  | none =>
    simp only [List.mem_append, List.mem_cons, hname, false_or]
    split <;> simp [hpath]
  | some a =>
    have htext := quote_mem_authority_iff (hauthority a ha)
    simp [hname, hpath, htext]

end DiagramDesk.Url
