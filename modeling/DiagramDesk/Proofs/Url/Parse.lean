import Mathlib.Data.List.DropRight
import DiagramDesk.Url.Parse
import DiagramDesk.Proofs.Except
import DiagramDesk.Proofs.Text.Trim
import DiagramDesk.Proofs.Url.Form

/-!
What is read of a URL is clean: nothing in front of its query ends a part or would
be dropped, and nothing in its query and fragment would be escaped again. So the
text of a clean URL falls into its parts again, and a URL that is read from its own
text still is after query and fragment have been replaced.
-/
namespace DiagramDesk.Url

open Text

/-! ### Tame text -/

/-- Characters that end no part of a URL and are not dropped around it. -/
def isTame (c : Char) : Bool := decide (0x20 < c.toNat) && c != '#' && c != '?'

/-- A text of such characters. -/
def Tame (s : List Char) : Prop := ∀ c ∈ s, isTame c = true

/-- Characters that end neither a part of a URL nor a name within it. -/
def isInner (c : Char) : Bool := isTame c && c != '/' && c != '\\'

/-- A text of such characters. -/
def Inner (s : List Char) : Prop := ∀ c ∈ s, isInner c = true

theorem isTame_of_isInner {c : Char} (h : isInner c = true) : isTame c = true := by
  simp only [isInner, Bool.and_eq_true] at h
  exact h.1.1

theorem Inner.tame {s : List Char} (h : Inner s) : Tame s := fun c hc => isTame_of_isInner (h c hc)

theorem lt_of_isSchemeChar {c : Char} (h : isSchemeChar c = true) : c.toNat < 128 := by
  simp only [isSchemeChar, Bool.or_eq_true, beq_iff_eq] at h
  obtain ((h | rfl) | rfl) | rfl := h
  · exact lt_of_isAlphanum h
  all_goals decide

theorem isInner_of_isAlpha {c : Char} (h : c.isAlpha = true) : isInner c = true :=
  forall_ascii (P := fun c => c.isAlpha = true → isInner c = true) (by decide) c
    (lt_of_isAlphanum (by simp [Char.isAlphanum, h])) h

theorem isTame_of_isSchemeChar {c : Char} (h : isSchemeChar c = true) : isTame c = true :=
  forall_ascii (P := fun c => isSchemeChar c = true → isTame c = true) (by decide) c
    (lt_of_isSchemeChar h) h

theorem isSchemeChar_lowerAscii {c : Char} (h : isSchemeChar c = true) :
    isSchemeChar (lowerAscii c) = true :=
  forall_ascii (P := fun c => isSchemeChar c = true → isSchemeChar (lowerAscii c) = true)
    (by decide) c (lt_of_isSchemeChar h) h

instance (s : List Char) : Decidable (Tame s) :=
  decidable_of_iff (s.all isTame = true) List.all_eq_true

instance (s : List Char) : Decidable (Inner s) :=
  decidable_of_iff (s.all isInner = true) List.all_eq_true

@[simp] theorem tame_cons (c : Char) (s : List Char) :
    Tame (c :: s) ↔ isTame c = true ∧ Tame s := List.forall_mem_cons

@[simp] theorem tame_append (s t : List Char) : Tame (s ++ t) ↔ Tame s ∧ Tame t :=
  List.forall_mem_append

@[simp] theorem inner_nil : Inner [] := by simp [Inner]

@[simp] theorem inner_cons (c : Char) (s : List Char) :
    Inner (c :: s) ↔ isInner c = true ∧ Inner s := List.forall_mem_cons

@[simp] theorem inner_append (s t : List Char) : Inner (s ++ t) ↔ Inner s ∧ Inner t :=
  List.forall_mem_append

theorem inner_join {sep : List Char} {parts : List (List Char)} (hsep : Inner sep)
    (h : ∀ part ∈ parts, Inner part) : Inner (join sep parts) := by
  intro c hc
  obtain hc | ⟨part, hpart, hc⟩ := mem_join sep parts c hc
  · exact hsep c hc
  · exact h part hpart c hc

theorem isInner_digitChar : ∀ n < 16, isInner n.digitChar = true := by decide

theorem inner_toDigits {base : Nat} (hbase : 1 < base) (hle : base ≤ 16) (n : Nat) :
    Inner (Nat.toDigits base n) := by
  induction n using Nat.strong_induction_on with
  | _ n ih =>
    rw [Nat.toDigits_eq_if hbase]
    split
    · simp [isInner_digitChar n (by omega)]
    · have hlt : n / base < n := Nat.div_lt_self (by omega) hbase
      have hdigit : n % base < base := Nat.mod_lt n (by omega)
      simp [isInner_digitChar (n % base) (by omega), ih _ hlt]

/-- A part that escapes what ends a part makes text tame. -/
theorem tame_escape {part : Part} (hspace : part.escapes ' ' = true)
    (hhash : part.escapes '#' = true) (hmark : part.escapes '?' = true) (s : List Char) :
    Tame (part.escape s) := by
  intro c hc
  have hraw := escapes_of_mem_escape c hc
  have hlt := lt_of_not_escapes hspace hraw
  have hne {d : Char} (hd : part.escapes d = true) : c ≠ d := by
    rintro rfl
    simp [hraw] at hd
  simp [isTame, hlt, hne hhash, hne hmark]

/-- No slash is escaped in a path, and none comes from an escape. -/
theorem inner_escape_path {s : List Char} (hslash : '/' ∉ s) (hback : '\\' ∉ s) :
    Inner (Part.path.escape s) := by
  intro c hc
  have hne {d : Char} (hd : d ∉ s) (hescape : d ≠ '%' ∧ ∀ n < 16, d ≠ hexDigit n) : c ≠ d := by
    rintro rfl
    obtain ⟨e, he, hc⟩ := List.mem_flatMap.mp hc
    split at hc
    · obtain ⟨b, -, hc⟩ := List.mem_flatMap.mp hc
      obtain hc | ⟨n, hn, hc⟩ := mem_escapeByte hc
      · exact hescape.1 hc
      · exact hescape.2 n hn hc
    · obtain rfl := List.mem_singleton.mp hc
      exact hd he
  have htame : Tame (Part.path.escape s) := tame_escape rfl rfl rfl s
  simp [isInner, htame c hc, hne hslash (by decide), hne hback (by decide)]

theorem inner_escape_userinfo (s : List Char) : Inner (Part.userinfo.escape s) := by
  intro c hc
  have htame : Tame (Part.userinfo.escape s) := tame_escape rfl rfl rfl s
  have hraw := escapes_of_mem_escape c hc
  have hne {d : Char} (hd : Part.userinfo.escapes d = true) : c ≠ d := by
    rintro rfl
    simp [hraw] at hd
  simp [isInner, htame c hc, hne (d := '/') rfl, hne (d := '\\') rfl]

/-! ### Hosts -/

theorem inner_decimalText (n : Nat) : Inner (decimalText n) := inner_toDigits (by omega) (by omega) n

theorem inner_address4Text (n : Nat) : Inner (address4Text n) := by
  refine inner_join (by decide) fun part hpart => ?_
  obtain ⟨m, -, rfl⟩ := List.mem_map.mp hpart
  exact inner_decimalText m

theorem inner_address6Text (pieces : List Nat) : Inner (address6Text pieces) := by
  have hjoin (ps : List Nat) : Inner (join [':'] (ps.map pieceText)) := by
    refine inner_join (by decide) fun part hpart => ?_
    obtain ⟨m, -, rfl⟩ := List.mem_map.mp hpart
    exact inner_toDigits (by omega) (by omega) m
  unfold address6Text
  split
  split
  · exact hjoin pieces
  · simp only [inner_append, hjoin, true_and, and_true]
    decide

theorem isInner_of_not_forbidden {c : Char} (h : forbiddenInDomain c = false) : isInner c = true := by
  have hlt : 0x20 < c.toNat := by
    by_contra hle
    simp [forbiddenInDomain, Nat.le_of_not_lt hle] at h
  have hne {d : Char} (hd : forbiddenInDomain d = true) : c ≠ d := by
    rintro rfl
    simp [h] at hd
  simp [isInner, isTame, hlt, hne (d := '#') rfl, hne (d := '?') rfl, hne (d := '/') rfl,
    hne (d := '\\') rfl]

theorem inner_of_readBracketed {s : List Char} {host : Host} (h : readBracketed s = .ok host) :
    Inner host.text := by
  unfold readBracketed at h
  split at h
  · obtain ⟨pieces, -, rfl⟩ := map_eq_ok h
    simp only [Host.text, List.cons_append, inner_cons, inner_append, inner_address6Text]
    decide
  · cases h

/-- No host that was read has a slash or ends a part, whether it is a name or an address. -/
theorem inner_of_read {s : List Char} {host : Host} (h : Host.read s = .ok host) :
    Inner host.text := by
  unfold Host.read at h
  split at h
  · exact inner_of_readBracketed h
  split at h
  · cases h
  rename_i name _
  split at h
  · cases h
  rename_i hallowed
  split at h
  · cases h
  split at h
  · obtain ⟨value, -, rfl⟩ := map_eq_ok h
    exact inner_address4Text value
  · cases h
    intro c hc
    simp only [List.any_eq_true, not_exists, not_and, Bool.not_eq_true] at hallowed
    exact isInner_of_not_forbidden (hallowed c hc)

/-! ### Paths -/

/-- A text without anything that a known scheme takes for a slash. -/
def Slashless (s : List Char) : Prop := '/' ∉ s ∧ '\\' ∉ s

theorem Slashless.mono {s t : List Char} (h : Slashless s) (hsub : t ⊆ s) : Slashless t :=
  ⟨fun hc => h.1 (hsub hc), fun hc => h.2 (hsub hc)⟩

theorem Slashless.escape {s : List Char} (h : Slashless s) : Inner (Part.path.escape s) :=
  inner_escape_path h.1 h.2

theorem bare_subset (s : List Char) : bare s ⊆ s := List.filter_subset_self s

/-- A path of segments without slashes. -/
def Path.Inner (path : Path) : Prop :=
  ∃ names, path = .segments names ∧ ∀ name ∈ names, Url.Inner name

theorem Path.Inner.tame {path : Path} (h : path.Inner) : Tame path.text := by
  obtain ⟨names, rfl, hnames⟩ := h
  intro c hc
  obtain ⟨name, hname, hc⟩ := List.mem_flatMap.mp hc
  obtain rfl | hc := List.mem_cons.mp hc
  · rfl
  · exact (hnames name hname).tame c hc

theorem above_subset (done : List (List Char)) : above done ⊆ done := by
  unfold above
  split
  · split
    · exact fun _ => id
    · exact List.dropLast_subset done
  · simp

theorem isDriveForm_cases {name : List Char} (h : isDriveForm name = true) :
    ∃ c m, name = [c, m] ∧ c.isAlpha = true := by
  unfold isDriveForm at h
  split at h
  · exact ⟨_, _, rfl, (Bool.and_eq_true_iff.mp h).1⟩
  · cases h

/-- A drive that is cut off is a letter with a colon; the rest stands in the segment. -/
theorem of_cutDrive? {s drive more : List Char} (h : cutDrive? s = some (drive, more)) :
    (∃ c, drive = [c, ':'] ∧ c.isAlpha = true) ∧ more ⊆ s := by
  unfold cutDrive? at h
  split at h
  · rename_i c rest hrest
    split at h
    · rename_i d more hmore
      split at h
      · rename_i hletter
        simp only [Bool.and_eq_true] at hletter
        cases h
        refine ⟨⟨c, rfl, hletter.1.1⟩, fun e he => ?_⟩
        have hbehind : e ∈ rest := by
          refine (List.dropWhile_suffix isDropped).subset ?_
          rw [hmore]
          exact List.mem_cons_of_mem _ (List.mem_cons_of_mem _ (bare_subset more he))
        refine (List.dropWhile_suffix isDropped).subset ?_
        rw [hrest]
        exact List.mem_cons_of_mem c hbehind
      · cases h
    · cases h
  · cases h

/-- What comes out of resolving: names from before, empty ones in place of dot segments at the end,
escaped parts that are no dot segments, and drives in front. -/
theorem forall_resolveSegments {P : List Char → Prop} (k : SchemeKind) (driven : Bool)
    (done parts : List (List Char)) (hdone : ∀ name ∈ done, P name) (hempty : P [])
    (hpart : ∀ part ∈ parts, isDot (Part.path.escape (bare part)) = false →
      isDoubleDot (Part.path.escape (bare part)) = false → P (Part.path.escape (bare part)))
    (hdrive : ∀ c, c.isAlpha = true → P [c, ':'])
    (hcut : ∀ part ∈ parts, ∀ drive more, cutDrive? part = some (drive, more) →
      P drive ∧ P (Part.path.escape more)) :
    ∀ name ∈ (resolveSegments k driven done parts).2, P name := by
  have habove {done : List (List Char)} (hdone : ∀ name ∈ done, P name) :
      ∀ name ∈ above done, P name := fun name hname => hdone name (above_subset done hname)
  fun_induction resolveSegments k driven done parts with
  | case1 driven done => exact hdone
  | case2 driven done s rest name =>
    exact List.forall_mem_append.mpr ⟨habove hdone, by simpa using hempty⟩
  | case3 driven done s rest name _ _ ih =>
    exact ih (habove hdone) (List.forall_mem_cons.mp hpart).2 (List.forall_mem_cons.mp hcut).2
  | case4 driven done s rest name =>
    exact List.forall_mem_append.mpr ⟨hdone, by simpa using hempty⟩
  | case5 driven done s rest name _ _ _ ih =>
    exact ih hdone (List.forall_mem_cons.mp hpart).2 (List.forall_mem_cons.mp hcut).2
  | case6 driven done s rest name _ _ _ hform ih =>
    obtain ⟨c, m, hname, hc⟩ := isDriveForm_cases hform
    refine ih ?_ (List.forall_mem_cons.mp hpart).2 (List.forall_mem_cons.mp hcut).2
    rw [hname]
    simpa using hdrive c hc
  | case7 driven done s rest name _ _ _ _ drive more hfound ih =>
    obtain ⟨hfront, hmore⟩ := (List.forall_mem_cons.mp hcut).1 drive more hfound
    exact ih (by simp [hfront, hmore]) (List.forall_mem_cons.mp hpart).2
      (List.forall_mem_cons.mp hcut).2
  | case8 driven done s rest name hup hhere _ _ _ ih =>
    have hname := (List.forall_mem_cons.mp hpart).1 (by simpa using hhere) (by simpa using hup)
    exact ih (by simpa using hname) (List.forall_mem_cons.mp hpart).2
      (List.forall_mem_cons.mp hcut).2
  | case9 driven done s rest name hup hhere _ ih =>
    have hname := (List.forall_mem_cons.mp hpart).1 (by simpa using hhere) (by simpa using hup)
    exact ih (List.forall_mem_append.mpr ⟨hdone, by simpa using hname⟩)
      (List.forall_mem_cons.mp hpart).2 (List.forall_mem_cons.mp hcut).2

theorem inner_resolveSegments (k : SchemeKind) {parts : List (List Char)}
    (hparts : ∀ part ∈ parts, Slashless part) :
    ∀ name ∈ (resolveSegments k false [] parts).2, Inner name := by
  have hdrive : ∀ c, c.isAlpha = true → Inner [c, ':'] := by
    intro c hc
    have hcolon : isInner ':' = true := rfl
    simp [isInner_of_isAlpha hc, hcolon]
  refine forall_resolveSegments k false [] parts (by simp) inner_nil ?_ hdrive ?_
  · intro part hpart _ _
    exact ((hparts part hpart).mono (bare_subset part)).escape
  · intro part hpart drive more hcut
    obtain ⟨⟨c, rfl, hc⟩, hmore⟩ := of_cutDrive? hcut
    exact ⟨hdrive c hc, ((hparts part hpart).mono hmore).escape⟩

theorem inner_settleSegments (k : SchemeKind) {names : List (List Char)}
    (h : ∀ name ∈ names, Inner name) : ∀ name ∈ settleSegments k names, Inner name := by
  unfold settleSegments
  split
  · split
    · simp
    · exact fun name hname => h name ((List.dropWhile_suffix _).subset hname)
  · exact h

/-- Between the slashes of a known scheme there are none. -/
theorem slashless_of_mem_splitAll {k : SchemeKind} (hk : k.isKnown = true) (s : List Char) :
    ∀ part ∈ splitAll k.isSlash s, Slashless part := by
  intro part hpart
  have hsep := not_sep_of_mem_splitAll k.isSlash s part hpart
  exact ⟨fun hc => by simpa [SchemeKind.isSlash] using hsep _ hc,
    fun hc => by simpa [SchemeKind.isSlash, hk] using hsep _ hc⟩

theorem inner_readSegments {k : SchemeKind} (hk : k.isKnown = true) (s : List Char) :
    (readSegments k s).2.Inner :=
  ⟨_, rfl, inner_settleSegments k
    (inner_resolveSegments k (slashless_of_mem_splitAll hk s))⟩

theorem inner_readPath {k : SchemeKind} (hk : k.isKnown = true) (s : List Char) :
    (readPath k s).2.Inner := by
  unfold readPath
  split
  · exact inner_readSegments hk _
  · rw [hk]
    simpa using inner_readSegments hk s

/-! ### Authorities -/

/-- An authority behind its slashes. -/
def Authority.place (a : Authority) : List Char := a.text.drop 2

theorem Authority.text_eq (a : Authority) : a.text = '/' :: '/' :: a.place := by
  simp [place, text]

theorem Authority.inner_place {a : Authority} (husername : Inner a.username)
    (hpassword : Inner a.password) (hhost : ∀ host ∈ a.host, Inner host.text) :
    Inner a.place := by
  have hcolon : isInner ':' = true := rfl
  have hat : isInner '@' = true := rfl
  have huser : Inner (a.username ++ if a.password.isEmpty then [] else ':' :: a.password) := by
    split <;> simp [husername, hpassword, hcolon]
  have hplace : Inner ((a.host.map Host.text).getD []) := by
    cases ha : a.host with
    | none => exact inner_nil
    | some host => exact hhost host ha
  have hport : Inner ((a.port.map fun p => ':' :: decimalText p).getD []) := by
    cases a.port with
    | none => exact inner_nil
    | some port => exact (inner_cons _ _).mpr ⟨hcolon, inner_decimalText port⟩
  simp only [place, text, List.cons_append, List.nil_append, List.drop_succ_cons, List.drop_zero,
    inner_append, hplace, hport, and_true]
  -- Name and password are one text when it is asked whether there are any.
  generalize a.username ++ (if a.password.isEmpty then [] else ':' :: a.password) = user at huser
  split <;> simp [huser, hat]

/-- Under a scheme with known rules there must be a host; whether the text ends behind the authority
does not matter. -/
theorem readAuthority_known {k : SchemeKind} (hk : k.isKnown = true) (ends : Bool)
    (s : List Char) :
    readAuthority k ends s =
      let user := readUser ((cutUser s).1.getD [])
      let place := cutHost false (cutUser s).2
      if place.1 = [] then .error .emptyHost
      else do
        let host ← Host.read place.1
        let port ← readPort k ((place.2.drop 1).takeWhile (· != '\\'))
        return ({ username := user.1, password := user.2, host := some host, port },
          place.2.dropWhile (· != '\\')) := by
  unfold readAuthority
  -- Without a host two tests may fail, and both come to the same fault.
  by_cases hhost : (cutHost false (cutUser s).2).1 = []
  · by_cases huser : (cutUser s).1 = some [] ∧ (cutUser s).2 = [] ∧ ends = false <;>
      simp [hk, hhost, huser] <;> rfl
  · have hplace : (cutUser s).2 ≠ [] := by
      intro he
      simp [he, cutHost] at hhost
    simp [hk, hhost, hplace]

theorem inner_of_readAuthority {k : SchemeKind} (hk : k.isKnown = true) {ends : Bool}
    {s left : List Char} {a : Authority} (h : readAuthority k ends s = .ok (a, left)) :
    Inner a.place := by
  simp only [readAuthority_known hk] at h
  split at h
  · cases h
  · obtain ⟨host, hhost, h⟩ := bind_eq_ok h
    obtain ⟨port, -, h⟩ := bind_eq_ok h
    cases h
    refine Authority.inner_place (inner_escape_userinfo _) (inner_escape_userinfo _) ?_
    simpa using inner_of_read hhost

theorem inner_of_readFileHost {s : List Char} {host : Host}
    (h : readFileHost s = .ok (some host)) : Inner host.text := by
  unfold readFileHost at h
  split at h
  · cases h
  · obtain ⟨found, hfound, h⟩ := bind_eq_ok h
    split at h
    · cases h
    · cases h
      exact inner_of_read hfound

/-! ### Whole URLs -/

/-- An authority and a path without slashes inside. -/
def InnerRest (rest : Option Authority × Path) : Prop :=
  (∃ a, rest.1 = some a ∧ Inner a.place) ∧ rest.2.Inner

/-- A file has no host, or the one that was read unless its path has a drive in front. -/
theorem readFile_cases {s : List Char} {rest : Option Authority × Path}
    (h : readFile s = .ok rest) :
    (∃ t, rest = (some { host := none }, (readSegments .file t).2)) ∨
      ∃ place host t, readFileHost place = .ok (some host) ∧
        rest = (some { host := if (readPath .file t).1 then none else some host },
          (readPath .file t).2) := by
  simp only [readFile] at h
  split at h
  · cases h
    exact .inl ⟨_, rfl⟩
  split at h
  · cases h
    exact .inl ⟨_, rfl⟩
  split at h
  · cases h
    exact .inl ⟨_, rfl⟩
  obtain ⟨found, hfound, h⟩ := bind_eq_ok h
  split at h
  · cases h
    exact .inl ⟨_, rfl⟩
  · cases h
    exact .inr ⟨_, _, _, hfound, rfl⟩

theorem inner_of_readFile {s : List Char} {rest : Option Authority × Path}
    (h : readFile s = .ok rest) : InnerRest rest := by
  have hnone : Inner ({ host := none } : Authority).place := by decide
  obtain ⟨t, rfl⟩ | ⟨place, host, t, hhost, rfl⟩ := readFile_cases h
  · exact ⟨⟨_, rfl, hnone⟩, inner_readSegments rfl t⟩
  · refine ⟨⟨_, rfl, ?_⟩, inner_readPath rfl _⟩
    split
    · exact hnone
    · exact Authority.inner_place inner_nil inner_nil (by simpa using inner_of_readFileHost hhost)

theorem inner_of_readRest {k : SchemeKind} (hk : k.isKnown = true) {last : Bool} {s : List Char}
    {rest : Option Authority × Path} (h : readRest k last s = .ok rest) : InnerRest rest := by
  cases k with
  | unknown => cases hk
  | file => exact inner_of_readFile h
  | network port =>
    obtain ⟨⟨a, left⟩, ha, h⟩ := bind_eq_ok h
    cases h
    exact ⟨⟨a, rfl, inner_of_readAuthority hk ha⟩, inner_readPath hk _⟩

theorem readRest_last {k : SchemeKind} (hk : k.isKnown = true) (last last' : Bool)
    (s : List Char) : readRest k last s = readRest k last' s := by
  cases k with
  | unknown => cases hk
  | file => rfl
  | network port => simp only [readRest, readAuthority_known hk]

theorem isSchemeChar_of_readScheme? {s scheme rest : List Char}
    (h : readScheme? s = some (scheme, rest)) : ∀ c ∈ scheme, isSchemeChar c = true := by
  simp only [readScheme?] at h
  split at h
  · cases h
  · split at h
    · rename_i hname
      cases h
      simp only [Bool.and_eq_true, List.all_eq_true] at hname
      intro c hc
      obtain ⟨d, hd, rfl⟩ := List.mem_map.mp hc
      exact isSchemeChar_lowerAscii (hname.2 d hd)
    · cases h

/-- A URL whose parts stay apart in its text and are not escaped again. -/
structure Clean (u : Url) : Prop where
  stem : Tame u.stem
  query : ∀ q ∈ u.query, ∀ c ∈ q, Part.specialQuery.escapes c = false
  fragment : ∀ f ∈ u.fragment, ∀ c ∈ f, Part.fragment.escapes c = false

/-- Under a scheme with known rules, what is read is clean. -/
theorem clean_of_parse {s : List Char} {u : Url} (h : parse s = .ok u)
    (hk : (SchemeKind.of u.scheme).isKnown = true) :
    Clean u ∧ (∃ a, u.authority = some a ∧ Inner a.place) ∧ u.path.Inner := by
  simp only [parse] at h
  split at h
  · cases h
  · rename_i scheme rest hscheme
    obtain ⟨⟨authority, path⟩, hrest, h⟩ := bind_eq_ok h
    cases h
    obtain ⟨⟨a, ha, hplace⟩, hpath⟩ := inner_of_readRest hk hrest
    cases ha
    refine ⟨⟨?_, ?_, ?_⟩, ⟨a, rfl, hplace⟩, hpath⟩
    · simp only [stem, a.text_eq, tame_append, tame_cons]
      have hname : Tame scheme := fun c hc =>
        isTame_of_isSchemeChar (isSchemeChar_of_readScheme? hscheme c hc)
      exact ⟨hname, rfl, ⟨rfl, rfl, hplace.tame⟩, hpath.tame⟩
    · intro q hq
      obtain ⟨written, -, rfl⟩ := Option.map_eq_some_iff.mp hq
      rw [if_pos hk]
      exact escapes_of_mem_escape
    · intro f hf
      obtain ⟨written, -, rfl⟩ := Option.map_eq_some_iff.mp hf
      exact escapes_of_mem_escape

/-! ### Reading the text of a clean URL -/

theorem bare_eq_self {part : Part} {s : List Char} (h : ∀ c ∈ s, part.escapes c = false) :
    bare s = s := by
  refine List.filter_eq_self.mpr fun c hc => ?_
  have hle := le_of_not_escapes (h c hc)
  simp only [isDropped, Bool.not_eq_true', Bool.or_eq_false_iff, beq_eq_false_iff_ne]
  refine ⟨⟨?_, ?_⟩, ?_⟩ <;> rintro rfl <;> exact absurd hle (by decide)

theorem unpadded_eq_self {s : List Char} (h : ∀ c ∈ s, 0x20 < c.toNat) : unpadded s = s := by
  have hkeep : ∀ c ∈ s, ¬ decide (c.toNat ≤ 0x20) = true := by simpa using h
  have hstart : s.dropWhile (fun c => decide (c.toNat ≤ 0x20)) = s :=
    List.dropWhile_eq_self_iff.mpr fun hne => hkeep _ (List.getElem_mem hne)
  rw [unpadded, hstart, dropEndWhile_eq_rdropWhile, List.rdropWhile_eq_self_iff]
  exact fun hne => hkeep _ (List.getLast_mem hne)

theorem cut_append {mark : Char} {front : List Char} (rest : Option (List Char))
    (h : mark ∉ front) : cut mark (front ++ (rest.map (mark :: ·)).getD []) = (front, rest) := by
  have hfront : ∀ c ∈ front, (c != mark) = true := by
    intro c hc
    simpa using fun he : c = mark => h (he ▸ hc)
  rw [cut, List.takeWhile_append_of_pos hfront, List.dropWhile_append_of_pos hfront]
  cases rest <;> simp

/-- What stands in a part behind its mark. -/
theorem mem_marked {mark c : Char} {part : Option (List Char)}
    (h : c ∈ (part.map (mark :: ·)).getD []) : c = mark ∨ ∃ s ∈ part, c ∈ s := by
  cases part with
  | none => exact absurd h List.not_mem_nil
  | some s =>
    obtain h | h := List.mem_cons.mp h
    · exact .inl h
    · exact .inr ⟨s, rfl, h⟩

namespace Clean

variable {u : Url}

theorem lt_of_mem_text (h : Clean u) : ∀ c ∈ u.text, 0x20 < c.toNat := by
  intro c hc
  simp only [text, List.mem_append] at hc
  obtain (hc | hc) | hc := hc
  · have htame := h.stem c hc
    simp only [isTame, Bool.and_eq_true, decide_eq_true_eq] at htame
    exact htame.1.1
  · obtain rfl | ⟨q, hq, hc⟩ := mem_marked hc
    · decide
    · exact lt_of_not_escapes rfl (h.query q hq c hc)
  · obtain rfl | ⟨f, hf, hc⟩ := mem_marked hc
    · decide
    · exact lt_of_not_escapes rfl (h.fragment f hf c hc)

theorem mark_not_mem_stem (h : Clean u) : '?' ∉ u.stem := fun hc => absurd (h.stem _ hc) (by decide)

theorem hash_not_mem (h : Clean u) : '#' ∉ u.stem ++ (u.query.map ('?' :: ·)).getD [] := by
  intro hc
  obtain hc | hc := List.mem_append.mp hc
  · exact absurd (h.stem _ hc) (by decide)
  · obtain hc | ⟨q, hq, hc⟩ := mem_marked hc
    · exact absurd hc (by decide)
    · exact absurd (h.query q hq _ hc) (by decide)

theorem escape_query (h : Clean u) (part : Part) (hpart : part = .specialQuery ∨ part = .query) :
    u.query.map (fun q => part.escape (bare q)) = u.query := by
  cases hq : u.query with
  | none => rfl
  | some q =>
    have hraw : ∀ c ∈ q, part.escapes c = false := by
      intro c hc
      have hspecial := h.query q hq c hc
      obtain rfl | rfl := hpart
      · exact hspecial
      · simp [Part.escapes] at hspecial ⊢
        simp [hspecial]
    rw [Option.map_some, bare_eq_self hraw, escape_eq_self hraw]

theorem escape_fragment (h : Clean u) :
    u.fragment.map (fun f => Part.fragment.escape (bare f)) = u.fragment := by
  cases hf : u.fragment with
  | none => rfl
  | some f => rw [Option.map_some, bare_eq_self (h.fragment f hf), escape_eq_self (h.fragment f hf)]

/-- The text of a clean URL falls into its parts; scheme, authority and path are read off its
stem. -/
theorem parse_text (h : Clean u) :
    parse u.text =
      match readScheme? u.stem with
      | none => .error .noBase
      | some (scheme, rest) => do
        let (authority, path) ←
          readRest (SchemeKind.of scheme) (u.query.isNone && u.fragment.isNone) rest
        return { scheme, authority, path, query := u.query, fragment := u.fragment } := by
  have hmain : cut '#' u.text = (u.stem ++ (u.query.map ('?' :: ·)).getD [], u.fragment) :=
    cut_append u.fragment h.hash_not_mem
  simp only [parse, unpadded_eq_self h.lt_of_mem_text, hmain,
    cut_append u.query h.mark_not_mem_stem, h.escape_fragment]
  cases readScheme? u.stem with
  | none => rfl
  | some found =>
    have hquery := h.escape_query
      (if (SchemeKind.of found.1).isKnown then .specialQuery else .query) (by split <;> simp)
    simp only [hquery]

end Clean

/-- The scheme of a URL with known rules is read off its text. -/
theorem readScheme?_known {scheme : List Char} (hk : (SchemeKind.of scheme).isKnown = true)
    (rest : List Char) : readScheme? (scheme ++ ':' :: rest) = some (scheme, rest) := by
  have hscheme {name : String} (h : String.ofList scheme = name) : scheme = name.toList := by
    rw [← h, String.toList_ofList]
  unfold SchemeKind.of at hk
  split at hk
  case h_7 => cases hk
  all_goals
    rename_i h
    rw [hscheme h]
    rfl

/-- Whether a clean URL is read from its own text is up to its authority and its path. -/
theorem Clean.parse_text_iff {u : Url} (h : Clean u)
    (hk : (SchemeKind.of u.scheme).isKnown = true) {a : Authority} (ha : u.authority = some a) :
    parse u.text = .ok u ↔
      readRest (.of u.scheme) false (a.text ++ u.path.text) = .ok (some a, u.path) := by
  have hstem : u.stem = u.scheme ++ ':' :: (a.text ++ u.path.text) := by rw [Url.stem, ha]
  rw [h.parse_text, hstem, readScheme?_known hk, readRest_last hk false
    (u.query.isNone && u.fragment.isNone)]
  dsimp only
  constructor
  · intro hu
    obtain ⟨⟨authority, path⟩, hrest, hu⟩ := bind_eq_ok hu
    have hu := Except.ok.inj hu
    rw [hrest, ← ha, ← congrArg Url.authority hu, ← congrArg Url.path hu]
  · intro hrest
    rw [hrest, ← ha]
    rfl

/-- A URL that is read from its own text still is when its query and its fragment are replaced by
such as need no escapes. -/
theorem parse_replaced {u : Url} (hread : parse u.text = .ok u)
    (hk : (SchemeKind.of u.scheme).isKnown = true) {query fragment : Option (List Char)}
    (hquery : ∀ q ∈ query, ∀ c ∈ q, Part.specialQuery.escapes c = false)
    (hfragment : ∀ f ∈ fragment, ∀ c ∈ f, Part.fragment.escapes c = false) :
    parse { u with query, fragment }.text = .ok { u with query, fragment } := by
  obtain ⟨hclean, ⟨a, ha, -⟩, -⟩ := clean_of_parse hread hk
  have hreplaced : Clean { u with query, fragment } := ⟨hclean.stem, hquery, hfragment⟩
  exact (hreplaced.parse_text_iff hk ha).mpr ((hclean.parse_text_iff hk ha).mp hread)

end DiagramDesk.Url
