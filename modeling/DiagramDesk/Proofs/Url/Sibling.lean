import DiagramDesk.Proofs.Url.Parse

/-!
The page beside a page. The names of a path that is read from its own text stand as they are: none
is a dot segment, none would be escaped again, and a drive is in front only where it changes
nothing. Such names stay so when the last one is replaced, so the page beside such a URL is read
from its own text as well.
-/
namespace DiagramDesk.Url

open Text

/-! ### Names that stand as they are -/

/-- A name that is not written otherwise and leads neither nowhere nor up. -/
structure Settled (name : List Char) : Prop where
  bare : bare name = name
  escape : Part.path.escape name = name
  here : isDot name = false
  up : isDoubleDot name = false

theorem settled_nil : Settled [] := by constructor <;> decide

theorem settled_escape {s : List Char} (here : isDot (Part.path.escape s) = false)
    (up : isDoubleDot (Part.path.escape s) = false) : Settled (Part.path.escape s) where
  bare := bare_eq_self escapes_of_mem_escape
  escape := escape_eq_self escapes_of_mem_escape
  here := here
  up := up

/-- A name that begins with a letter is no dot segment. -/
theorem not_dots_of_isAlpha {c : Char} (hc : c.isAlpha = true) (s : List Char) :
    isDot (c :: s) = false ∧ isDoubleDot (c :: s) = false := by
  have hmark : lowerAscii c ≠ '.' ∧ lowerAscii c ≠ '%' :=
    forall_ascii (P := fun c => c.isAlpha = true → lowerAscii c ≠ '.' ∧ lowerAscii c ≠ '%')
      (by decide) c (lt_of_isAlphanum (by simp [Char.isAlphanum, hc])) hc
  have hnone {marks : List String}
      (hmarks : ∀ t ∈ marks, t.toList.head? = some '.' ∨ t.toList.head? = some '%') :
      marks.contains (String.ofList ((c :: s).map lowerAscii)) = false := by
    rw [List.contains_eq_mem, decide_eq_false_iff_not]
    intro hmem
    have ht := hmarks _ hmem
    rw [String.toList_ofList, List.map_cons, List.head?_cons, Option.some.injEq,
      Option.some.injEq] at ht
    exact ht.elim hmark.1 hmark.2
  exact ⟨hnone (by decide), hnone (by decide)⟩

theorem escapes_of_isAlpha {c : Char} (h : c.isAlpha = true) : Part.path.escapes c = false :=
  forall_ascii (P := fun c => c.isAlpha = true → Part.path.escapes c = false) (by decide) c
    (lt_of_isAlphanum (by simp [Char.isAlphanum, h])) h

/-- A drive with a name behind it is a name. -/
theorem settled_drive {c : Char} (hc : c.isAlpha = true) {name : List Char} (h : Settled name) :
    Settled (c :: ':' :: name) := by
  have hraw : ∀ d ∈ [c, ':'], Part.path.escapes d = false := by
    simp [escapes_of_isAlpha hc, show Part.path.escapes ':' = false from rfl]
  obtain ⟨here, up⟩ := not_dots_of_isAlpha hc (':' :: name)
  refine ⟨?_, ?_, here, up⟩
  · have hbare := bare_eq_self hraw
    rw [Url.bare] at hbare ⊢
    rw [show c :: ':' :: name = [c, ':'] ++ name from rfl, List.filter_append, hbare]
    exact congrArg ([c, ':'] ++ ·) h.bare
  · have hescape := escape_eq_self hraw
    rw [Part.escape] at hescape ⊢
    rw [show c :: ':' :: name = [c, ':'] ++ name from rfl, List.flatMap_append, hescape]
    exact congrArg ([c, ':'] ++ ·) h.escape

theorem isDrive_cases {name : List Char} (h : isDrive name = true) :
    ∃ c, name = [c, ':'] ∧ c.isAlpha = true := by
  unfold isDrive at h
  split at h
  · exact ⟨_, rfl, h⟩
  · cases h

theorem isDriveForm_of_isDrive {name : List Char} (h : isDrive name = true) :
    isDriveForm name = true := by
  obtain ⟨c, rfl, hc⟩ := isDrive_cases h
  simp [isDriveForm, hc]

/-! ### Resolving -/

/-- No drive is cut off where nothing is dropped. -/
theorem cutDrive?_eq_none {s : List Char} (h : bare s = s) : cutDrive? s = none := by
  have hkept : ∀ c ∈ s, isDropped c = false := by
    simpa using List.filter_eq_self.mp h
  unfold cutDrive?
  split
  · rename_i c rest hrest
    split
    · rename_i d more hmore
      have hd : d ∈ s := by
        refine (List.dropWhile_suffix isDropped).subset ?_
        rw [hrest]
        refine List.mem_cons_of_mem c ((List.dropWhile_suffix isDropped).subset ?_)
        rw [hmore]
        simp
      simp [hkept d hd]
    · rfl
  · rfl

/-- Where nothing is dropped, the names that come out stand as they are. -/
theorem settled_resolveSegments (k : SchemeKind) {parts : List (List Char)}
    (hparts : ∀ part ∈ parts, bare part = part) :
    ∀ name ∈ (resolveSegments k false [] parts).2, Settled name := by
  refine forall_resolveSegments k false [] parts (by simp) settled_nil ?_ ?_ ?_
  · exact fun part _ => settled_escape
  · exact fun c hc => settled_drive hc settled_nil
  · intro part hpart drive more hcut
    rw [cutDrive?_eq_none (hparts part hpart)] at hcut
    cases hcut

/-- Names that stand as they are go behind those before them. -/
theorem resolveSegments_settled {k : SchemeKind} {driven : Bool} {done names : List (List Char)}
    (hpast : ¬(k = .file ∧ done = [])) (h : ∀ name ∈ names, Settled name) :
    resolveSegments k driven done names = (driven, done ++ names) := by
  induction names generalizing done with
  | nil => simp [resolveSegments]
  | cons name names ih =>
    obtain ⟨hname, hnames⟩ := List.forall_mem_cons.mp h
    have hnext : resolveSegments k driven (done ++ [name]) names =
        (driven, done ++ [name] ++ names) := ih (by simp) hnames
    rw [resolveSegments]
    simp only [hname.bare, hname.escape, hname.up, hname.here, Bool.false_eq_true, if_false, hpast,
      hnext, List.append_assoc, List.singleton_append]

/-- In front of a path of files a drive is written with a colon. -/
theorem resolveSegments_front {name : List Char} {names : List (List Char)}
    (h : ∀ n ∈ name :: names, Settled n) :
    resolveSegments .file false [] (name :: names) =
      if isDriveForm name then (true, (name.take 1 ++ [':']) :: names)
      else (false, name :: names) := by
  obtain ⟨hname, hnames⟩ := List.forall_mem_cons.mp h
  rw [resolveSegments]
  simp only [hname.bare, hname.escape, hname.up, hname.here, Bool.false_eq_true, if_false, and_self,
    if_true, cutDrive?_eq_none hname.bare]
  split <;> rw [resolveSegments_settled (by simp) hnames] <;> rfl

/-! ### Names in front -/

/-- Nothing is dropped in front exactly if there is something in front, or nothing at all. -/
theorem settleSegments_file_iff (names : List (List Char)) :
    settleSegments .file names = names ↔
      names = [[]] ∨ ∃ first rest, names = first :: rest ∧ first ≠ [] := by
  unfold settleSegments
  rw [if_pos rfl]
  cases names with
  | nil => simp
  | cons first rest =>
    cases first with
    | cons c first => simp
    | nil =>
      rw [List.dropWhile_cons_of_pos rfl]
      constructor
      · intro h
        left
        split at h
        · exact h.symm
        · -- The first name that stays is not empty.
          have hfirst := List.head?_dropWhile_not List.isEmpty rest
          rw [h] at hfirst
          simp at hfirst
      · rintro (h | ⟨_, _, h, hne⟩)
        · rw [(List.cons.inj h).2]
          rfl
        · exact absurd (List.cons.inj h).1.symm hne

theorem settleSegments_idem (k : SchemeKind) (names : List (List Char)) :
    settleSegments k (settleSegments k names) = settleSegments k names := by
  by_cases hk : k = .file
  · subst hk
    rw [settleSegments_file_iff]
    unfold settleSegments
    rw [if_pos rfl]
    split
    · exact .inl rfl
    · rename_i hrest
      right
      have hfirst := List.head?_dropWhile_not List.isEmpty names
      cases hnames : names.dropWhile List.isEmpty with
      | nil => exact absurd hnames hrest
      | cons first rest =>
        rw [hnames] at hfirst
        exact ⟨first, rest, rfl, by rintro rfl; simp at hfirst⟩
  · simp [settleSegments, hk]

theorem settleSegments_nil_cons (names : List (List Char)) :
    settleSegments .file ([] :: names) = settleSegments .file names := by
  simp [settleSegments]

theorem mem_of_mem_settleSegments {k : SchemeKind} {names : List (List Char)} {name : List Char}
    (h : name ∈ settleSegments k names) : name ∈ names ∨ name = [] := by
  unfold settleSegments at h
  split at h
  · split at h
    · exact .inr (List.mem_singleton.mp h)
    · exact .inl ((List.dropWhile_suffix _).subset h)
  · exact .inl h

/-! ### Paths and their texts -/

/-- The names of a path that stand as they are, with none to be dropped in front. -/
structure Steady (k : SchemeKind) (names : List (List Char)) : Prop where
  inner : ∀ name ∈ names, Inner name
  settled : ∀ name ∈ names, Settled name
  front : settleSegments k names = names

theorem not_isDropped_of_isInner {c : Char} (h : isInner c = true) : isDropped c = false := by
  cases hdropped : isDropped c with
  | false => rfl
  | true =>
    simp only [isDropped, Bool.or_eq_true, beq_iff_eq] at hdropped
    obtain (rfl | rfl) | rfl := hdropped <;> cases h

theorem bare_of_inner {name : List Char} (h : Inner name) : bare name = name :=
  List.filter_eq_self.mpr fun c hc => by simp [not_isDropped_of_isInner (h c hc)]

theorem not_isSlash_of_isInner {c : Char} (h : isInner c = true) (k : SchemeKind) :
    k.isSlash c = false := by
  simp only [isInner, Bool.and_eq_true, bne_iff_ne] at h
  simp [SchemeKind.isSlash, h.1.2, h.2]

theorem afterSlash?_slash (k : SchemeKind) (s : List Char) : k.afterSlash? ('/' :: s) = some s :=
  rfl

/-- A path as text is nothing, or a slash with names between slashes behind it. -/
theorem text_cases (k : SchemeKind) {names : List (List Char)} (h : ∀ name ∈ names, Inner name) :
    names = [] ∧ (Path.segments names).text = [] ∨
      ∃ rest, (Path.segments names).text = '/' :: rest ∧ splitAll k.isSlash rest = names := by
  have hsplit (name : List Char) (names : List (List Char)) (h : ∀ n ∈ name :: names, Inner n) :
      splitAll k.isSlash (name ++ (Path.segments names).text) = name :: names := by
    induction names generalizing name with
    | nil =>
      have hname := (List.forall_mem_cons.mp h).1
      rw [show (Path.segments []).text = [] from rfl, List.append_nil]
      exact splitAll_of_forall _ _ fun c hc => not_isSlash_of_isInner (hname c hc) k
    | cons next names ih =>
      obtain ⟨hname, hnames⟩ := List.forall_mem_cons.mp h
      rw [show (Path.segments (next :: names)).text = '/' :: (next ++ (Path.segments names).text)
        from rfl, splitAll_append_cons _ _ _ _
          (fun c hc => not_isSlash_of_isInner (hname c hc) k) rfl, ih next hnames]
  cases names with
  | nil => exact .inl ⟨rfl, rfl⟩
  | cons name names => exact .inr ⟨_, rfl, hsplit name names h⟩

theorem splitAll_text (k : SchemeKind) {names : List (List Char)} (hne : names ≠ [])
    (h : ∀ name ∈ names, Inner name) :
    splitAll k.isSlash (Path.segments names).text = [] :: names := by
  obtain ⟨hnil, -⟩ | ⟨rest, htext, hrest⟩ := text_cases k h
  · exact absurd hnil hne
  · rw [htext, ← hrest]
    rfl

/-- Names that are read where nothing is dropped are steady. -/
theorem steady_of_settle {k : SchemeKind} {names parts : List (List Char)}
    (h : settleSegments k (resolveSegments k false [] parts).2 = names)
    (hinner : ∀ name ∈ names, Inner name) (hparts : ∀ part ∈ parts, Inner part) :
    Steady k names where
  inner := hinner
  settled name hname := by
    obtain hmem | rfl := mem_of_mem_settleSegments (h ▸ hname)
    · exact settled_resolveSegments k (fun part hpart => bare_of_inner (hparts part hpart)) name hmem
    · exact settled_nil
  front := by rw [← h, settleSegments_idem]

section

variable {k : SchemeKind} {names : List (List Char)}

/-- Behind no host, the slash in front of a path of files counts as a name to be dropped. -/
theorem readSegments_text (h : Steady .file names) (hne : names ≠ []) :
    readSegments .file (Path.segments names).text = (false, .segments names) := by
  have hfront : resolveSegments .file false [] ([] :: names) = (false, [] :: names) :=
    resolveSegments_front (List.forall_mem_cons.mpr ⟨settled_nil, h.settled⟩)
  simp only [readSegments, splitAll_text .file hne h.inner, hfront, settleSegments_nil_cons,
    h.front]

theorem steady_of_readSegments (hinner : ∀ name ∈ names, Inner name)
    (h : (readSegments .file (Path.segments names).text).2 = .segments names) :
    Steady .file names := by
  refine steady_of_settle (Path.segments.inj h) hinner ?_
  intro part hpart
  obtain ⟨-, htext⟩ | ⟨rest, htext, hrest⟩ := text_cases .file hinner
  · rw [htext] at hpart
    obtain rfl := List.mem_singleton.mp hpart
    exact inner_nil
  · rw [htext] at hpart
    obtain rfl | hpart := List.mem_cons.mp hpart
    · exact inner_nil
    · exact hinner part (hrest ▸ hpart)

/-- Behind a host a path is read from its text, unless a drive in front takes the host away. -/
theorem readPath_text (h : Steady k names) (hne : names ≠ [])
    (hdrive : k = .file → ∀ name ∈ names.head?, isDriveForm name = false) :
    readPath k (Path.segments names).text = (false, .segments names) := by
  obtain ⟨hnil, -⟩ | ⟨rest, htext, hrest⟩ := text_cases k h.inner
  · exact absurd hnil hne
  have hresolve : resolveSegments k false [] names = (false, names) := by
    by_cases hk : k = .file
    · subst hk
      cases names with
      | nil => exact absurd rfl hne
      | cons name names =>
        rw [resolveSegments_front h.settled, hdrive rfl name rfl, if_neg Bool.false_ne_true]
    · exact resolveSegments_settled (by simp [hk]) h.settled
  simp only [readPath, htext, afterSlash?_slash, readSegments, hrest, hresolve, h.front]

theorem steady_of_readPath (hk : k.isKnown = true) (hinner : ∀ name ∈ names, Inner name)
    (h : (readPath k (Path.segments names).text).2 = .segments names) : Steady k names := by
  obtain ⟨-, htext⟩ | ⟨rest, htext, hrest⟩ := text_cases k hinner
  · have hread : readPath k [] = readSegments k [] := by
      simp [readPath, SchemeKind.afterSlash?, hk]
    rw [htext, hread, readSegments] at h
    refine steady_of_settle (Path.segments.inj h) hinner fun part hpart => ?_
    obtain rfl := List.mem_singleton.mp hpart
    exact inner_nil
  · simp only [readPath, htext, afterSlash?_slash, readSegments] at h
    exact steady_of_settle (Path.segments.inj h) hinner (hrest ▸ hinner)

theorem not_isDriveForm_of_readPath (h : Steady .file names)
    (hread : (readPath .file (Path.segments names).text).1 = false) :
    ∀ name ∈ names.head?, isDriveForm name = false := by
  intro name hname
  obtain ⟨rest, rfl⟩ := List.head?_eq_some_iff.mp hname
  obtain ⟨hnil, -⟩ | ⟨_, htext, hsplit⟩ := text_cases .file h.inner
  · cases hnil
  · simp only [readPath, htext, afterSlash?_slash, readSegments, hsplit,
      resolveSegments_front h.settled] at hread
    cases hdrive : isDriveForm name with
    | false => rfl
    | true => simp [hdrive] at hread

end

/-! ### Replacing the last name -/

/-- A name for a page: it stands as it is and is no drive. -/
structure PageName (name : List Char) : Prop where
  inner : Inner name
  settled : Settled name
  nonempty : name ≠ []
  noDrive : isDriveForm name = false

variable {k : SchemeKind} {names : List (List Char)} {name : List Char}

/-- The last name is replaced by a page, whose name a drive may stand before, or the page goes behind
a drive that is alone. -/
theorem replaceLast_cases (k : SchemeKind) (names : List (List Char)) (name : List Char) :
    (∃ drive, names = [drive] ∧ k = .file ∧ isDrive drive = true ∧
      replaceLast k names name = names ++ [name]) ∨
    (∃ drive ∈ names, 2 ≤ names.length ∧ isDrive drive = true ∧
      replaceLast k names name = names.dropLast ++ [drive ++ name]) ∨
    replaceLast k names name = names.dropLast ++ [name] := by
  unfold replaceLast
  cases hlast : names.getLast? with
  | none =>
    right; right
    rw [List.getLast?_eq_none_iff.mp hlast]
    rfl
  | some s =>
    have hmem : s ∈ names := List.mem_of_getLast? hlast
    by_cases hdrive : k = .file ∧ isDrive s = true
    · by_cases hlength : names.length = 1
      · left
        obtain ⟨only, rfl⟩ := List.length_eq_one_iff.mp hlength
        obtain rfl := List.mem_singleton.mp hmem
        exact ⟨s, rfl, hdrive.1, hdrive.2, by simp [hdrive]⟩
      · right; left
        have hpos := List.length_pos_of_mem hmem
        exact ⟨s, hmem, by omega, hdrive.2, by simp [hdrive, hlength]⟩
    · right; right
      simp [hdrive]

theorem dropLast_of_steady (h : Steady .file names) :
    names.dropLast = [] ∨ ∃ first rest, names.dropLast = first :: rest ∧ first ≠ [] := by
  obtain rfl | ⟨first, rest, rfl, hfirst⟩ := (settleSegments_file_iff names).mp h.front
  · exact .inl rfl
  · cases rest with
    | nil => exact .inl rfl
    | cons next rest => exact .inr ⟨first, (next :: rest).dropLast, rfl, hfirst⟩

theorem steady_concat {front : List (List Char)} {last : List Char}
    (hfront : ∀ n ∈ front, Inner n ∧ Settled n) (hlast : Inner last ∧ Settled last) (hne : last ≠ [])
    (hfirst : k = .file → front = [] ∨ ∃ first rest, front = first :: rest ∧ first ≠ []) :
    Steady k (front ++ [last]) where
  inner := List.forall_mem_append.mpr ⟨fun n hn => (hfront n hn).1, by simpa using hlast.1⟩
  settled := List.forall_mem_append.mpr ⟨fun n hn => (hfront n hn).2, by simpa using hlast.2⟩
  front := by
    by_cases hk : k = .file
    · subst hk
      refine (settleSegments_file_iff _).mpr (.inr ?_)
      obtain rfl | ⟨head, rest, rfl, hhead⟩ := hfirst rfl
      · exact ⟨last, [], rfl, hne⟩
      · exact ⟨head, rest ++ [last], rfl, hhead⟩
    · simp [settleSegments, hk]

theorem replaceLast_ne_nil (k : SchemeKind) (names : List (List Char)) (name : List Char) :
    replaceLast k names name ≠ [] := by
  obtain ⟨_, -, -, -, h⟩ | ⟨_, -, -, -, h⟩ | h := replaceLast_cases k names name <;> simp [h]

/-- A path stays steady when a page takes the last place in it. -/
theorem steady_replaceLast (h : Steady k names) (hname : PageName name) :
    Steady k (replaceLast k names name) := by
  have hmem : ∀ n ∈ names, Inner n ∧ Settled n := fun n hn => ⟨h.inner n hn, h.settled n hn⟩
  have hkept : ∀ n ∈ names.dropLast, Inner n ∧ Settled n :=
    fun n hn => hmem n (List.dropLast_subset names hn)
  have hfirst : k = .file → names.dropLast = [] ∨ ∃ first rest, names.dropLast = first :: rest ∧
      first ≠ [] := by
    rintro rfl
    exact dropLast_of_steady h
  obtain ⟨drive, rfl, -, hdrive, hreplaced⟩ | ⟨drive, hin, -, hdrive, hreplaced⟩ | hreplaced :=
    replaceLast_cases k names name
  · rw [hreplaced]
    refine steady_concat hmem ⟨hname.inner, hname.settled⟩ hname.nonempty fun _ => .inr ?_
    obtain ⟨c, rfl, -⟩ := isDrive_cases hdrive
    exact ⟨_, [], rfl, by simp⟩
  · rw [hreplaced]
    obtain ⟨c, rfl, hc⟩ := isDrive_cases hdrive
    exact steady_concat hkept ⟨(inner_append _ _).mpr ⟨h.inner _ hin, hname.inner⟩,
      settled_drive hc hname.settled⟩ (by simp) hfirst
  · rw [hreplaced]
    exact steady_concat hkept ⟨hname.inner, hname.settled⟩ hname.nonempty hfirst

/-- If no drive is in front, none is when a page takes the last place. -/
theorem not_isDriveForm_replaceLast (hname : PageName name)
    (h : ∀ n ∈ names.head?, isDriveForm n = false) :
    ∀ n ∈ (replaceLast k names name).head?, isDriveForm n = false := by
  have hkept (last : List Char) (hlast : names.dropLast = [] → isDriveForm last = false) :
      ∀ n ∈ (names.dropLast ++ [last]).head?, isDriveForm n = false := by
    intro n hn
    cases names with
    | nil => exact (by simpa using hn : last = n) ▸ hlast rfl
    | cons first rest =>
      cases rest with
      | nil => exact (by simpa using hn : last = n) ▸ hlast rfl
      | cons next rest => exact h n (by simpa using hn)
  obtain ⟨drive, rfl, -, hdrive, -⟩ | ⟨drive, -, hlength, -, hreplaced⟩ | hreplaced :=
    replaceLast_cases k names name
  · have hform := h drive rfl
    rw [isDriveForm_of_isDrive hdrive] at hform
    cases hform
  · rw [hreplaced]
    refine hkept _ fun hnil => ?_
    have hzero := congrArg List.length hnil
    rw [List.length_dropLast, List.length_nil] at hzero
    omega
  · rw [hreplaced]
    exact hkept name fun _ => hname.noDrive

/-! ### Authorities -/

theorem cutUser_subset (s : List Char) : (cutUser s).2 ⊆ s := by
  unfold cutUser
  split
  · intro c hc
    exact List.mem_reverse.mp ((List.takeWhile_prefix _).subset (List.mem_reverse.mp hc))
  · exact fun _ => id

theorem cutHost_subset (inside : Bool) (s : List Char) : (cutHost inside s).2 ⊆ s := by
  induction s generalizing inside with
  | nil => exact fun _ => id
  | cons c s ih =>
    rw [cutHost]
    split
    · exact fun _ => id
    · exact fun d hd => List.mem_cons_of_mem c (ih _ hd)

theorem text_ne_nil_of_read {s : List Char} {host : Host} (h : Host.read s = .ok host) :
    host.text ≠ [] := by
  unfold Host.read readBracketed at h
  split at h
  · split at h
    · obtain ⟨pieces, -, rfl⟩ := map_eq_ok h
      simp [Host.text]
    · cases h
  split at h
  · cases h
  split at h
  · cases h
  split at h
  · cases h
  rename_i hname
  split at h
  · obtain ⟨value, -, rfl⟩ := map_eq_ok h
    simp [Host.text, address4Text, join]
  · cases h
    simpa [Host.text] using hname

/-- What is read of an authority has a text, and nothing is left of a text without slashes. -/
theorem of_readAuthority {k : SchemeKind} (hk : k.isKnown = true) {ends : Bool}
    {s left : List Char} {a : Authority} (h : readAuthority k ends s = .ok (a, left)) :
    a.place ≠ [] ∧ ('\\' ∉ s → left = []) := by
  simp only [readAuthority_known hk] at h
  split at h
  · cases h
  obtain ⟨host, hhost, h⟩ := bind_eq_ok h
  obtain ⟨port, -, h⟩ := bind_eq_ok h
  cases h
  constructor
  · simp [Authority.place, Authority.text, text_ne_nil_of_read hhost]
  · intro hs
    rw [List.dropWhile_eq_nil_iff]
    intro c hc
    rw [bne_iff_ne]
    rintro rfl
    exact hs (cutUser_subset s (cutHost_subset false _ hc))

/-- How an authority is told from the path behind it. -/
theorem takeWhile_place {place : List Char} (hplace : Inner place) (k : SchemeKind)
    (names : List (List Char)) :
    (place ++ (Path.segments names).text).takeWhile (fun c => !k.isSlash c) = place := by
  rw [List.takeWhile_append_of_pos fun c hc => by simp [not_isSlash_of_isInner (hplace c hc) k]]
  cases names with
  | nil => simp [Path.text]
  | cons name names => simp [Path.text, SchemeKind.isSlash]

/-- Reading a URL of the network goes by its authority and its path, each for itself. -/
theorem readRest_network {port : Nat} {a : Authority} (hplace : Inner a.place)
    (hne : a.place ≠ []) (last : Bool) (names : List (List Char)) :
    readRest (.network port) last (a.text ++ (Path.segments names).text) = do
      let (authority, left) ← readAuthority (.network port) false a.place
      return (some authority, (readPath (.network port) (left ++ (Path.segments names).text)).2) := by
  obtain ⟨c, place, hc⟩ := List.exists_cons_of_ne_nil hne
  have hinner : isInner c = true := hplace c (hc ▸ List.mem_cons_self)
  have hstart : (a.text ++ (Path.segments names).text).dropWhile
      (fun c => SchemeKind.isSlash (.network port) c || isDropped c) =
        a.place ++ (Path.segments names).text := by
    have hslash : SchemeKind.isSlash (.network port) '/' = true := rfl
    rw [a.text_eq, hc]
    simp only [List.cons_append, List.dropWhile_cons, hslash, Bool.true_or, if_true,
      not_isSlash_of_isInner hinner, not_isDropped_of_isInner hinner, Bool.or_self,
      Bool.false_eq_true, if_false]
  simp only [readRest, hstart, takeWhile_place hplace, List.drop_left, bare_of_inner hplace,
    readAuthority_known (k := .network port) rfl]

/-- Reading a URL of files: without a host there is a path, else the host and the path are read,
each for itself. -/
theorem readFile_text {a : Authority} (hplace : Inner a.place) (names : List (List Char)) :
    readFile (a.text ++ (Path.segments names).text) =
      if isDriveForm a.place then
        .ok (some { host := none }, (readSegments .file (a.place ++ (Path.segments names).text)).2)
      else do
        match ← readFileHost a.place with
        | none => return (some { host := none }, (readSegments .file (Path.segments names).text).2)
        | some host =>
          let read := readPath .file (Path.segments names).text
          return (some { host := if read.1 then none else some host }, read.2) := by
  rw [a.text_eq, List.cons_append, List.cons_append]
  simp only [readFile, afterSlash?_slash, takeWhile_place hplace, bare_of_inner hplace,
    List.drop_left]
  rfl

/-! ### The page beside a page -/

theorem readRest_replaceLast_network {port : Nat} {a : Authority} (hplace : Inner a.place)
    (hinner : ∀ n ∈ names, Inner n) (hname : PageName name) :
    let k := SchemeKind.network port
    let page := replaceLast k names name
    readRest k false (a.text ++ (Path.segments names).text) = .ok (some a, .segments names) →
      readRest k false (a.text ++ (Path.segments page).text) = .ok (some a, .segments page) := by
  intro k page h
  have hne : a.place ≠ [] := by
    obtain ⟨⟨authority, left⟩, hread, h⟩ := bind_eq_ok h
    obtain ⟨ha, -⟩ := Prod.mk.inj (Except.ok.inj h)
    obtain rfl := Option.some.inj ha
    exact (of_readAuthority rfl hread).1
  rw [readRest_network hplace hne] at h ⊢
  obtain ⟨⟨authority, left⟩, hread, h⟩ := bind_eq_ok h
  obtain ⟨ha, hpath⟩ := Prod.mk.inj (Except.ok.inj h)
  obtain rfl := Option.some.inj ha
  have hleft : left = [] := (of_readAuthority rfl hread).2 fun hc => absurd (hplace _ hc) (by decide)
  subst hleft
  have hsteady := steady_of_readPath (k := k) rfl hinner hpath
  have hpage := readPath_text (steady_replaceLast hsteady hname) (replaceLast_ne_nil k names name)
    (fun hfile => SchemeKind.noConfusion hfile)
  rw [hread]
  exact congrArg (fun r => Except.ok (some authority, r.2)) hpage

theorem readFile_replaceLast {a : Authority} (hplace : Inner a.place)
    (hinner : ∀ n ∈ names, Inner n) (hname : PageName name)
    (h : readFile (a.text ++ (Path.segments names).text) = .ok (some a, .segments names)) :
    let page := replaceLast .file names name
    readFile (a.text ++ (Path.segments page).text) = .ok (some a, .segments page) := by
  intro page
  have hplaceless : ({ host := none } : Authority).place = [] := rfl
  rw [readFile_text hplace] at h ⊢
  by_cases hdrive : isDriveForm a.place = true
  · rw [if_pos hdrive] at h
    obtain ⟨ha, -⟩ := Prod.mk.inj (Except.ok.inj h)
    rw [← Option.some.inj ha, hplaceless] at hdrive
    cases hdrive
  rw [if_neg hdrive] at h ⊢
  obtain ⟨found, hfound, h⟩ := bind_eq_ok h
  rw [hfound]
  cases found with
  | none =>
    obtain ⟨ha, hpath⟩ := Prod.mk.inj (Except.ok.inj h)
    have hsteady := steady_of_readSegments hinner hpath
    have hpage := readSegments_text (steady_replaceLast hsteady hname)
      (replaceLast_ne_nil .file names name)
    exact congrArg₂ (fun x r => Except.ok (x, r.2)) ha hpage
  | some host =>
    generalize hread : readPath .file (Path.segments names).text = read at h
    obtain ⟨ha, hpath⟩ := Prod.mk.inj (Except.ok.inj h)
    have hsteady := steady_of_readPath (k := .file) rfl hinner (hread ▸ hpath)
    have hdriven : read.1 = false := by
      cases hdriven : read.1 with
      | false => rfl
      | true =>
        -- A drive would have taken the host away.
        rw [hdriven, if_pos rfl] at ha
        rw [← Option.some.inj ha, hplaceless] at hfound
        cases hfound
    have hpage : readPath .file (Path.segments page).text = (false, .segments page) :=
      readPath_text (steady_replaceLast hsteady hname) (replaceLast_ne_nil .file names name)
        fun _ => not_isDriveForm_replaceLast hname
          (not_isDriveForm_of_readPath hsteady (hread ▸ hdriven))
    rw [hdriven, if_neg Bool.false_ne_true] at ha
    rw [hpage]
    exact congrArg (fun x => Except.ok (x, Path.segments page)) ha

theorem readRest_replaceLast (hk : k.isKnown = true) {a : Authority} (hplace : Inner a.place)
    (hinner : ∀ n ∈ names, Inner n) (hname : PageName name)
    (h : readRest k false (a.text ++ (Path.segments names).text) = .ok (some a, .segments names)) :
    readRest k false (a.text ++ (Path.segments (replaceLast k names name)).text) =
      .ok (some a, .segments (replaceLast k names name)) := by
  cases k with
  | unknown => cases hk
  | file => exact readFile_replaceLast hplace hinner hname h
  | network port => exact readRest_replaceLast_network hplace hinner hname h

theorem inner_replaceLast (hinner : ∀ n ∈ names, Inner n) (hname : PageName name) :
    ∀ n ∈ replaceLast k names name, Inner n := by
  have hkept : ∀ n ∈ names.dropLast, Inner n := fun n hn => hinner n (List.dropLast_subset names hn)
  obtain ⟨_, -, -, -, h⟩ | ⟨drive, hin, -, -, h⟩ | h := replaceLast_cases k names name
  · rw [h]
    exact List.forall_mem_append.mpr ⟨hinner, by simpa using hname.inner⟩
  · rw [h]
    refine List.forall_mem_append.mpr ⟨hkept, ?_⟩
    simpa using And.intro (hinner drive hin) hname.inner
  · rw [h]
    exact List.forall_mem_append.mpr ⟨hkept, by simpa using hname.inner⟩

/-- The page beside a URL that is read from its own text is read from its own text, too. -/
theorem parse_sibling {u : Url} (hread : parse u.text = .ok u)
    (hk : (SchemeKind.of u.scheme).isKnown = true) (hname : PageName name) :
    ∃ page, u.sibling name = .ok page ∧ page.scheme = u.scheme ∧ page.authority = u.authority ∧
      page.query = none ∧ parse page.text = .ok page := by
  obtain ⟨hclean, ⟨a, ha, hplace⟩, ⟨names, hpath, hinner⟩⟩ := clean_of_parse hread hk
  let page : Url :=
    { u with path := .segments (replaceLast (.of u.scheme) names name), query := none,
             fragment := none }
  have hpage : Clean page := by
    refine ⟨?_, by simp [page], by simp [page]⟩
    have hstem := hclean.stem
    rw [stem, ha] at hstem
    have htext : Tame page.path.text := Path.Inner.tame ⟨_, rfl, inner_replaceLast hinner hname⟩
    rw [stem, show page.authority = some a from ha]
    simp only [tame_append, tame_cons] at hstem ⊢
    exact ⟨hstem.1, hstem.2.1, hstem.2.2.1, htext⟩
  have hrest := (hclean.parse_text_iff hk ha).mp hread
  rw [hpath] at hrest
  exact ⟨page, by rw [sibling, hpath], rfl, rfl, rfl,
    (hpage.parse_text_iff hk ha).mpr (readRest_replaceLast hk hplace hinner hname hrest)⟩

end DiagramDesk.Url
