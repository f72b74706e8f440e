import Mathlib.Data.List.MinMax
import DiagramDesk.Proofs.Share.Link
import DiagramDesk.Proofs.Text.Scan
import DiagramDesk.Proofs.Url.Ends

/-!
A link inside markup. The frame to paste holds its link as it is, and who reads the frame ends the
link at the first quote and reads what looks like the name or the number of a character as that
character. Both make a text shorter, so the link is read as it was exactly if there is nothing of
the kind in it. A slash ends every name, and the token has no ampersand: all depends on the page.
-/
namespace DiagramDesk

open Text

namespace Html

/-! ### References to characters -/

def isNameChar (c : Char) : Bool := c.isAlphanum || c == ';'

/-- Names of characters, with the semicolon where one belongs to the name, and what they stand for.
No name is shorter than what it stands for. -/
structure Names where
  entries : List (List Char × List Char)
  isName : ∀ e ∈ entries, e.1.all isNameChar = true
  short : ∀ e ∈ entries, e.2.length ≤ e.1.length

def Names.longest? (names : Names) (s : List Char) : Option (List Char × List Char) :=
  (names.entries.filter (·.1.isPrefixOf s)).argmax (·.1.length)

/-- Whether a name without a semicolon would go on with a character, in the value of an
attribute. -/
def goesOn (c : Char) : Bool := c.isAlphanum || c == '='

/-- What a name behind an ampersand stands for, and the length of the two. -/
def Names.named (names : Names) (s : List Char) : Option (List Char × Nat) :=
  match names.longest? s with
  | none => none
  | some (name, value) =>
    if name.getLast? ≠ some ';' ∧ (s.drop name.length).head?.any goesOn then none
    else some (value, 1 + name.length)

/-- Numbers that do not stand for the character with their code: those of control characters are
taken for places in another table. -/
def replacedCodes : List (Nat × Nat) :=
  [(0x80, 0x20AC), (0x82, 0x201A), (0x83, 0x192), (0x84, 0x201E), (0x85, 0x2026), (0x86, 0x2020),
    (0x87, 0x2021), (0x88, 0x2C6), (0x89, 0x2030), (0x8A, 0x160), (0x8B, 0x2039), (0x8C, 0x152),
    (0x8E, 0x17D), (0x91, 0x2018), (0x92, 0x2019), (0x93, 0x201C), (0x94, 0x201D), (0x95, 0x2022),
    (0x96, 0x2013), (0x97, 0x2014), (0x98, 0x2DC), (0x99, 0x2122), (0x9A, 0x161), (0x9B, 0x203A),
    (0x9C, 0x153), (0x9E, 0x17E), (0x9F, 0x178)]

def numberedChar (n : Nat) : Char :=
  if n = 0 ∨ 0x10FFFF < n ∨ (0xD800 ≤ n ∧ n ≤ 0xDFFF) then Char.ofNat 0xFFFD
  else Char.ofNat ((replacedCodes.lookup n).getD n)

def isDigitOf (base : Nat) (c : Char) : Bool := (Url.digitsValue? base [c]).isSome

/-- How many semicolons at the head of a text close what is ahead of it: one, or none. -/
def closing (s : List Char) : Nat := if s.head? = some ';' then 1 else 0

/-- What digits stand for, and the length of a reference that has them behind its first `ahead`
characters; a semicolon belongs to it. -/
def byNumber (base ahead : Nat) (s : List Char) : Option (List Char × Nat) :=
  let digits := s.takeWhile (isDigitOf base)
  if digits = [] then none
  else some ([numberedChar ((Url.digitsValue? base digits).getD 0)],
    ahead + digits.length + closing (s.dropWhile (isDigitOf base)))

def numbered : List Char → Option (List Char × Nat)
  | 'x' :: s => byNumber 16 3 s
  | 'X' :: s => byNumber 16 3 s
  | s => byNumber 10 2 s

/-- Finds a reference in the value of an attribute. -/
def reference (names : Names) : Pattern (List Char)
  | '&' :: '#' :: s => numbered s
  | '&' :: s => names.named s
  | _ => none

/-- The value of an attribute: the text between its quotes with the references read. -/
def valueOf (names : Names) (s : List Char) : List Char := replaceAll (reference names) id s

/-- The value that a tag gives an attribute in double quotes. -/
def attribute? (names : Names) (name tag : List Char) : Option (List Char) := do
  let (_, rest) ← splitOnce (' ' :: (name ++ ['=', '"'])) tag
  let (value, _) ← splitOnce ['"'] rest
  return valueOf names value

section Reference

variable {names : Names} {s t r : List Char}

theorem of_longest? {e : List Char × List Char} (h : names.longest? s = some e) :
    e ∈ names.entries ∧ e.1 <+: s := by
  have hmem := List.mem_filter.mp (List.argmax_mem h)
  exact ⟨hmem.1, List.isPrefixOf_iff_prefix.mp hmem.2⟩

/-- A reference is longer than what it stands for. -/
theorem length_of_named {v : List Char} {n : Nat} (h : names.named s = some (v, n)) :
    n ≤ 1 + s.length ∧ v.length < n := by
  unfold Names.named at h
  split at h
  case h_1 => cases h
  case h_2 name value hlongest =>
    obtain ⟨hmem, hprefix⟩ := of_longest? hlongest
    have hshort : value.length ≤ name.length := names.short _ hmem
    have hlength : name.length ≤ s.length := hprefix.length_le
    split at h
    · cases h
    · cases h
      omega

theorem closing_le (s : List Char) : closing s ≤ s.length := by
  cases s with
  | nil => exact Nat.le_refl 0
  | cons c s =>
    unfold closing
    split <;> simp

theorem length_of_byNumber {base ahead n : Nat} {v : List Char}
    (h : byNumber base ahead s = some (v, n)) : n ≤ ahead + s.length ∧ v.length + ahead ≤ n := by
  simp only [byNumber, Option.ite_none_left_eq_some, Option.some.injEq, Prod.mk.injEq] at h
  obtain ⟨hne, rfl, rfl⟩ := h
  have hpos := List.length_pos_iff.mpr hne
  have hclosing := closing_le (s.dropWhile (isDigitOf base))
  have hlength : _ = s.length :=
    congrArg List.length (List.takeWhile_append_dropWhile (p := isDigitOf base))
  rw [List.length_append] at hlength
  rw [List.length_singleton]
  omega

theorem length_of_numbered {v : List Char} {n : Nat} (h : numbered s = some (v, n)) :
    n ≤ 2 + s.length ∧ v.length + 2 ≤ n := by
  unfold numbered at h
  split at h <;> have hlength := length_of_byNumber h
  · rw [List.length_cons]
    omega
  · rw [List.length_cons]
    omega
  · exact hlength

theorem length_of_reference (s v : List Char) (n : Nat) (h : reference names s = some (v, n)) :
    n ≤ s.length ∧ v.length < n := by
  unfold reference at h
  split at h
  · have hlength := length_of_numbered h
    simp only [List.length_cons]
    omega
  · have hlength := length_of_named h
    rw [List.length_cons]
    omega
  · cases h

/-- Where there is a reference, reading makes the text shorter. -/
theorem length_valueOf_le (s : List Char) : (valueOf names s).length ≤ s.length :=
  (length_replaceAll (g := id) length_of_reference s).1

theorem valueOf_eq_self_iff : valueOf names s = s ↔ Free (reference names) s :=
  replaceAll_eq_self_iff (g := id) length_of_reference

/-! ### What ends a reference -/

/-- No name goes over a slash. -/
theorem longest?_append : names.longest? (t ++ '/' :: r) = names.longest? t := by
  have hsame : ∀ e ∈ names.entries, e.1.isPrefixOf (t ++ '/' :: r) = e.1.isPrefixOf t := by
    intro e he
    rw [Bool.eq_iff_iff, List.isPrefixOf_iff_prefix, List.isPrefixOf_iff_prefix]
    refine ⟨fun h => ?_, fun h => h.trans (List.prefix_append t _)⟩
    obtain h | ⟨more, hmore⟩ := List.prefix_or_prefix_of_prefix h (List.prefix_append t _)
    · exact h
    · cases more with
      | nil =>
        rw [List.append_nil] at hmore
        exact hmore ▸ List.prefix_rfl
      | cons c more =>
        -- The name would hold the slash.
        rw [← hmore, List.prefix_append_right_inj, List.cons_prefix_cons] at h
        have hslash := List.all_eq_true.mp (names.isName e he) '/' (by simp [← hmore, h.1])
        exact absurd hslash (by decide)
  rw [Names.longest?, Names.longest?, List.filter_congr hsame]

theorem named_append : names.named (t ++ '/' :: r) = names.named t := by
  unfold Names.named
  rw [longest?_append]
  cases hlongest : names.longest? t with
  | none => rfl
  | some e =>
    obtain ⟨name, value⟩ := e
    have hlength : name.length ≤ t.length := (of_longest? hlongest).2.length_le
    have hnext : ((t ++ '/' :: r).drop name.length).head?.any goesOn =
        (t.drop name.length).head?.any goesOn := by
      rw [List.drop_append_of_le_length hlength]
      cases t.drop name.length with
      | nil => exact (by decide : goesOn '/' = false)
      | cons c u => rfl
    simp only [hnext]

/-- A run of characters ends at a slash if that is none of them. -/
theorem run_append {p : Char → Bool} (h : p '/' = false) :
    (t ++ '/' :: r).takeWhile p = t.takeWhile p ∧
      (t ++ '/' :: r).dropWhile p = t.dropWhile p ++ '/' :: r := by
  have hrun : t ++ '/' :: r = t.takeWhile p ++ (t.dropWhile p ++ '/' :: r) := by
    rw [← List.append_assoc, List.takeWhile_append_dropWhile]
  have hall : ∀ c ∈ t.takeWhile p, p c = true := fun c => List.mem_takeWhile_imp
  have hnext : ∀ c ∈ (t.dropWhile p ++ '/' :: r).head?, p c = false := by
    have hstop : ∀ c ∈ (t.dropWhile p).head?, p c = false := not_of_mem_head?_dropWhile
    cases hrest : t.dropWhile p with
    | nil => simpa using h
    | cons c u => simpa [hrest] using hstop
  rw [hrun]
  exact ⟨takeWhile_append_of_head hall hnext, dropWhile_append_of_head hall hnext⟩

theorem closing_append : closing (t ++ '/' :: r) = closing t := by
  cases t with
  | nil => rfl
  | cons c t => rfl

theorem byNumber_append (base ahead : Nat) (h : isDigitOf base '/' = false) :
    byNumber base ahead (t ++ '/' :: r) = byNumber base ahead t := by
  simp only [byNumber, (run_append h).1, (run_append h).2, closing_append]

theorem numbered_of_not_mem {c : Char} (h : c ∉ ['x', 'X']) (s : List Char) :
    numbered (c :: s) = byNumber 10 2 (c :: s) := by
  simp only [List.mem_cons, List.not_mem_nil, or_false, not_or] at h
  rw [numbered]
  · exact fun _ he => h.1 (List.cons.inj he).1
  · exact fun _ he => h.2 (List.cons.inj he).1

theorem numbered_append : numbered (t ++ '/' :: r) = numbered t := by
  cases t with
  | nil => exact byNumber_append (t := []) (r := r) 10 2 (by decide)
  | cons c t =>
    by_cases hc : c ∈ ['x', 'X']
    · simp only [List.mem_cons, List.not_mem_nil, or_false] at hc
      obtain rfl | rfl := hc <;> exact byNumber_append 16 3 (by decide)
    · rw [List.cons_append, numbered_of_not_mem hc, numbered_of_not_mem hc, ← List.cons_append]
      exact byNumber_append 10 2 (by decide)

theorem reference_of_ne {c : Char} (h : c ≠ '&') (s : List Char) :
    reference names (c :: s) = none := by
  rw [reference]
  · exact fun _ he => h (List.cons.inj he).1
  · exact fun _ he => h (List.cons.inj he).1

theorem reference_named {c : Char} (h : c ≠ '#') (s : List Char) :
    reference names ('&' :: c :: s) = names.named (c :: s) := by
  rw [reference]
  exact fun _ he => h (List.cons.inj he).1

/-- A reference is found, or not, whatever is behind the next slash. -/
theorem reference_append : reference names (t ++ '/' :: r) = reference names t := by
  cases t with
  | nil => exact reference_of_ne (by decide) r
  | cons c t =>
    by_cases hc : c = '&'
    · subst hc
      cases t with
      | nil => exact (reference_named (by decide) r).trans (named_append (t := []))
      | cons d t =>
        by_cases hd : d = '#'
        · subst hd
          exact numbered_append
        · rw [List.cons_append, List.cons_append, reference_named hd, reference_named hd,
            ← List.cons_append]
          exact named_append
    · rw [List.cons_append, reference_of_ne hc, reference_of_ne hc]

theorem reference_of_not_mem (h : '&' ∉ s) : reference names s = none := by
  cases s with
  | nil => rfl
  | cons c s => exact reference_of_ne (fun he => h (by simp [he])) s

theorem free_reference_append_iff (h : '&' ∉ r) :
    Free (reference names) (t ++ '/' :: r) ↔ Free (reference names) t := by
  constructor
  · rintro hfree u ⟨front, rfl⟩
    rw [← reference_append (r := r)]
    exact hfree _ ⟨front, by simp⟩
  · intro hfree u hu
    obtain hu | ⟨v, hv, -, rfl⟩ := suffix_append_cases hu
    · exact reference_of_not_mem fun hmem => h (by simpa using hu.subset hmem)
    · rw [reference_append]
      exact hfree v hv

end Reference

end Html

namespace Link

open Html

/-! ### The frame -/

def snippetFoot : List Char :=
  (" width=\"100%\" height=\"600\" frameborder=\"0\" " ++
    "style=\"border: none;\" title=\"Mermaid Diagram\"></iframe>").toList

theorem toList_embedSnippet (u : Url) :
    (embedSnippet u).toList =
      "<iframe".toList ++ ' ' :: ("src".toList ++ ['=', '"']) ++
        (u.text ++ '"' :: snippetFoot) := by
  have hhead : "<iframe src=\"".toList =
      "<iframe".toList ++ ' ' :: ("src".toList ++ ['=', '"']) := by decide
  have hfoot : "\" width=\"100%\" height=\"600\" frameborder=\"0\" ".toList =
      '"' :: " width=\"100%\" height=\"600\" frameborder=\"0\" ".toList := by
    decide +kernel
  have hlink : (toString u).toList = u.text := String.toList_ofList
  -- The texts stay as they stand: nothing else is to be computed of them.
  delta embedSnippet snippetFoot
  rw [String.toList_append, String.toList_append, String.toList_append, String.toList_append,
    hhead, hfoot, hlink, List.append_assoc, List.append_assoc, List.cons_append]

/-- The frame gives its link back exactly if the link has neither a quote nor a reference. -/
theorem attribute?_embedSnippet_iff (names : Names) (u : Url) :
    attribute? names "src".toList (embedSnippet u).toList = some u.text ↔
      '"' ∉ u.text ∧ Free (reference names) u.text := by
  have hahead : Ahead (' ' :: ("src".toList ++ ['=', '"'])) "<iframe".toList :=
    ahead_of_not_mem (by decide)
  have hread (value rest : List Char) (hvalue : '"' ∉ value)
      (h : u.text ++ '"' :: snippetFoot = value ++ ['"'] ++ rest) :
      attribute? names "src".toList (embedSnippet u).toList = some (valueOf names value) := by
    have hstart := splitOnce_ahead (value ++ ['"'] ++ rest) (List.cons_ne_nil ' ' _) hahead
    have hend := splitOnce_ahead rest (List.cons_ne_nil '"' []) (ahead_of_not_mem hvalue)
    simp only [attribute?, toList_embedSnippet, h, hstart, hend, Option.bind_eq_bind,
      Option.bind_some, Option.pure_def]
  by_cases hquote : '"' ∈ u.text
  · -- The link ends too early, and reading makes nothing longer.
    obtain ⟨value, rest, htext, hvalue⟩ := List.eq_append_cons_of_mem hquote
    have hshort : (valueOf names value).length ≤ value.length := length_valueOf_le value
    rw [hread value (rest ++ '"' :: snippetFoot) hvalue (by simp [htext])]
    simp only [hquote, not_true_eq_false, false_and, iff_false, Option.some.injEq]
    intro he
    have hlength := congrArg List.length (he.trans htext)
    rw [List.length_append, List.length_cons] at hlength
    omega
  · rw [hread u.text snippetFoot hquote (by simp), Option.some.injEq, valueOf_eq_self_iff]
    exact (and_iff_right hquote).symm

/-! ### The page of a frame -/

/-- A text without ampersands and quotes. -/
def Plain (s : List Char) : Prop := ∀ c ∈ s, c ≠ '&' ∧ c ≠ '"'

instance (s : List Char) : Decidable (Plain s) :=
  decidable_of_iff (s.all fun c => c != '&' && c != '"') (by simp [Plain])

theorem Plain.amp_not_mem {s : List Char} (h : Plain s) : '&' ∉ s := fun hc => (h _ hc).1 rfl

theorem Plain.quote_not_mem {s : List Char} (h : Plain s) : '"' ∉ s := fun hc => (h _ hc).2 rfl

theorem plain_embedPage : Plain embedPage := by decide

theorem plain_fragmentOf (z : Zlib.Compressor) (source : String) : Plain (fragmentOf z source) := by
  intro c hc
  rw [fragmentOf_eq] at hc
  have hsymbol := Token.isLinkSymbol_of_mem_encode _ c hc
  refine ⟨?_, ?_⟩ <;> rintro rfl <;> exact absurd hsymbol (by decide)

theorem exists_stem_eq (u : Url) : ∃ front, u.stem = front ++ u.path.text := by
  unfold Url.stem
  cases u.authority with
  | some a => exact ⟨u.scheme ++ ':' :: a.text, by simp⟩
  | none =>
    by_cases hslashes : startsWith u.path.text ['/', '/'] = true
    · exact ⟨u.scheme ++ ':' :: ['/', '.'], by simp [hslashes]⟩
    · exact ⟨u.scheme ++ [':'], by simp [hslashes]⟩

/-- What a link for embedding takes from the page: all but the last name of its path, and that too
if it is a drive. -/
theorem of_embedUrl {z : Zlib.Compressor} {base u : Url} {source : String}
    (h : embedUrl z base source = .ok u) :
    u.scheme = base.scheme ∧ u.authority = base.authority ∧
    u.text = u.stem ++ '#' :: fragmentOf z source ∧
    ∃ names kept last, base.path = .segments names ∧ kept ⊆ names ∧ Plain last ∧
      u.path = .segments (kept ++ [last]) := by
  obtain ⟨page, hpage, rfl⟩ := map_eq_ok h
  have htoken : Url.Part.fragment.escape (fragmentOf z source) = fragmentOf z source := by
    rw [fragmentOf_eq]
    exact Url.escape_eq_self (escapes_of_mem_encode _)
  unfold Url.sibling at hpage
  split at hpage
  case h_1 => cases hpage
  case h_2 names hnames =>
    cases hpage
    refine ⟨rfl, rfl, by simp [Url.text, Url.withFragment, htoken, Url.stem], names, ?_⟩
    have hall := List.dropLast_subset names
    obtain ⟨drive, -, -, -, hpath⟩ | ⟨drive, -, -, hdrive, hpath⟩ | hpath :=
      Url.replaceLast_cases (.of base.scheme) names embedPage
    · exact ⟨names, embedPage, hnames, List.Subset.refl _, plain_embedPage, congrArg _ hpath⟩
    · refine ⟨names.dropLast, drive ++ embedPage, hnames, hall, ?_, congrArg _ hpath⟩
      obtain ⟨c, rfl, hc⟩ := Url.isDrive_cases hdrive
      have hletter : c ≠ '&' ∧ c ≠ '"' := by
        constructor <;> rintro rfl <;> cases hc
      exact List.forall_mem_cons.mpr
        ⟨hletter, List.forall_mem_cons.mpr ⟨by decide, plain_embedPage⟩⟩
    · exact ⟨names.dropLast, embedPage, hnames, hall, plain_embedPage, congrArg _ hpath⟩

/-- Of a link for embedding, only what is ahead of its token matters. -/
theorem attribute?_embedUrl_iff (names : Names) {z : Zlib.Compressor} {base u : Url}
    {source : String} (h : embedUrl z base source = .ok u) :
    attribute? names "src".toList (embedSnippet u).toList = some u.text ↔
      '"' ∉ u.stem ∧ Free (reference names) u.stem := by
  obtain ⟨-, -, htext, _, kept, last, -, -, hlast, hpath⟩ := of_embedUrl h
  have htoken := plain_fragmentOf z source
  obtain ⟨ahead, hahead⟩ := exists_stem_eq u
  have hstem : u.stem = (ahead ++ (Url.Path.segments kept).text) ++ '/' :: last := by
    rw [hahead, hpath]
    simp [Url.Path.text]
  have hbehind : '&' ∉ last ++ '#' :: fragmentOf z source := by
    simp [hlast.amp_not_mem, htoken.amp_not_mem]
  rw [attribute?_embedSnippet_iff, htext]
  refine and_congr ?_ ?_
  · simp [htoken.quote_not_mem]
  · rw [hstem, List.append_assoc, List.cons_append, free_reference_append_iff hbehind,
      free_reference_append_iff hlast.amp_not_mem]

/-- The frame that shows a source gives its link back exactly if the host of the page has no quote
and nothing ahead of the token looks like a character. -/
theorem frame_gives_link_iff (names : Names) {z : Zlib.Compressor} {text : List Char} {base u : Url}
    {source : String} (hread : Url.parse text = .ok base) (hlink : embedUrl z base source = .ok u) :
    attribute? names "src".toList (embedSnippet u).toList = some u.text ↔
      (∀ a ∈ base.authority, ∀ host ∈ a.host, '"' ∉ host.text) ∧
        Free (reference names) u.stem := by
  obtain ⟨hscheme, hauthority, -, all, kept, last, hall, hkept, hlast, hpath⟩ := of_embedUrl hlink
  obtain ⟨hletters, hescaped⟩ := Url.escaped_of_parse hread
  have hquote : '"' ∉ u.path.text := by
    rw [hpath, Url.Path.text, List.mem_flatMap]
    rintro ⟨name, hname, hc⟩
    have hc := List.mem_of_ne_of_mem (by decide) hc
    obtain hname | hname := List.mem_append.mp hname
    · exact absurd (hescaped.path all hall name (hkept hname) _ hc) (by decide)
    · exact hlast.quote_not_mem (List.mem_singleton.mp hname ▸ hc)
  rw [attribute?_embedUrl_iff names hlink, Url.quote_mem_stem_iff (hscheme ▸ hletters)
    (hauthority ▸ hescaped.authority) hquote, hauthority]
  simp

/-- The names of the characters of markup. The first four are also read without a semicolon. -/
def markupNames : Names where
  entries := [("amp".toList, ['&']), ("lt".toList, ['<']), ("gt".toList, ['>']),
    ("quot".toList, ['"']), ("amp;".toList, ['&']), ("lt;".toList, ['<']), ("gt;".toList, ['>']),
    ("quot;".toList, ['"']), ("apos;".toList, ['\''])]
  isName := by decide
  short := by decide

def pageIn (directory : String) : Url where
  scheme := "file".toList
  authority := some { host := none }
  path := .segments [directory.toList, "pad.html".toList]

/-- A page whose host has a quote in its name. -/
def quotePage : Url where
  scheme := "web".toList
  authority := some { host := some (.domain "a\"b".toList) }
  path := .segments ["pad.html".toList]

/-- An ampersand alone does no harm. -/
theorem frame_in_ampersand_directory :
    Url.parse "file:///R&D/pad.html".toList = .ok (pageIn "R&D") ∧
    ∃ u, embedUrl Zlib.packer (pageIn "R&D") "pie" = .ok u ∧
      attribute? markupNames "src".toList (embedSnippet u).toList = some u.text := by
  have hread : Url.parse "file:///R&D/pad.html".toList = .ok (pageIn "R&D") := by decide +kernel
  refine ⟨hread, _, rfl, (frame_gives_link_iff markupNames hread rfl).mpr ⟨by simp [pageIn], ?_⟩⟩
  exact (by decide +kernel : Free (reference markupNames) "file:///R&D/embed.html".toList)

/-- An escaped ampersand in the name of a directory comes back as one that is not, and a quote in
the name of a host ends the link. -/
theorem frame_loses_link :
    (Url.parse "file:///a&amp;b/pad.html".toList = .ok (pageIn "a&amp;b") ∧
      ∃ u, embedUrl Zlib.packer (pageIn "a&amp;b") "pie" = .ok u ∧
        attribute? markupNames "src".toList (embedSnippet u).toList ≠ some u.text) ∧
    (Url.parse "web://a\"b/pad.html".toList = .ok quotePage ∧
      ∃ u, embedUrl Zlib.packer quotePage "pie" = .ok u ∧
        attribute? markupNames "src".toList (embedSnippet u).toList ≠ some u.text) := by
  refine ⟨⟨by decide +kernel, _, rfl, ?_⟩, by decide +kernel, _, rfl, ?_⟩
  · rw [Ne, attribute?_embedUrl_iff markupNames
      (rfl : embedUrl Zlib.packer (pageIn "a&amp;b") "pie" = _)]
    exact fun h =>
      (by decide +kernel : ¬ Free (reference markupNames) "file:///a&amp;b/embed.html".toList) h.2
  · rw [Ne, attribute?_embedUrl_iff markupNames (rfl : embedUrl Zlib.packer quotePage "pie" = _)]
    exact fun h => h.1 (by decide +kernel : '"' ∈ "web://a\"b/embed.html".toList)

end Link

end DiagramDesk
