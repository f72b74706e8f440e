import Mathlib.Data.List.Chain
import DiagramDesk.Svg.Markup
import DiagramDesk.Proofs.Text.Scan

/-!
References to remote files, described by their text. A reference holds one closing
parenthesis, its last character, and few characters can follow a blank or a quote in
it. So a text with another character behind a quote is touched by no reference.
-/
namespace DiagramDesk.Svg

open Text

/-- A reference to a remote file: blanks and quotes around a scheme and what follows it. -/
structure Reference where
  left : List Char
  opening : List Char
  scheme : List Char
  address : List Char
  closing : List Char
  right : List Char
  blank_left : ∀ c ∈ left, isBlank c = true
  opening_eq : opening = [] ∨ ∃ c, opening = [c] ∧ isQuote c = true
  scheme_eq : scheme = "https://".toList ∨ scheme = "http://".toList
  address_ne : address ≠ []
  isAddressChar_address : ∀ c ∈ address, isAddressChar c = true
  closing_eq : closing = [] ∨ ∃ c, closing = [c] ∧ isQuote c = true
  blank_right : ∀ c ∈ right, isBlank c = true

def referenceStart : List Char := "url(".toList

theorem dropQuote_append {q s : List Char} (hq : q = [] ∨ ∃ c, q = [c] ∧ isQuote c = true)
    (hs : ∀ c ∈ s.head?, isQuote c = false) : dropQuote (q ++ s) = s := by
  obtain rfl | ⟨c, rfl, hc⟩ := hq
  · cases s with
    | nil => rfl
    | cons d s => simp [dropQuote, hs d (by simp)]
  · simp [dropQuote, hc]

theorem exists_dropQuote (s : List Char) :
    ∃ q, s = q ++ dropQuote s ∧ (q = [] ∨ ∃ c, q = [c] ∧ isQuote c = true) := by
  cases s with
  | nil => exact ⟨[], rfl, .inl rfl⟩
  | cons c s =>
    by_cases hc : isQuote c = true
    · exact ⟨[c], by simp [dropQuote, hc], .inr ⟨c, rfl, hc⟩⟩
    · exact ⟨[], by simp [dropQuote, hc], .inl rfl⟩

theorem remoteScheme?_append {scheme : List Char} (rest : List Char)
    (h : scheme = "https://".toList ∨ scheme = "http://".toList) :
    remoteScheme? (scheme ++ rest) = some (scheme, rest) := by
  obtain rfl | rfl := h
  · rfl
  · rfl

theorem exists_remoteScheme {s scheme rest : List Char}
    (h : remoteScheme? s = some (scheme, rest)) :
    s = scheme ++ rest ∧ (scheme = "https://".toList ∨ scheme = "http://".toList) := by
  obtain ⟨word, hword, he⟩ := List.exists_of_findSome?_eq_some h
  obtain ⟨_, hafter, he⟩ := Option.map_eq_some_iff.mp he
  cases he
  have hs := after?_eq_some _ _ _ hafter
  simp only [List.mem_cons, List.not_mem_nil, or_false] at hword
  obtain rfl | rfl := hword
  · exact ⟨hs, .inl rfl⟩
  · exact ⟨hs, .inr rfl⟩

theorem head_append_of {q s : List Char} {P : Char → Prop} (hq : ∀ c ∈ q, P c)
    (hs : ∀ c ∈ s.head?, P c) : ∀ c ∈ (q ++ s).head?, P c := by
  cases q with
  | nil => simpa using hs
  | cons d q =>
    intro c hc
    rw [List.cons_append, List.head?_cons, Option.mem_some_iff] at hc
    exact hq c (by simp [hc])

theorem isBlank_of_isQuote {c : Char} (h : isQuote c = true) : isBlank c = false := by
  rw [isQuote, Bool.or_eq_true, beq_iff_eq, beq_iff_eq] at h
  obtain rfl | h := h
  · decide
  · simp [isBlank, h]

theorem isQuote_of_isBlank {c : Char} (h : isBlank c = true) : isQuote c = false := by
  by_contra hq
  rw [isBlank_of_isQuote (Bool.not_eq_false _ ▸ hq)] at h
  cases h

namespace Reference

variable (r : Reference)

theorem isQuote_opening : ∀ c ∈ r.opening, isQuote c = true := by
  obtain h | ⟨d, h, hd⟩ := r.opening_eq
  · simp [h]
  · simpa [h] using hd

theorem isQuote_closing : ∀ c ∈ r.closing, isQuote c = true := by
  obtain h | ⟨d, h, hd⟩ := r.closing_eq
  · simp [h]
  · simpa [h] using hd

/-- The reference from the end of its address on. -/
def tail : List Char := r.closing ++ r.right ++ [')']

def target : List Char := r.scheme ++ r.address ++ r.tail

def text : List Char := referenceStart ++ r.left ++ r.opening ++ r.target

theorem remoteReference_eq (s : List Char) :
    remoteReference s = (after? referenceStart s).bind fun rest =>
      (remoteScheme? (dropQuote (rest.dropWhile isBlank))).bind fun x =>
        if (x.2.takeWhile isAddressChar).isEmpty = true then none
        else match (dropQuote (x.2.dropWhile isAddressChar)).dropWhile isBlank with
          | ')' :: behind => some (x.1 ++ x.2.takeWhile isAddressChar, s.length - behind.length)
          | _ => none := rfl

theorem remoteReference_text (w : List Char) :
    remoteReference (r.text ++ w) = some (r.scheme ++ r.address, r.text.length) := by
  have hscheme (v : List Char) : ∀ c ∈ (r.scheme ++ v).head?, c = 'h' := by
    obtain h | h := r.scheme_eq <;> simp [h]
  have hclose : ∀ c ∈ (')' :: w).head?, c = ')' := by simp
  have hparen : ∀ c ∈ (')' :: w).head?, isBlank c = false := by
    intro c hc
    rw [hclose c hc]
    decide
  have hblank : ∀ c ∈ (r.opening ++ (r.target ++ w)).head?, isBlank c = false := by
    rw [target, List.append_assoc, List.append_assoc]
    refine head_append_of (fun c hc => isBlank_of_isQuote (r.isQuote_opening c hc)) fun c hc => ?_
    rw [hscheme _ c hc]
    decide
  have hquote : ∀ c ∈ (r.target ++ w).head?, isQuote c = false := by
    rw [target, List.append_assoc, List.append_assoc]
    intro c hc
    rw [hscheme _ c hc]
    decide
  have hright : ∀ c ∈ (r.right ++ ')' :: w).head?, isQuote c = false := by
    refine head_append_of (fun c hc => isQuote_of_isBlank (r.blank_right c hc)) fun c hc => ?_
    rw [hclose c hc]
    decide
  have hend : ∀ c ∈ (r.closing ++ (r.right ++ ')' :: w)).head?, isAddressChar c = false := by
    refine head_append_of (fun c hc => ?_) (head_append_of (fun c hc => ?_) fun c hc => ?_)
    · simp [isAddressChar, r.isQuote_closing c hc]
    · simp [isAddressChar, r.blank_right c hc]
    · rw [hclose c hc]
      decide
  have htext : r.text ++ w = referenceStart ++ (r.left ++ (r.opening ++ (r.target ++ w))) := by
    simp only [text, List.append_assoc]
  have htarget : r.target ++ w =
      r.scheme ++ (r.address ++ (r.closing ++ (r.right ++ ')' :: w))) := by
    simp only [target, tail, List.append_assoc, List.singleton_append]
  rw [remoteReference_eq, htext, after?_append, Option.bind_some,
    dropWhile_append_of_head r.blank_left hblank, dropQuote_append r.opening_eq hquote, htarget,
    remoteScheme?_append _ r.scheme_eq, Option.bind_some,
    takeWhile_append_of_head r.isAddressChar_address hend,
    dropWhile_append_of_head r.isAddressChar_address hend, dropQuote_append r.closing_eq hright,
    dropWhile_append_of_head r.blank_right hparen, if_neg (by simpa using r.address_ne)]
  have hlength : (r.text ++ w).length - w.length = r.text.length := by simp
  rw [htext, htarget] at hlength
  exact congrArg (fun n => some (r.scheme ++ r.address, n)) hlength

end Reference

theorem exists_reference {s a : List Char} {n : Nat} (h : remoteReference s = some (a, n)) :
    ∃ (r : Reference) (w : List Char),
      s = r.text ++ w ∧ r.text.length = n ∧ a = r.scheme ++ r.address := by
  rw [Reference.remoteReference_eq] at h
  obtain ⟨rest, hstart, hm⟩ := Option.bind_eq_some_iff.mp h
  obtain ⟨⟨scheme, remote⟩, hscheme, hm⟩ := Option.bind_eq_some_iff.mp hm
  split at hm
  case isTrue => cases hm
  case isFalse hne =>
    split at hm
    case h_2 => cases hm
    case h_1 behind hbehind =>
      cases hm
      obtain ⟨opening, hopening, hopening_eq⟩ := exists_dropQuote (rest.dropWhile isBlank)
      obtain ⟨hremote, hscheme_eq⟩ := exists_remoteScheme hscheme
      obtain ⟨closing, hclosing, hclosing_eq⟩ := exists_dropQuote (remote.dropWhile isAddressChar)
      have hleft := List.takeWhile_append_dropWhile (p := isBlank) (l := rest)
      have haddress := List.takeWhile_append_dropWhile (p := isAddressChar) (l := remote)
      have hright := List.takeWhile_append_dropWhile (p := isBlank)
        (l := dropQuote (remote.dropWhile isAddressChar))
      let r : Reference := {
        left := rest.takeWhile isBlank
        opening
        scheme
        address := remote.takeWhile isAddressChar
        closing
        right := (dropQuote (remote.dropWhile isAddressChar)).takeWhile isBlank
        blank_left := fun c hc => List.mem_takeWhile_imp hc
        opening_eq := hopening_eq
        scheme_eq := hscheme_eq
        address_ne := by simpa using hne
        isAddressChar_address := fun c hc => List.mem_takeWhile_imp hc
        closing_eq := hclosing_eq
        blank_right := fun c hc => List.mem_takeWhile_imp hc }
      have hs : s = r.text ++ behind := by
        rw [after?_eq_some _ _ _ hstart, ← hleft, hopening, hremote, ← haddress, hclosing, ← hright,
          hbehind]
        simp only [r, Reference.text, Reference.target, Reference.tail, List.append_assoc,
          List.singleton_append]
      refine ⟨r, behind, hs, ?_, rfl⟩
      rw [hs, List.length_append, Nat.add_sub_cancel]

theorem remoteReference_local : Pattern.Local remoteReference := by
  refine .of_iff (T := fun v a => ∃ r : Reference, r.text = v ∧ a = r.scheme ++ r.address) ?_ ?_
  · rintro v a ⟨r, rfl, -⟩
    exact List.cons_ne_nil _ _
  · intro s a n
    constructor
    · intro h
      obtain ⟨r, w, rfl, rfl, rfl⟩ := exists_reference h
      exact ⟨r.text, w, rfl, rfl, r, rfl, rfl⟩
    · rintro ⟨v, w, rfl, rfl, r, rfl, rfl⟩
      exact r.remoteReference_text w

/-! ### What no reference touches -/

def follows (c : Char) : Bool := isBlank c || isQuote c || c == 'h' || c == ')'

/-- What a blank or a quote asks of the character behind it. -/
def Follows (c d : Char) : Prop := isBlank c = true ∨ isQuote c = true → follows d = true

theorem chain_follows {l s : List Char} (hl : ∀ c ∈ l, follows c = true)
    (hhead : ∀ c ∈ s.head?, follows c = true) (hs : s.IsChain Follows) :
    (l ++ s).IsChain Follows := by
  induction l with
  | nil => exact hs
  | cons c l ih =>
    rw [List.forall_mem_cons] at hl
    exact List.isChain_cons.mpr ⟨fun d hd _ => head_append_of hl.2 hhead d hd, ih hl.2⟩

/-- Neither a blank nor a quote. -/
def isPlain (c : Char) : Bool := !isBlank c && !isQuote c

theorem chain_plain {l s : List Char} (hl : l.all isPlain = true) (hs : s.IsChain Follows) :
    (l ++ s).IsChain Follows := by
  induction l with
  | nil => exact hs
  | cons c l ih =>
    simp only [List.all_cons, isPlain, Bool.and_eq_true, Bool.not_eq_true'] at hl
    refine List.isChain_cons.mpr ⟨fun d _ hc => ?_, ih hl.2⟩
    simp [hl.1.1, hl.1.2] at hc

namespace Reference

variable (r : Reference)

/-- The only closing parenthesis of a reference is its last character. -/
theorem exists_text_eq : ∃ front, r.text = front ++ [')'] ∧ ')' ∉ front := by
  refine ⟨referenceStart ++ r.left ++ r.opening ++ (r.scheme ++ r.address ++
    (r.closing ++ r.right)), ?_, ?_⟩
  · simp only [text, target, tail, List.append_assoc]
  · have hblank : isBlank ')' = false := by decide
    have hquote : isQuote ')' = false := by decide
    have haddress : isAddressChar ')' = false := by decide
    have hscheme : ')' ∉ r.scheme := by
      obtain h | h := r.scheme_eq <;> rw [h] <;> decide
    have hstart : ')' ∉ referenceStart := by decide
    have hnot {l : List Char} {f : Char → Bool} (hl : ∀ c ∈ l, f c = true)
        (hf : f ')' = false) : ')' ∉ l := fun h => by simp [hl _ h] at hf
    simp only [List.mem_append, not_or]
    exact ⟨⟨⟨hstart, hnot r.blank_left hblank⟩, hnot r.isQuote_opening hquote⟩,
      ⟨hscheme, hnot r.isAddressChar_address haddress⟩,
      hnot r.isQuote_closing hquote, hnot r.blank_right hblank⟩

/-- Behind a blank or a quote in a reference comes one of few characters. -/
theorem chain_text : r.text.IsChain Follows := by
  have hfollows_blank {l : List Char} (h : ∀ c ∈ l, isBlank c = true) :
      ∀ c ∈ l, follows c = true := fun c hc => by simp [follows, h c hc]
  have hfollows_quote {l : List Char} (h : ∀ c ∈ l, isQuote c = true) :
      ∀ c ∈ l, follows c = true := fun c hc => by simp [follows, h c hc]
  have hscheme (s : List Char) : ∀ c ∈ (r.scheme ++ s).head?, follows c = true := by
    obtain h | h := r.scheme_eq <;> simp [h, follows]
  have hplain : r.scheme.all isPlain = true := by
    obtain h | h := r.scheme_eq <;> rw [h] <;> decide
  have hstart : referenceStart.all isPlain = true := by decide
  have hparen : ∀ c ∈ [')'].head?, follows c = true := by simp [follows]
  have haddress : r.address.all isPlain = true := by
    rw [List.all_eq_true]
    intro c hc
    have h := r.isAddressChar_address c hc
    simp only [isAddressChar, Bool.not_eq_true', Bool.or_eq_false_iff] at h
    simp [isPlain, h.2, h.1.1]
  have hright := chain_follows (hfollows_blank r.blank_right) hparen (List.isChain_singleton _)
  have hclosing := chain_follows (hfollows_quote r.isQuote_closing)
    (head_append_of (hfollows_blank r.blank_right) hparen) hright
  have htarget := chain_plain hplain (chain_plain haddress hclosing)
  have hopening := chain_follows (hfollows_quote r.isQuote_opening) (hscheme _) htarget
  have hleft := chain_follows (hfollows_blank r.blank_left)
    (head_append_of (hfollows_quote r.isQuote_opening) (hscheme _)) hopening
  have htext := chain_plain hstart hleft
  simpa only [text, target, tail, List.append_assoc] using htext

end Reference

/-- A reference that begins ahead of a text with an unfit character behind a blank or a quote ends
ahead of it too. -/
theorem reference_stops (front : List Char) {v w a : List Char} {c d : Char} {n : Nat}
    (hfront : ')' ∉ front ++ [c]) (hc : isBlank c = true ∨ isQuote c = true)
    (hd : follows d = false)
    (h : remoteReference (v ++ (front ++ c :: d :: w)) = some (a, n)) : n ≤ v.length := by
  obtain ⟨r, x, hs, rfl, -⟩ := exists_reference h
  have hv : v <+: r.text ++ x := hs ▸ List.prefix_append v _
  obtain hle | ⟨y, hy⟩ := List.prefix_or_prefix_of_prefix (List.prefix_append r.text x) hv
  · exact hle.length_le
  by_contra hlt
  rw [← hy, List.length_append, Nat.not_le, Nat.lt_add_right_iff_pos, List.length_pos_iff] at hlt
  have hparen : ')' ∈ y := by
    obtain ⟨g, hg, -⟩ := r.exists_text_eq
    rw [← hy, List.append_eq_append_iff] at hg
    obtain ⟨z, -, rfl⟩ | ⟨z, -, hz⟩ := hg
    · simp
    · cases z with
      | nil =>
        have hy' : [')'] = y := hz
        simp [← hy']
      | cons e z => exact absurd (List.append_eq_nil_iff.mp (List.cons.inj hz).2.symm).2 hlt
  have hassoc : front ++ c :: d :: w = (front ++ [c]) ++ d :: w := by simp
  rw [← hy, List.append_assoc, List.append_cancel_left_eq, hassoc, List.append_eq_append_iff] at hs
  obtain ⟨z, rfl, hz⟩ | ⟨z, hz, -⟩ := hs
  · cases z with
    | nil => exact hfront (by simpa using hparen)
    | cons e z =>
      -- The reference goes on behind the blank or the quote.
      rw [List.cons_append, List.cons.injEq] at hz
      have hchain := r.chain_text
      rw [← hy] at hchain
      have hpair := hchain.right_of_append
      rw [List.append_assoc, List.singleton_append] at hpair
      have hcd := (List.isChain_append_cons_cons.mp hpair).2.1 hc
      rw [← hz.1, hd] at hcd
      cases hcd
  · exact hfront (by rw [hz]; simp [hparen])

/-- A text without opening parenthesis, with a character that opens no reference, is not the
beginning of one. -/
theorem remoteReference_eq_none {v : List Char} {c : Char} (hc : c ∈ v)
    (hstart : c ∉ referenceStart) (hparen : '(' ∉ v) (w : List Char) : remoteReference (v ++ w) = none := by
  cases h : remoteReference (v ++ w) with
  | none => rfl
  | some m =>
    obtain ⟨r, x, hs, -⟩ := exists_reference h
    have hpre : referenceStart <+: v ++ w := by
      rw [hs, Reference.text, List.append_assoc, List.append_assoc, List.append_assoc]
      exact List.prefix_append _ _
    obtain hv | hv := List.prefix_or_prefix_of_prefix hpre (List.prefix_append v w)
    · exact absurd (hv.subset (by decide)) hparen
    · exact absurd (hv.subset hc) hstart

theorem remoteReference_cons_eq_none {c : Char} (hc : c ≠ 'u') (s : List Char) :
    remoteReference (c :: s) = none := by
  have hnone : after? referenceStart (c :: s) = none := if_neg hc.symm
  rw [Reference.remoteReference_eq, hnone, Option.bind_none]

end DiagramDesk.Svg
