import DiagramDesk.Share.Link
import DiagramDesk.Proofs.Share.Token
import DiagramDesk.Proofs.Url.Parse

/-!
Share links. A link is the page it was made for with another fragment and without
the sources in its query, so the reader that looks into the query first finds
none there and takes the token. Whether the source then comes back is up to the
token: it does if it fits the room of its stream.
-/
namespace DiagramDesk.Link

open Text

/-! ### The page of a link -/

/-- The pairs of a query other than sources. -/
def otherPairs (u : Url) : List Url.Pair := u.pairs.filter fun p => p.1 ≠ codeName

theorem dropCode_eq (u : Url) :
    dropCode u = if (otherPairs u).isEmpty then u.dropQuery else u.withPairs (otherPairs u) := rfl

/-- A link to a page: the URLs agree up to the query, and in the query of the link stand the pairs
that are no sources, in their order. -/
structure SamePage (base link : Url) : Prop where
  scheme : link.scheme = base.scheme
  authority : link.authority = base.authority
  path : link.path = base.path
  pairs : link.pairs = otherPairs base

def streamUrl (base : Url) (stream : List UInt8) : Url :=
  (dropCode base).withFragment (Base64.encode .urlSafe stream)

theorem fragmentOf_eq (z : Zlib.Compressor) (source : String) :
    fragmentOf z source = Base64.encode .urlSafe (z.compress (utf8 source.toList)) :=
  String.toList_ofList

theorem shareUrl_eq (z : Zlib.Compressor) (base : Url) (source : String) :
    shareUrl z base source = streamUrl base (z.compress (utf8 source.toList)) := by
  rw [shareUrl, streamUrl, fragmentOf_eq]

theorem escapes_symbol :
    ∀ v < 64, Url.Part.fragment.escapes (Base64.symbol .urlSafe v) = false := by decide

theorem isBlank_symbol : ∀ v < 64, isBlank (Base64.symbol .urlSafe v) = false := by decide

theorem escapes_of_mem_encode (stream : List UInt8) :
    ∀ c ∈ Base64.encode .urlSafe stream, Url.Part.fragment.escapes c = false := by
  intro c hc
  obtain ⟨v, hv, rfl⟩ := List.mem_map.mp hc
  exact escapes_symbol v (Base64.sextets_lt stream v hv)

/-- A stream needs no escapes in a fragment. -/
theorem fragment_streamUrl (base : Url) (stream : List UInt8) :
    (streamUrl base stream).fragment = some (Base64.encode .urlSafe stream) :=
  congrArg some (Url.escape_eq_self (escapes_of_mem_encode stream))

/-- What is written of pairs needs no escapes. -/
theorem escapes_of_isPairMark {c : Char} (h : Url.isPairMark c = true) :
    Url.Part.specialQuery.escapes c = false := by
  have hascii : c.toNat < 128 := by
    simp only [Url.isPairMark, Url.isFormMark, Bool.or_eq_true, beq_iff_eq] at h
    obtain ((h | h) | rfl) | rfl := h
    · exact Url.lt_of_isAlphanum h
    · simp only [List.contains_eq_mem, decide_eq_true_eq, List.mem_cons, List.not_mem_nil,
        or_false] at h
      obtain rfl | rfl | rfl | rfl | rfl | rfl := h <;> decide
    all_goals decide
  exact forall_ascii
    (P := fun c => Url.isPairMark c = true → Url.Part.specialQuery.escapes c = false)
    (by decide) c hascii h

/-- The query is gone if nothing but sources was in it, else it is written anew. -/
theorem streamUrl_cases (base : Url) (stream : List UInt8) (hpath : base.path.Inner) :
    ∃ query, streamUrl base stream =
        { base with query, fragment := some (Base64.encode .urlSafe stream) } ∧
      Url.formPairs (query.getD []) = otherPairs base ∧
      ∀ q ∈ query, ∀ c ∈ q, Url.Part.specialQuery.escapes c = false := by
  have hfragment := Url.escape_eq_self (escapes_of_mem_encode stream)
  obtain ⟨names, hnames, -⟩ := hpath
  cases hkept : (otherPairs base).isEmpty with
  | true =>
    refine ⟨none, ?_, ?_, by simp⟩
    · simp [streamUrl, dropCode_eq, hkept, Url.dropQuery, Url.settle, hnames, Url.withFragment,
        hfragment]
    · rw [List.isEmpty_iff.mp hkept]
      rfl
  | false =>
    refine ⟨some (Url.formText (otherPairs base)), ?_, Url.formPairs_formText _, ?_⟩
    · simp [streamUrl, dropCode_eq, hkept, Url.withPairs, Url.withFragment, hfragment]
    · intro q hq c hc
      obtain rfl := Option.some.inj hq
      exact escapes_of_isPairMark (Url.isPairMark_of_mem_formText _ c hc)

theorem opens_cases {u : Url} (h : opens u = true) :
    u.scheme = "http".toList ∨ u.scheme = "https".toList ∨ u.scheme = "file".toList := by
  have htext {name : String} (hn : String.ofList u.scheme = name) : u.scheme = name.toList := by
    rw [← hn, String.toList_ofList]
  simp only [opens, List.contains_eq_mem, decide_eq_true_eq, List.mem_cons, List.not_mem_nil,
    or_false] at h
  exact h.imp htext (.imp htext htext)

theorem isKnown_of_opens {u : Url} (h : opens u = true) :
    (Url.SchemeKind.of u.scheme).isKnown = true := by
  obtain hs | hs | hs := opens_cases h <;> rw [hs] <;> rfl

section

variable {base : Url} {stream : List UInt8} (hread : Url.parse base.text = .ok base)
  (hopens : opens base = true)

include hread hopens

theorem samePage_streamUrl : SamePage base (streamUrl base stream) := by
  have hpath := (Url.clean_of_parse hread (isKnown_of_opens hopens)).2.2
  obtain ⟨query, hlink, hpairs, -⟩ := streamUrl_cases base stream hpath
  rw [hlink]
  exact ⟨rfl, rfl, rfl, hpairs⟩

/-- A link is read from its text. -/
theorem parse_streamUrl : Url.parse (streamUrl base stream).text = .ok (streamUrl base stream) := by
  have hknown := isKnown_of_opens hopens
  obtain ⟨query, hlink, -, hquery⟩ :=
    streamUrl_cases base stream (Url.clean_of_parse hread hknown).2.2
  rw [hlink]
  refine Url.parse_replaced hread hknown hquery fun f hf => ?_
  obtain rfl := Option.some.inj hf
  exact escapes_of_mem_encode stream

/-- No blank stands at either end of a link. -/
theorem trim_streamUrl (hne : stream ≠ []) :
    trim (streamUrl base stream).text = (streamUrl base stream).text := by
  obtain ⟨c, more, hscheme, hc⟩ :
      ∃ c more, base.scheme = c :: more ∧ isBlank c = false := by
    obtain hs | hs | hs := opens_cases hopens
    · exact ⟨'h', "ttp".toList, hs, by decide⟩
    · exact ⟨'h', "ttps".toList, hs, by decide⟩
    · exact ⟨'f', "ile".toList, hs, by decide⟩
  obtain ⟨front, d, hfragment⟩ : ∃ front d, Base64.encode .urlSafe stream = front ++ [d] := by
    obtain hnil | ⟨front, d, h⟩ := List.eq_nil_or_concat (Base64.encode .urlSafe stream)
    · exact absurd hnil (Token.encode_ne_nil stream hne)
    · exact ⟨front, d, by rw [h, List.concat_eq_append]⟩
  have hd : isBlank d = false := by
    obtain ⟨v, hv, hsymbol⟩ := List.mem_map.mp (hfragment ▸ List.mem_append_right front
      List.mem_cons_self : d ∈ Base64.encode .urlSafe stream)
    rw [← hsymbol]
    exact isBlank_symbol v (Base64.sextets_lt stream v hv)
  obtain ⟨tail, hstem⟩ : ∃ tail, (streamUrl base stream).stem = c :: tail :=
    ⟨_, by rw [Url.stem, (samePage_streamUrl hread hopens).scheme, hscheme, List.cons_append]⟩
  have htext : (streamUrl base stream).text =
      c :: (tail ++ (((streamUrl base stream).query.map ('?' :: ·)).getD [] ++ '#' :: front)) ++
        [d] := by
    simp [Url.text, hstem, fragment_streamUrl, hfragment]
  rw [htext, trim_eq_self c d _ hc hd]

/-- No source is found in the query of a link. -/
theorem querySource_streamUrl : querySource (streamUrl base stream) = none := by
  have hnone : (otherPairs base).find? (fun p => p.1 = codeName) = none := by
    simp [otherPairs]
  rw [querySource, (samePage_streamUrl hread hopens).pairs, hnone]
  rfl

/-- A pasted link is read as its token. -/
theorem sourceOf_streamUrl (hne : stream ≠ []) :
    sourceOf (toString (streamUrl base stream)) =
      Token.decode (String.ofList (Base64.encode .urlSafe stream)) := by
  have hopens' : opens (streamUrl base stream) = true := by
    rw [opens, (samePage_streamUrl hread hopens).scheme]
    exact hopens
  have htext : (toString (streamUrl base stream)).toList = (streamUrl base stream).text :=
    String.toList_ofList
  simp only [sourceOf, htext, trim_streamUrl hread hopens hne, parse_streamUrl hread hopens,
    Except.toOption, Option.filter_some, hopens', if_true, querySource_streamUrl hread hopens,
    fragment_streamUrl, Option.getD_some]

end

/-! ### The source of a link -/

def size (source : String) : Nat := (utf8 source.toList).length

def room (z : Zlib.Compressor) (source : String) : Nat :=
  Zlib.room (z.compress (utf8 source.toList)).length

section

variable {z : Zlib.Compressor} {base : Url} {source : String}
  (hread : Url.parse base.text = .ok base) (hopens : opens base = true)

include hread hopens

theorem sourceOf_shareUrl :
    sourceOf (toString (shareUrl z base source)) =
      if size source ≤ room z source then .ok source else .error (.utf8 ⟨1, some 1⟩) := by
  rw [shareUrl_eq, sourceOf_streamUrl hread hopens (z.compress_ne_nil _)]
  exact Token.decode_encode_eq z source

end

def localPage : Url where
  scheme := "file".toList
  authority := some { host := none }
  path := .segments ["pad.html".toList]
  query := some "c%6fde=Zm9v&lang=zh".toList
  fragment := some "old".toList

theorem parse_localPage : Url.parse localPage.text = .ok localPage := by decide +kernel

theorem size_manyLetters : size Token.manyLetters = 500 := by
  rw [size, Token.utf8_manyLetters, List.length_replicate]

/-- The stream of twenty-two bytes makes room for less than a fifth of the letters. -/
theorem room_manyLetters : room Zlib.packer Token.manyLetters = 88 := by
  rw [room, Token.compress_manyLetters]
  rfl

end DiagramDesk.Link
