import DiagramDesk.Proofs.Share.Token

/-!
Tokens on their way from one program to another. The signs for the last two symbols of the
alphabet may be taken for each other, and padding and line breaks may come and go. All
of this is one relation between texts, and two texts are related exactly if they have
the same normal form, so that reading cannot tell them apart.
-/
namespace DiagramDesk.Token

open Text

/-! ### What may happen to a token -/

/-- The signs that stand for one symbol: those of either alphabet, and the space that a query
makes of a plus sign. -/
def spellings : List (List Char) := [['-', '+', ' '], ['_', '/']]

/-- Two signs for one symbol. -/
def Respelled (c d : Char) : Prop := ∃ signs ∈ spellings, c ∈ signs ∧ d ∈ signs

/-- What may stand anywhere in a token: padding, and every blank but the space. -/
def isFiller (c : Char) : Bool := c == '=' || (isBlank c && c != ' ')

/-- A token and what may arrive of it. -/
inductive Transported : List Char → List Char → Prop
  | nil : Transported [] []
  | keep (c : Char) {t u : List Char} : Transported t u → Transported (c :: t) (c :: u)
  | respell {c d : Char} {t u : List Char} :
      Respelled c d → Transported t u → Transported (c :: t) (d :: u)
  | insert {c : Char} {t u : List Char} :
      isFiller c = true → Transported t u → Transported t (c :: u)
  | delete {c : Char} {t u : List Char} :
      isFiller c = true → Transported t u → Transported (c :: t) u

/-! ### Normal forms -/

theorem normalizeChar_eq_none_iff (c : Char) : normalizeChar c = none ↔ isFiller c = true := by
  rw [normalizeChar, isFiller]
  by_cases hplus : c = '+' ∨ c = ' '
  · obtain rfl | rfl := hplus <;> decide
  · rw [if_neg hplus]
    rw [not_or] at hplus
    by_cases hslash : c = '/'
    · subst hslash
      decide
    · by_cases hpadding : c = '='
      · subst hpadding
        decide
      · simp [hslash, hplus.2, hpadding]

theorem normalizeChar_of_respelled {c d : Char} (h : Respelled c d) :
    normalizeChar c = normalizeChar d := by
  have hall : ∀ signs ∈ spellings, ∀ c ∈ signs, ∀ d ∈ signs,
      normalizeChar c = normalizeChar d := by
    have hdash : isBlank '-' = false := by decide
    have hlow : isBlank '_' = false := by decide
    simp [spellings, normalizeChar, hdash, hlow]
  obtain ⟨signs, hsigns, hc, hd⟩ := h
  exact hall signs hsigns c hc d hd

/-- The normal form of a sign is the sign itself or another one for the same symbol. -/
theorem respelled_of_normalizeChar {c e : Char} (h : normalizeChar c = some e) :
    c = e ∨ Respelled c e := by
  rw [normalizeChar] at h
  split at h
  · rename_i hc
    rw [Option.some.injEq] at h
    subst h
    exact .inr ⟨['-', '+', ' '], by decide, by simpa using .inr hc, by decide⟩
  · split at h
    · rename_i hc
      rw [Option.some.injEq] at h
      subst h hc
      exact .inr ⟨['_', '/'], by decide, by decide, by decide⟩
    · split at h
      · cases h
      · exact .inl (Option.some.inj h)

theorem Respelled.symm {c d : Char} (h : Respelled c d) : Respelled d c := by
  obtain ⟨signs, hsigns, hc, hd⟩ := h
  exact ⟨signs, hsigns, hd, hc⟩

/-- No sign stands for two symbols. -/
theorem Respelled.trans {c d e : Char} (h : Respelled c d) (h' : Respelled d e) :
    Respelled c e := by
  have hall : ∀ signs ∈ spellings, ∀ signs' ∈ spellings, ∀ d ∈ signs, d ∈ signs' →
      signs = signs' := by simp [spellings]
  obtain ⟨signs, hsigns, hc, hd⟩ := h
  obtain ⟨signs', hsigns', hd', he⟩ := h'
  obtain rfl := hall signs hsigns signs' hsigns' d hd hd'
  exact ⟨signs, hsigns, hc, he⟩

theorem Transported.cons_of_normalizeChar {c d e : Char} {t u : List Char}
    (hc : normalizeChar c = some e) (hd : normalizeChar d = some e) (h : Transported t u) :
    Transported (c :: t) (d :: u) := by
  obtain rfl | hce := respelled_of_normalizeChar hc
  · obtain rfl | hdc := respelled_of_normalizeChar hd
    · exact .keep d h
    · exact .respell hdc.symm h
  · obtain rfl | hde := respelled_of_normalizeChar hd
    · exact .respell hce h
    · exact .respell (hce.trans hde.symm) h

theorem Transported.insert_all {fillers t u : List Char}
    (hfillers : ∀ c ∈ fillers, isFiller c = true) (h : Transported t u) : Transported t (fillers ++ u) := by
  induction fillers with
  | nil => exact h
  | cons c fillers ih =>
    rw [List.forall_mem_cons] at hfillers
    exact .insert hfillers.1 (ih hfillers.2)

theorem Transported.normalize_eq {t u : List Char} (h : Transported t u) :
    normalize t = normalize u := by
  induction h with
  | nil => rfl
  | keep c h ih =>
    rw [normalize, normalize] at ih ⊢
    rw [List.filterMap_cons, List.filterMap_cons, ih]
  | respell hcd h ih =>
    rw [normalize, normalize] at ih ⊢
    rw [List.filterMap_cons, List.filterMap_cons, normalizeChar_of_respelled hcd, ih]
  | insert hc h ih =>
    rw [ih, normalize, normalize,
      List.filterMap_cons_none ((normalizeChar_eq_none_iff _).mpr hc)]
  | delete hc h ih =>
    rw [← ih, normalize, normalize,
      List.filterMap_cons_none ((normalizeChar_eq_none_iff _).mpr hc)]

/-- A text may arrive as another one exactly if both have the same normal form. -/
theorem transported_iff (t u : List Char) : Transported t u ↔ normalize t = normalize u := by
  refine ⟨Transported.normalize_eq, fun h => ?_⟩
  induction t generalizing u with
  | nil =>
    have hfillers : ∀ c ∈ u, isFiller c = true := fun c hc =>
      (normalizeChar_eq_none_iff c).mp (List.filterMap_eq_nil_iff.mp h.symm c hc)
    simpa using Transported.nil.insert_all hfillers
  | cons c t ih =>
    cases hc : normalizeChar c with
    | none =>
      rw [normalize, List.filterMap_cons_none hc] at h
      exact .delete ((normalizeChar_eq_none_iff c).mp hc) (ih u h)
    | some e =>
      rw [normalize, List.filterMap_cons_some hc] at h
      obtain ⟨fillers, d, rest, rfl, hfillers, hd, hrest⟩ := List.filterMap_eq_cons_iff.mp h.symm
      have hkept := Transported.cons_of_normalizeChar hc hd (ih rest hrest.symm)
      refine hkept.insert_all fun c hc => ?_
      exact (normalizeChar_eq_none_iff c).mp (hfillers c hc)

/-! ### Plain tokens -/

/-- A plain token differs from the token of its bytes by its alphabet and its padding only. -/
theorem normalize_encodePadded (alphabet : Base64.Alphabet) (bytes : List UInt8) :
    normalize (Base64.encodePadded alphabet bytes) = Base64.encode .urlSafe bytes := by
  have hpadding (n : Nat) : normalize (List.replicate n '=') = [] := by
    refine List.filterMap_eq_nil_iff.mpr fun c hc => ?_
    rw [List.eq_of_mem_replicate hc]
    decide
  rw [Base64.encodePadded, normalize_append, hpadding, List.append_nil, normalize_encode]

theorem decode_encodePlain (source : String) (hne : source ≠ "")
    (hstream : Zlib.decompress? (utf8 source.toList) = none) :
    decode (encodePlain source) = .ok source := by
  have hbytes : utf8 source.toList ≠ [] := fun h =>
    hne (String.toList_eq_nil_iff.mp (utf8_injective (t := []) h))
  have hsame : normalize (encodePlain source).toList =
      normalize (String.ofList (Base64.encode .urlSafe (utf8 source.toList))).toList := by
    rw [encodePlain, String.toList_ofList, String.toList_ofList, normalize_encodePadded,
      normalize_encode]
  have hexpand : Zlib.expand? (utf8 source.toList) = none := by
    rw [Zlib.expand?, hstream, Option.filter_none]
  rw [decode_congr hsame, decode_ofList_encode _ hbytes, hexpand, Option.getD_none, ofUtf8?_utf8]

/-- A plain token of a source whose bytes are not themselves a stream gives the source back. And
whatever happens to a token on its way, compressed or plain, it is read as if nothing had: signs of
either alphabet or spaces for each other, padding and other blanks that come and go. -/
theorem transported_reads_alike :
    (∀ source : String, source ≠ "" → Zlib.decompress? (utf8 source.toList) = none →
      decode (encodePlain source) = .ok source) ∧
    ∀ token arrived : String, Transported token.toList arrived.toList →
      decode arrived = decode token := by
  refine ⟨decode_encodePlain, fun token arrived h => ?_⟩
  have hnormal : normalize arrived.toList = normalize token.toList := h.normalize_eq.symm
  exact decode_congr hnormal

/-- A plain token whose plus signs went through a query and a mail. -/
theorem waves_read_alike :
    encodePlain "~~~>>>" = "fn5+Pj4+" ∧ decode "fn5 Pj\n4-\r\n=" = .ok "~~~>>>" := by
  have htoken : encodePlain "~~~>>>" = "fn5+Pj4+" := by decide
  have harrived : Transported "fn5+Pj4+".toList "fn5 Pj\n4-\r\n=".toList :=
    (transported_iff _ _).mpr (by decide)
  refine ⟨htoken, ?_⟩
  rw [transported_reads_alike.2 _ _ harrived, ← htoken]
  exact transported_reads_alike.1 "~~~>>>" (by decide) (by decide)

end DiagramDesk.Token
