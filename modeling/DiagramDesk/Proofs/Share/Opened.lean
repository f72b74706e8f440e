import DiagramDesk.Proofs.Share.Link
import DiagramDesk.Proofs.Url.Ends

/-!
Two readers of one link. A session that is started with a link looks into its query, then into its
fragment, and passes over whatever does not give a text; a pasted link is read as text again, and
its fragment counts as it is. Of a link that is read from its own text, both take the same source.
-/
namespace DiagramDesk.Link

open Text

/-! ### Candidates -/

theorem candidate_eq_some_iff {token : List Char} {text : String} :
    candidate token = some text ↔
      Token.decode (String.ofList token) = .ok text ∧ text ≠ "" := by
  unfold candidate
  cases Token.decode (String.ofList token) with
  | error fault => simp
  | ok found =>
    by_cases hempty : found = ""
    · subst hempty
      simp
    · simp only [String.isEmpty_iff, hempty, if_false, Option.some.injEq, Except.ok.injEq]
      exact ⟨fun he => ⟨he, he ▸ hempty⟩, And.left⟩

theorem candidate_nil : candidate [] = none := rfl

/-- A link without a fragment is as good as one whose fragment is empty. -/
theorem fragmentSource_eq (u : Url) : fragmentSource u = candidate (u.fragment.getD []) := by
  cases h : u.fragment with
  | none => simp [fragmentSource, h, candidate_nil]
  | some f => simp [fragmentSource, h]

/-! ### Readers -/

/-- The source that a link carries: the one in its query, or else the one in its fragment. -/
def carried (u : Url) : Option String := (querySource u).or (fragmentSource u)

/-- A session starts with the source of its link, if there is one. -/
theorem resolve_carried_iff (u : Url) (persisted : Option String) (text : String) :
    (∃ origin, (origin = .query ∨ origin = .fragment) ∧
      Initial.resolve (some u) persisted = ⟨text, origin⟩) ↔ carried u = some text := by
  unfold carried Initial.resolve
  cases hquery : querySource u with
  | some found => simp [hquery]
  | none =>
    cases hfragment : fragmentSource u with
    | some found => simp [hquery, hfragment]
    | none =>
      cases persisted.filter (fun text => !text.isEmpty) <;> simp [hquery, hfragment]

section

variable {u : Url} (hread : Url.parse u.text = .ok u) (hopens : opens u = true)

include hread hopens

/-- A pasted link is read as the link it is. -/
theorem sourceOf_text :
    sourceOf (toString u) = match querySource u with
      | some text => .ok text
      | none => Token.decode (String.ofList (u.fragment.getD [])) := by
  have htext : (toString u).toList = u.text := String.toList_ofList
  have hlink : (Url.parse (trim (toString u).toList)).toOption.filter opens = some u := by
    rw [htext, Url.trim_text hread (isKnown_of_opens hopens), hread, Except.toOption,
      Option.filter_some, if_pos hopens]
  cases hquery : querySource u <;> simp only [sourceOf, hlink, hquery]

theorem sourceOf_carried_iff {text : String} (hne : text ≠ "") :
    sourceOf (toString u) = .ok text ↔ carried u = some text := by
  rw [sourceOf_text hread hopens, carried, fragmentSource_eq]
  cases querySource u with
  | some found => simp
  | none => simp [candidate_eq_some_iff, hne]

end

/-- Of a link that is read from its own text, a text comes out when the link is pasted exactly if a
session that is started with the link begins with that text because of its query or its fragment,
whatever was kept from an earlier session. -/
theorem readers_agree (u : Url) (text : String) (hread : Url.parse u.text = .ok u)
    (hopens : opens u = true) (hne : text ≠ "") (persisted : Option String) :
    sourceOf (toString u) = .ok text ↔
      ∃ origin, (origin = .query ∨ origin = .fragment) ∧
        Initial.resolve (some u) persisted = ⟨text, origin⟩ := by
  rw [sourceOf_carried_iff hread hopens hne, resolve_carried_iff]

/-- A page whose query holds no source, so that its fragment counts. -/
def brokenQuery : Url where
  scheme := "file".toList
  authority := some { host := none }
  path := .segments ["pad.html".toList]
  query := some "code=!!".toList
  fragment := some "YmFy".toList

theorem brokenQuery_read_alike :
    Url.parse brokenQuery.text = .ok brokenQuery ∧ opens brokenQuery = true ∧
    sourceOf (toString brokenQuery) = .ok "bar" ∧
    Initial.resolve (some brokenQuery) none = ⟨"bar", .fragment⟩ := by
  have hread : Url.parse brokenQuery.text = .ok brokenQuery := by decide +kernel
  have hopens : opens brokenQuery = true := by decide +kernel
  have hinitial : Initial.resolve (some brokenQuery) none = ⟨"bar", .fragment⟩ := by decide +kernel
  refine ⟨hread, hopens, ?_, hinitial⟩
  exact (readers_agree brokenQuery "bar" hread hopens (by decide) none).mpr
    ⟨.fragment, .inr rfl, hinitial⟩

end DiagramDesk.Link
