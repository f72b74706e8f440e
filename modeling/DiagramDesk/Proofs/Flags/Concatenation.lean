import DiagramDesk.Proofs.Cli.Defaults

/-!
Tokens behind each other. Their flags are those of the first tokens merged with those of the
second, unless the first end in a choice whose value is still to come: that choice takes the token
behind it, which is then read as nothing else. So the flags of a run are those of one row of
tokens, from the defaults for all places to the command line.
-/
namespace DiagramDesk.Flags

/-- The choice whose value is still to come where some tokens end. -/
def waiting? : List String → Option Choice
  | [] => none
  | [t] => match Token.of t with
    | .opens c => some c
    | _ => none
  | t :: v :: rest => match Token.of t with
    | .opens _ => waiting? rest
    | _ => waiting? (v :: rest)

/-- The flags with what one token says. A choice whose value is the next token says nothing yet. -/
def hear (f : Flags) : Token → Flags
  | .switch s => f.turnOn s
  | .holds c value => f.choose c value
  | _ => f

/-! ### Reading step by step -/

section Steps

variable {f : Flags} {t v : String} {c : Choice} {rest : List String}

theorem scan_opens (h : Token.of t = .opens c) :
    f.scan (t :: v :: rest) = (f.choose c v).scan rest := by
  rw [scan, h]

theorem scan_lone (h : Token.of t = .opens c) : f.scan [t] = f := by
  rw [scan, h]

theorem scan_complete (h : ∀ c, Token.of t ≠ .opens c) :
    f.scan (t :: rest) = (f.hear (Token.of t)).scan rest := by
  cases ht : Token.of t with
  | opens c => exact absurd ht (h c)
  | switch s => cases rest <;> simp [scan, ht, hear]
  | holds c value => cases rest <;> simp [scan, ht, hear]
  | other => cases rest <;> simp [scan, ht, hear]

theorem waiting?_opens (h : Token.of t = .opens c) : waiting? (t :: v :: rest) = waiting? rest := by
  rw [waiting?, h]

theorem waiting?_lone (h : Token.of t = .opens c) : waiting? [t] = some c := by
  rw [waiting?, h]

theorem waiting?_complete (h : ∀ c, Token.of t ≠ .opens c) :
    waiting? (t :: rest) = waiting? rest := by
  cases ht : Token.of t with
  | opens c => exact absurd ht (h c)
  | switch s => cases rest <;> simp [waiting?, ht]
  | holds c value => cases rest <;> simp [waiting?, ht]
  | other => cases rest <;> simp [waiting?, ht]

end Steps

/-- Tokens as they are read: a choice takes the token behind it, and any other token is read on its
own. -/
theorem tokens_induction {motive : List String → Prop} (nil : motive [])
    (lone : ∀ t c, Token.of t = .opens c → motive [t])
    (opens : ∀ t c v rest, Token.of t = .opens c → motive rest → motive (t :: v :: rest))
    (complete : ∀ t rest, (∀ c, Token.of t ≠ .opens c) → motive rest → motive (t :: rest)) :
    ∀ tokens, motive tokens
  | [] => nil
  | [t] => by
    by_cases h : ∃ c, Token.of t = .opens c
    · obtain ⟨c, hc⟩ := h
      exact lone t c hc
    · exact complete t [] (not_exists.mp h) nil
  | t :: v :: rest => by
    by_cases h : ∃ c, Token.of t = .opens c
    · obtain ⟨c, hc⟩ := h
      exact opens t c v rest hc (tokens_induction nil lone opens complete rest)
    · exact complete t (v :: rest) (not_exists.mp h)
        (tokens_induction nil lone opens complete (v :: rest))

/-! ### Two rows of tokens -/

theorem hear_eq_merge (f : Flags) (token : Token) :
    f.hear token = f.merge (({} : Flags).hear token) := by
  cases token with
  | switch s => exact turnOn_eq_merge f s
  | holds c value => exact choose_eq_merge f c value
  | opens c => exact f.merge_empty.symm
  | other => exact f.merge_empty.symm

/-- Reading tokens into flags is merging these with what the tokens give by themselves. -/
theorem scan_eq_merge (f : Flags) (tokens : List String) :
    f.scan tokens = f.merge (ofTokens tokens) := by
  unfold ofTokens
  induction tokens using tokens_induction generalizing f with
  | nil => simp only [scan, merge_empty]
  | lone t c h => rw [scan_lone h, scan_lone h, merge_empty]
  | opens t c v rest h ih =>
    rw [scan_opens h, scan_opens h, ih, ih (choose {} c v), choose_eq_merge f, merge_assoc]
  | complete t rest h ih =>
    rw [scan_complete h, scan_complete h, ih, ih (hear {} _), hear_eq_merge f, merge_assoc]

theorem scan_append {a : List String} (f : Flags) (b : List String) (h : waiting? a = none) :
    f.scan (a ++ b) = (f.scan a).scan b := by
  induction a using tokens_induction generalizing f with
  | nil => simp only [scan, List.nil_append]
  | lone t c ht =>
    rw [waiting?_lone ht] at h
    cases h
  | opens t c v rest ht ih =>
    rw [waiting?_opens ht] at h
    rw [scan_opens ht, ← ih _ h]
    exact scan_opens ht
  | complete t rest ht ih =>
    rw [waiting?_complete ht] at h
    rw [scan_complete ht, ← ih _ h]
    exact scan_complete ht

/-- A choice that waits takes the first token of what stands behind. -/
theorem scan_append_cons {a : List String} {c : Choice} (f : Flags) (v : String) (b : List String)
    (h : waiting? a = some c) : f.scan (a ++ v :: b) = ((f.scan a).choose c v).scan b := by
  induction a using tokens_induction generalizing f with
  | nil => cases h
  | lone t d ht =>
    rw [waiting?_lone ht, Option.some.injEq] at h
    subst h
    rw [scan_lone ht]
    exact scan_opens ht
  | opens t d w rest ht ih =>
    rw [waiting?_opens ht] at h
    rw [scan_opens ht, ← ih _ h]
    exact scan_opens ht
  | complete t rest ht ih =>
    rw [waiting?_complete ht] at h
    rw [scan_complete ht, ← ih _ h]
    exact scan_complete ht

theorem ofTokens_append {a : List String} (b : List String) (h : waiting? a = none) :
    ofTokens (a ++ b) = (ofTokens a).merge (ofTokens b) := by
  rw [ofTokens, scan_append _ _ h, scan_eq_merge]
  rfl

theorem ofTokens_append_cons {a : List String} {c : Choice} (v : String) (b : List String)
    (h : waiting? a = some c) :
    ofTokens (a ++ v :: b) = ((ofTokens a).choose c v).merge (ofTokens b) := by
  rw [ofTokens, scan_append_cons _ _ _ h, scan_eq_merge]
  rfl

theorem look_choose (f : Flags) (c : Choice) (value : String) :
    (f.choose c value).look = f.look := by
  cases c <;> rfl

/-- A choice that waits hides a switch behind it. -/
theorem exists_hidden {a : List String} {c : Choice} (h : waiting? a = some c) :
    ∃ s : Switch, ofTokens (a ++ [s.word]) ≠ (ofTokens a).merge (ofTokens [s.word]) := by
  have hkept (s : Switch) : (ofTokens (a ++ [s.word])).look = (ofTokens a).look := by
    have hnone : ofTokens [] = {} := by rw [ofTokens, scan]
    rw [ofTokens_append_cons s.word [] h, hnone, merge_empty, look_choose]
  have hgiven (l : Look) : ((ofTokens a).merge (ofTokens [(lookSwitch l).word])).look = some l := by
    cases l <;> rfl
  -- The flags ahead have one look at most, and there are two switches for looks.
  by_contra hall
  simp only [not_exists, not_not] at hall
  have hlook (l : Look) : (ofTokens a).look = some l := by
    rw [← hkept (lookSwitch l), hall, hgiven]
  cases (hlook .handDrawn).symm.trans (hlook .classic)

/-- Tokens that leave no choice waiting, and only these, are read on their own whatever stands
behind them. -/
theorem ofTokens_append_iff (a : List String) :
    (∀ b, ofTokens (a ++ b) = (ofTokens a).merge (ofTokens b)) ↔ waiting? a = none := by
  constructor
  · intro h
    cases hwaiting : waiting? a with
    | none => rfl
    | some c =>
      obtain ⟨s, hs⟩ := exists_hidden hwaiting
      exact absurd (h [s.word]) hs
  · exact fun h b => ofTokens_append b h

/-! ### The sources of a run -/

/-- Flags are a monoid under merging, and reading respects it: tokens that leave no choice waiting,
and only these, can have others put behind them without a change to either. Merged in their order,
the flags for all places, those at hand and those that are given are what one row of all their
tokens gives, and a run that does not clear its defaults goes by them. -/
theorem tokens_merge :
    (∀ a, (∀ b, ofTokens (a ++ b) = (ofTokens a).merge (ofTokens b)) ↔ waiting? a = none) ∧
    (∀ f g h : Flags, (f.merge g).merge h = f.merge (g.merge h)) ∧
    (∀ f : Flags, ({} : Flags).merge f = f ∧ f.merge {} = f) ∧
    ∀ everywhere here given, waiting? everywhere = none → waiting? here = none →
      ((ofTokens everywhere).merge (ofTokens here)).merge (ofTokens given) =
        ofTokens (everywhere ++ here ++ given) ∧
      ∀ (i : Cli.Invocation) (path : String) (files : FileTree), i.clear = false →
        load files path = .ok (ofTokens everywhere) → load files localPath = .ok (ofTokens here) →
        i.flags = ofTokens given →
        Cli.flagsInForce i path files = .ok (ofTokens (everywhere ++ here ++ given)) := by
  refine ⟨ofTokens_append_iff, merge_assoc, fun f => ⟨empty_merge f, merge_empty f⟩, ?_⟩
  intro everywhere here given heverywhere hhere
  have hmerged : ((ofTokens everywhere).merge (ofTokens here)).merge (ofTokens given) =
      ofTokens (everywhere ++ here ++ given) := by
    rw [List.append_assoc, ofTokens_append _ heverywhere, ofTokens_append _ hhere, merge_assoc]
  refine ⟨hmerged, fun i path files hclear hpath hlocal hflags => ?_⟩
  rw [Cli.flagsInForce_of_not_clear hclear, Cli.layered, hpath, hlocal, hflags, ← hmerged]
  rfl

/-- Defaults for all places, and a file at hand. -/
def twoFiles : FileTree :=
  ⟨[(["config"], .file (.ofText "# mine\n--perf\n--theme neutral --scale x\n")),
    ([".mermaidpadrc"], .file (.ofText "--hand-font=caveat\n--seed 7\n"))]⟩

theorem twoFiles_in_one_row :
    let everywhere := ["--perf", "--theme", "neutral", "--scale", "x"]
    let here := ["--hand-font=caveat", "--seed", "7"]
    let given := ["--theme", "dark", "--scale"]
    let i : Cli.Invocation := ⟨.examples none, { theme := some .dark }, false, false⟩
    (waiting? everywhere = none ∧ waiting? here = none ∧ waiting? given = some .scale) ∧
    (load twoFiles "config" = .ok (ofTokens everywhere) ∧
      load twoFiles localPath = .ok (ofTokens here) ∧ i.flags = ofTokens given) ∧
    Cli.flagsInForce i "config" twoFiles = .ok (ofTokens (everywhere ++ here ++ given)) ∧
    ofTokens (everywhere ++ here ++ given) =
      { perf := true, theme := some .dark, handFont := some .caveat, seed := some 7 } := by
  intro everywhere here given i
  have heverywhere : waiting? everywhere = none := by decide +kernel
  have hhere : waiting? here = none := by decide +kernel
  have hpath : load twoFiles "config" = .ok (ofTokens everywhere) := by decide +kernel
  have hlocal : load twoFiles localPath = .ok (ofTokens here) := by decide +kernel
  have hflags : i.flags = ofTokens given := by decide +kernel
  obtain ⟨-, -, -, hrow⟩ := tokens_merge
  exact ⟨⟨heverywhere, hhere, by decide +kernel⟩, ⟨hpath, hlocal, hflags⟩,
    (hrow everywhere here given heverywhere hhere).2 i "config" twoFiles rfl hpath hlocal hflags,
    by decide +kernel⟩

end DiagramDesk.Flags
