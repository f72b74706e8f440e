import DiagramDesk.Proofs.Share.Opened
import DiagramDesk.Proofs.Share.Transport
import DiagramDesk.Proofs.Text.Lines
import DiagramDesk.Proofs.Text.Scan

/-!
Links with plain base64 in the query. A query that was written is read as the pairs it was written
of, so the plus signs, slashes and padding of the token arrive, and the token is found first. A
prompt ends in such a link, on a line of its own.
-/
namespace DiagramDesk.Link

open Text

/-! ### The query of a link -/

def plainQuery (source : String) : List Char :=
  Url.formText [(codeName, (Token.encodePlain source).toList)]

/-- The page with a source in its query and with a fragment, or without one. -/
def plainUrl (base : Url) (source : String) (fragment : Option (List Char)) : Url :=
  { base with query := some (plainQuery source), fragment }

theorem queryUrl_eq {base : Url} (hpath : base.path.Inner) (source : String) :
    queryUrl base source = plainUrl base source none := by
  obtain ⟨names, hnames, -⟩ := hpath
  simp [queryUrl, plainUrl, plainQuery, Url.dropFragment, Url.settle, hnames, Url.withPairs]

theorem escapes_of_mem_plainQuery (source : String) :
    ∀ c ∈ plainQuery source, Url.Part.specialQuery.escapes c = false :=
  fun c hc => escapes_of_isPairMark (Url.isPairMark_of_mem_formText _ c hc)

section

variable {base : Url} (hread : Url.parse base.text = .ok base) (hopens : opens base = true)
  (source : String) {fragment : Option (List Char)}
  (hfragment : ∀ f ∈ fragment, ∀ c ∈ f, Url.Part.fragment.escapes c = false)

include hread hopens hfragment

theorem parse_plainUrl : Url.parse (plainUrl base source fragment).text =
    .ok (plainUrl base source fragment) := by
  refine Url.parse_replaced hread (isKnown_of_opens hopens) ?_ hfragment
  intro q hq
  obtain rfl := Option.some.inj hq
  exact escapes_of_mem_plainQuery source

theorem lt_of_mem_plainUrl : ∀ c ∈ (plainUrl base source fragment).text, 0x20 < c.toNat :=
  (Url.clean_of_parse (parse_plainUrl hread hopens source hfragment)
    (isKnown_of_opens hopens)).1.lt_of_mem_text

end

section

variable {source : String} (hne : source ≠ "")
  (hplain : Zlib.decompress? (utf8 source.toList) = none)

include hne hplain

/-- Whatever else a link is made of, a query that was written for a source gives it back. -/
theorem querySource_plain {u : Url} (hquery : u.query = some (plainQuery source)) :
    querySource u = some source := by
  have hpairs : u.pairs = [(codeName, (Token.encodePlain source).toList)] := by
    rw [Url.pairs, hquery]
    exact Url.formPairs_formText _
  have htoken : candidate (Token.encodePlain source).toList = some source := by
    rw [candidate_eq_some_iff, String.ofList_toList]
    exact ⟨Token.decode_encodePlain source hne hplain, hne⟩
  simp [querySource, hpairs, htoken]

theorem resolve_plain {u : Url} (hquery : u.query = some (plainQuery source))
    (persisted : Option String) : Initial.resolve (some u) persisted = ⟨source, .query⟩ := by
  simp [Initial.resolve, querySource_plain hne hplain hquery]

theorem sourceOf_plainUrl {base : Url} {fragment : Option (List Char)}
    (hread : Url.parse base.text = .ok base) (hopens : opens base = true)
    (hfragment : ∀ f ∈ fragment, ∀ c ∈ f, Url.Part.fragment.escapes c = false) :
    sourceOf (toString (plainUrl base source fragment)) = .ok source := by
  rw [sourceOf_text (parse_plainUrl hread hopens source hfragment) hopens,
    querySource_plain hne hplain rfl]

end

/-! ### Prompts -/

def linkLabel : List Char := "Current diagram link: ".toList

def promptLink? (prompt : String) : Option String :=
  ((lines prompt.toList).getLast?.bind (after? linkLabel)).map String.ofList

/-- The last of several texts stands behind a separator. -/
theorem exists_intercalate (sep : String) {texts : List String} {last : String}
    (hlast : texts.getLast? = some last) (hlength : 2 ≤ texts.length) :
    ∃ front, sep.intercalate texts = front ++ sep ++ last := by
  induction texts with
  | nil => cases hlast
  | cons text texts ih =>
    cases texts with
    | nil => simp at hlength
    | cons next texts =>
      rw [String.intercalate_cons_cons]
      cases texts with
      | nil =>
        obtain rfl : next = last := by simpa using hlast
        exact ⟨text, by simp⟩
      | cons more texts =>
        obtain ⟨front, hfront⟩ := ih (by simpa using hlast) (by simp)
        exact ⟨text ++ sep ++ front, by rw [hfront]; simp only [String.append_assoc]⟩

theorem exists_prompt (base : Url) (source : String) :
    ∃ front, (assistantPrompt base source).toList =
      front ++ '\n' :: (linkLabel ++ (queryUrl base source).text) := by
  have hlink : (toString (queryUrl base source)).toList = (queryUrl base source).text :=
    String.toList_ofList
  have hprompt : ∃ front, assistantPrompt base source =
      front ++ "\n" ++ ("Current diagram link: " ++ toString (queryUrl base source)) :=
    exists_intercalate "\n" rfl (by simp)
  obtain ⟨front, hfront⟩ := hprompt
  refine ⟨front.toList, ?_⟩
  rw [hfront, String.toList_append, String.toList_append, String.toList_append, hlink,
    List.append_assoc]
  rfl

/-- No line ends within a link that was read. -/
theorem promptLink?_assistantPrompt {base : Url} {source : String}
    (hlink : ∀ c ∈ (queryUrl base source).text, 0x20 < c.toNat) :
    promptLink? (assistantPrompt base source) = some (toString (queryUrl base source)) := by
  obtain ⟨front, hfront⟩ := exists_prompt base source
  have hfeed : '\n' ∉ linkLabel ++ (queryUrl base source).text := by
    intro hc
    obtain hc | hc := List.mem_append.mp hc
    · exact absurd hc (by decide)
    · exact absurd (hlink _ hc) (by decide)
  have hne : linkLabel ++ (queryUrl base source).text ≠ [] :=
    List.append_ne_nil_of_left_ne_nil (by decide) _
  rw [promptLink?, hfront, getLast?_lines front _ hfeed hne, Option.bind_some, after?_append]
  rfl

/-! ### The source of a link -/

/-- A source whose bytes are not themselves a stream comes back from its link with plain base64. A
session takes it from the query whatever was kept from an earlier one and whatever fragment the link
is given, and it comes back too when the link is pasted, with a fragment or as it is, or when it is
taken from the last line of a prompt. -/
theorem queryUrl_gives_source (base : Url) (source : String)
    (hread : Url.parse base.text = .ok base) (hopens : opens base = true) (hne : source ≠ "")
    (hplain : Zlib.decompress? (utf8 source.toList) = none) :
    (∀ fragment persisted, Initial.resolve (some { queryUrl base source with fragment }) persisted =
      ⟨source, .query⟩) ∧
    sourceOf (toString (queryUrl base source)) = .ok source ∧
    (∀ fragment, sourceOf (toString ((queryUrl base source).withFragment fragment)) =
      .ok source) ∧
    ∃ link, promptLink? (assistantPrompt base source) = some link ∧
      sourceOf link = .ok source := by
  have hpath := (Url.clean_of_parse hread (isKnown_of_opens hopens)).2.2
  have hlink := queryUrl_eq hpath source
  have hpasted : sourceOf (toString (queryUrl base source)) = .ok source := by
    rw [hlink]
    exact sourceOf_plainUrl hne hplain hread hopens (by simp)
  refine ⟨?_, hpasted, ?_, toString (queryUrl base source), ?_, hpasted⟩
  · intro fragment persisted
    exact resolve_plain hne hplain rfl persisted
  · intro fragment
    rw [hlink]
    change sourceOf (toString (plainUrl base source (some (Url.Part.fragment.escape fragment)))) =
      .ok source
    refine sourceOf_plainUrl hne hplain hread hopens ?_
    intro f hf
    obtain rfl := Option.some.inj hf
    exact Url.escapes_of_mem_escape
  · refine promptLink?_assistantPrompt ?_
    rw [hlink]
    exact lt_of_mem_plainUrl hread hopens source (by simp)

/-- A text whose token has a plus sign, a slash and padding, in a link to a page that has a query and
a fragment of its own. -/
theorem localPage_query :
    Url.parse localPage.text = .ok localPage ∧ opens localPage = true ∧
    Zlib.decompress? (utf8 "~~~???>".toList) = none ∧
    (Token.encodePlain "~~~???>" = "fn5+Pz8/Pg==") ∧
    Initial.resolve (some { queryUrl localPage "~~~???>" with fragment := some "old".toList })
      (some "gantt") = ⟨"~~~???>", .query⟩ ∧
    (promptLink? (assistantPrompt localPage "~~~???>")).map sourceOf = some (.ok "~~~???>") := by
  have hopens : opens localPage = true := by decide +kernel
  have hplain : Zlib.decompress? (utf8 "~~~???>".toList) = none := by decide
  obtain ⟨hinitial, -, -, link, hlink, hsource⟩ :=
    queryUrl_gives_source localPage "~~~???>" parse_localPage hopens (by decide) hplain
  refine ⟨parse_localPage, hopens, hplain, by decide, hinitial _ _, ?_⟩
  rw [hlink, Option.map_some, hsource]

end DiagramDesk.Link
