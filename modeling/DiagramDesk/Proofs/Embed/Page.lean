import DiagramDesk.Embed
import DiagramDesk.Proofs.Text.Escape

/-!
The page of a failure. What it says of the failure is text inside markup that does not depend on
it: the page has the tags of a page that says nothing, and between two of them the message.
-/
namespace DiagramDesk

open Text

namespace Text

/-! ### Tags -/

/-- Finds a tag: an opening bracket, and everything up to the first closing one. -/
def tag : Pattern (List Char) := fun s => do
  let rest ← after? ['<'] s
  let (inner, _) ← upTo ['>'] rest
  return ('<' :: inner, inner.length + 1)

def Span.match? {β : Type} : Span β → Option β
  | char _ => none
  | found b => some b

def tags (page : List Char) : List (List Char) := (spans tag page).filterMap Span.match?

theorem tag_eq_some_iff {s t : List Char} {n : Nat} :
    tag s = some (t, n) ↔
      ∃ inner rest, s = t ++ rest ∧ t.length = n ∧ t = '<' :: (inner ++ ['>']) ∧ '>' ∉ inner := by
  constructor
  · intro h
    simp only [tag, Option.bind_eq_bind, Option.bind_eq_some_iff, Option.pure_def,
      Option.some.injEq, Prod.mk.injEq] at h
    obtain ⟨behind, hbehind, ⟨front, rest⟩, hfront, rfl, rfl⟩ := h
    obtain ⟨inner, rfl, rfl, hahead⟩ := exists_upTo hfront
    have hs := after?_eq_some _ _ _ hbehind
    exact ⟨inner, rest, by simp [hs], by simp, rfl, not_mem_of_ahead hahead⟩
  · rintro ⟨inner, rest, rfl, rfl, rfl, hinner⟩
    have hafter : after? ['<'] ('<' :: (inner ++ ['>']) ++ rest) = some (inner ++ ['>'] ++ rest) :=
      after?_append ['<'] _
    have hup := upTo_ahead rest (List.cons_ne_nil '>' []) (ahead_of_not_mem hinner)
    rw [tag, hafter]
    simp only [Option.bind_eq_bind, Option.bind_some, hup]
    rfl

theorem tag_local : tag.Local := by
  refine .of_iff (T := fun v t => t = v ∧ ∃ inner, v = '<' :: (inner ++ ['>']) ∧ '>' ∉ inner) ?_ ?_
  · rintro v t ⟨-, inner, rfl, -⟩
    exact List.cons_ne_nil '<' _
  · intro s t n
    rw [tag_eq_some_iff]
    constructor
    · rintro ⟨inner, rest, hs, hn, ht, hinner⟩
      exact ⟨t, rest, hs, hn, rfl, inner, ht, hinner⟩
    · rintro ⟨v, rest, hs, hn, rfl, inner, ht, hinner⟩
      exact ⟨inner, rest, hs, hn, ht, hinner⟩

/-- Without an opening bracket there is no tag, and none begins. -/
theorem tag_eq_none {v w : List Char} (hv : '<' ∉ v) (hne : v ≠ []) : tag (v ++ w) = none := by
  cases h : tag (v ++ w) with
  | none => rfl
  | some m =>
    obtain ⟨inner, rest, hs, -, ht, -⟩ := tag_eq_some_iff.mp h
    cases v with
    | nil => exact absurd rfl hne
    | cons c v =>
      rw [ht, List.cons_append, List.cons_append, List.cons.injEq] at hs
      exact absurd (by simp [hs.1]) hv

theorem free_tag {s : List Char} (h : '<' ∉ s) : Free tag s := by
  intro t ht
  by_cases hne : t = []
  · rw [hne, tag_local.nil]
  · have := tag_eq_none (w := []) (fun hm => h (ht.subset hm)) hne
    rwa [List.append_nil] at this

theorem crosses_tag {s : List Char} (h : '<' ∉ s) (w : List Char) : crosses tag s w = false := by
  rw [crosses_eq_false_iff]
  intro v hv hne t n hsome
  rw [tag_eq_none (fun hm => h (hv.subset hm)) hne] at hsome
  cases hsome

/-- No tag goes on behind a closing bracket. -/
theorem crosses_tag_of_closed {s : List Char} (h : s.getLast? = some '>') (w : List Char) :
    crosses tag s w = false := by
  rw [crosses_eq_false_iff]
  intro v hv hne t n hsome
  obtain ⟨inner, rest, hs, rfl, rfl, hinner⟩ := tag_eq_some_iff.mp hsome
  have hclosed : '>' ∈ v := by
    obtain ⟨front, rfl⟩ := List.getLast?_eq_some_iff.mp h
    exact mem_of_suffix_concat hv hne
  by_contra hlt
  -- What stands behind the bracket would be inside the tag, and the bracket with it.
  have hmatch : '<' :: inner <+: v ++ w := ⟨'>' :: rest, by simp [hs]⟩
  have hprefix : v <+: '<' :: inner := by
    refine List.prefix_of_prefix_length_le (List.prefix_append v w) hmatch ?_
    simp only [List.length_cons, List.length_append, List.length_nil] at hlt ⊢
    omega
  have hmem := hprefix.subset hclosed
  rw [List.mem_cons] at hmem
  exact hmem.elim (by decide) hinner

theorem tags_append {s t : List Char} (h : crosses tag s t = false) :
    tags (s ++ t) = tags s ++ tags t := by
  rw [tags, tag_local.spans_append h, List.filterMap_append, tags, tags]

theorem tags_of_plain {s : List Char} (h : '<' ∉ s) : tags s = [] := by
  rw [tags, spans_of_free (free_tag h)]
  simp [List.filterMap_map, Span.match?, Function.comp_def]

end Text

namespace EmbedView

/-! ### Around the message -/

def failureHead (lang : Language) : List Char :=
  (head lang ++ "<div id=\"error\"><strong>" ++ lang.phrases.syntaxError ++
    "</strong><pre>").toList

def failureFoot : List Char := ("</pre></div>" ++ foot).toList

def failureTags (lang : Language) : List String × List String :=
  (["<!DOCTYPE html>", "<html lang=\"" ++ lang.code ++ "\">", "<head>", "<meta charset=\"utf-8\">",
      "<title>", "</title>", "<style>", "</style>", "</head>", "<body>", "<div id=\"error\">",
      "<strong>", "</strong>", "<pre>"],
    ["</pre>", "</div>", "</body>", "</html>"])

theorem toList_html_failed (message : String) (lang : Language) :
    ((failed message).html lang).toList =
      failureHead lang ++ escaped message.toList ++ failureFoot := by
  have hpage : (failed message).html lang = head lang ++ ("<div id=\"error\"><strong>" ++
      lang.phrases.syntaxError ++ "</strong><pre>" ++ escapeMarkup message ++ "</pre></div>") ++
      foot := rfl
  rw [hpage, ← toList_escapeMarkup]
  -- The definitions are put in as they stand: nothing is to be computed of these texts.
  delta failureHead failureFoot
  simp only [String.toList_append, List.append_assoc]

def sheetHead (lang : Language) : List Char :=
  ("<!DOCTYPE html>\n<html lang=\"" ++ lang.code ++
    "\">\n<head>\n<meta charset=\"utf-8\">\n<title>Mermaid Diagram</title>\n<style>").toList

def sheetFoot (lang : Language) : List Char :=
  ("</style>\n</head>\n<body>\n" ++ ("<div id=\"error\"><strong>" ++ lang.phrases.syntaxError ++
    "</strong><pre>")).toList

theorem failureHead_eq (lang : Language) :
    failureHead lang = sheetHead lang ++ (styles.toList ++ sheetFoot lang) := by
  delta failureHead head sheetHead sheetFoot
  simp only [String.toList_append, List.append_assoc]

theorem bracket_not_mem_styles : '<' ∉ styles.toList := by
  delta styles
  simp only [String.toList_append, List.mem_append, not_or]
  exact ⟨⟨by decide +kernel, by decide +kernel⟩, by decide +kernel⟩

theorem getLast?_sheetHead (lang : Language) : (sheetHead lang).getLast? = some '>' := by
  have hlast : ("\">\n<head>\n<meta charset=\"utf-8\">\n<title>Mermaid Diagram</title>\n<style>" :
      String).toList.getLast? = some '>' := by decide +kernel
  delta sheetHead
  rw [String.toList_append, List.getLast?_append, hlast, Option.some_or]

theorem getLast?_failureHead (lang : Language) : (failureHead lang).getLast? = some '>' := by
  have hlast : "</strong><pre>".toList.getLast? = some '>' := by decide
  delta failureHead
  rw [String.toList_append, List.getLast?_append, hlast, Option.some_or]

theorem tags_failureHead (lang : Language) :
    tags (failureHead lang) = (failureTags lang).1.map String.toList := by
  rw [failureHead_eq, tags_append (crosses_tag_of_closed (getLast?_sheetHead lang) _),
    tags_append (crosses_tag bracket_not_mem_styles _), tags_of_plain bracket_not_mem_styles]
  cases lang <;> decide +kernel

theorem tags_failureFoot (lang : Language) :
    tags failureFoot = (failureTags lang).2.map String.toList := by
  have hfoot : tags failureFoot = ["</pre>", "</div>", "</body>", "</html>"].map String.toList := by
    decide +kernel
  exact hfoot

/-- The page of a failure in pieces: the message brings in no tag, and takes part in none. -/
theorem spans_html_failed (message : String) (lang : Language) :
    spans tag ((failed message).html lang).toList =
      spans tag (failureHead lang) ++ (escaped message.toList).map .char ++
        spans tag failureFoot := by
  have hclean : '<' ∉ escaped message.toList := not_mem_escaped (by decide) (by decide) _
  rw [toList_html_failed, List.append_assoc,
    tag_local.spans_append (crosses_tag_of_closed (getLast?_failureHead lang) _),
    tag_local.spans_append (crosses_tag hclean _), spans_of_free (free_tag hclean),
    List.append_assoc]

theorem tags_html_failed (message : String) (lang : Language) :
    tags ((failed message).html lang).toList =
      ((failureTags lang).1 ++ (failureTags lang).2).map String.toList := by
  have hclean : '<' ∉ escaped message.toList := not_mem_escaped (by decide) (by decide) _
  rw [toList_html_failed, List.append_assoc,
    tags_append (crosses_tag_of_closed (getLast?_failureHead lang) _),
    tags_append (crosses_tag hclean _), tags_of_plain hclean, tags_failureHead, tags_failureFoot,
    List.map_append, List.nil_append]

/-- The reserved characters of a message are named all at once. What stands on the page for it holds
no bracket and no quote, a mark in it begins a name, and reading the names gives the message. So
whatever failed, the page has the tags of its frame, and the message stands as plain characters
where the frame leaves room for it. -/
theorem failed_page_framed (message : String) :
    let shown := (escapeMarkup message).toList
    shown = message.toList.flatMap named ∧
    (∀ c ∈ shown, c ≠ '<' ∧ c ≠ '>' ∧ c ≠ '"') ∧
    (∀ front rest, shown = front ++ '&' :: rest → ∃ c ∈ marks, named c <+: '&' :: rest) ∧
    readNames shown = message.toList ∧
    ∀ token engine settings lang, opened token engine settings = failed message →
      let page := ((opened token engine settings).html lang).toList
      tags page = ((failureTags lang).1 ++ (failureTags lang).2).map String.toList ∧
      spans tag page =
        spans tag (failureHead lang) ++ shown.map .char ++ spans tag failureFoot := by
  intro shown
  have hshown : shown = escaped message.toList := toList_escapeMarkup message
  rw [hshown]
  refine ⟨rfl, fun c hc => ⟨?_, ?_, ?_⟩, fun front rest => exists_named_of_escaped,
    readNames_escaped _, fun token engine settings lang hfailed => ?_⟩
  · rintro rfl
    exact not_mem_escaped (by decide) (by decide) _ hc
  · rintro rfl
    exact not_mem_escaped (by decide) (by decide) _ hc
  · rintro rfl
    exact not_mem_escaped (by decide) (by decide) _ hc
  · rw [hfailed]
    exact ⟨tags_html_failed message lang, spans_html_failed message lang⟩

/-- A link to a text with a tag for its header. -/
theorem tagged_header_framed :
    let message := "No diagram type detected matching given configuration for text: <b id=\"&\">"
    opened "PGIgaWQ9IiYiPg" .plain {} = failed message ∧
    let page := ((opened "PGIgaWQ9IiYiPg" .plain {}).html .zh).toList
    tags page = ((failureTags .zh).1 ++ (failureTags .zh).2).map String.toList ∧
    spans tag page =
      spans tag (failureHead .zh) ++ (escapeMarkup message).toList.map .char ++
        spans tag failureFoot := by
  intro message
  have hfailed : opened "PGIgaWQ9IiYiPg" .plain {} = failed message := by decide +kernel
  obtain ⟨-, -, -, -, hpage⟩ := failed_page_framed message
  exact ⟨hfailed, hpage "PGIgaWQ9IiYiPg" .plain {} .zh hfailed⟩

end EmbedView

end DiagramDesk
