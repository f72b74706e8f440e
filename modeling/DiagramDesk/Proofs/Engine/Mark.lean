import DiagramDesk.Proofs.Diagram.Content
import DiagramDesk.Proofs.Diagnostic
import DiagramDesk.Proofs.Pipeline

/-!
The mark for a refused header. The check counts lines of a source, the editor counts
lines of a document, so the mark is where the header is exactly as long as no stray
line break comes before the header's end.
-/
namespace DiagramDesk

open Text

namespace Diagnostic

/-- A mark covers what a line holds, and apart from blanks nothing else. -/
structure Covers (d : Diagnostic) (p : LinePlace) : Prop where
  start_le : d.start ≤ p.ahead.length
  le_stop : p.ahead.length + p.text.length ≤ d.stop
  trim_covered : trim (d.covered p.source) = p.text

end Diagnostic

/-! ### A line of a source among those of the document -/

namespace Text.LinePlace

open Diagnostic

variable (p : LinePlace)

/-- The lines of the document that the ended lines make, with those that follow. -/
theorem exists_documentLines :
    ∃ ls, ls.flatten = p.ended ∧ (∀ l ∈ ls, l ≠ []) ∧
      ls.length = p.index + strayBreaks p.ended ∧
      documentLines p.source = ls ++ documentLines (p.left ++ p.text ++ p.behind) := by
  obtain ⟨ls, hflat, hne, hlen, happend⟩ := p.isEnded.documentLines_append
  refine ⟨ls, hflat, hne, hlen, ?_⟩
  rw [← happend, source_eq, ahead]
  simp

/-- A document has no fewer lines than its source. -/
theorem index_lt_lineCount : p.index < lineCount p.source := by
  obtain ⟨ls, -, -, hlen, hs⟩ := p.exists_documentLines
  obtain ⟨m, ms, hm, -⟩ := exists_documentLines_eq_cons (p.left ++ p.text ++ p.behind)
  rw [lineCount, hs, hm, List.length_append, hlen, List.length_cons]
  omega

/-- What a document shows of a text that ends a line of the source stays within that line. -/
theorem visible_isPrefix {m : List Char} (h : m <+: p.behind) : visible m <+: p.right := by
  have hshown : visible m <+: p.right ++ p.rest := (List.takeWhile_prefix _).trans h
  obtain hv | hv := List.prefix_or_prefix_of_prefix hshown (List.prefix_append p.right p.rest)
  · exact hv
  obtain ⟨t, ht⟩ := hv
  cases t with
  | nil => exact ⟨[], by rw [← ht, List.append_nil, List.append_nil]⟩
  | cons c t =>
    -- The next character ends the line of the source, and no document shows it.
    rw [← ht, List.prefix_append_right_inj] at hshown
    obtain ⟨u, hu⟩ := hshown
    have hc : c ∈ visible m := by simp [← ht]
    have hn := List.mem_takeWhile_imp hc
    rcases p.rest_head c (by simp [← hu]) with rfl | rfl <;> simp at hn

/-- Where no line break is stray the document shows the line up to some of the blanks behind it. -/
theorem lineRange_of_no_stray (h : strayBreaks (p.ahead ++ p.text) = 0) :
    ∃ more, blank more = true ∧ more <+: p.behind ∧
      lineRange p.source p.index =
        (p.ended.length, p.ended.length + max 1 (p.left ++ p.text ++ more).length) := by
  obtain ⟨hended, hfront⟩ := Nat.add_eq_zero_iff.mp (p.strayBreaks_front ▸ h)
  have hclear := (strayBreaks_eq_zero_iff _ p.feed_not_mem).mp hfront
  obtain ⟨ls, hflat, -, hlen, hs⟩ := p.exists_documentLines
  obtain ⟨m, ms, hm, hprefix⟩ := exists_documentLines_eq_cons p.behind
  rw [documentLines_append hclear hm] at hs
  have hright := p.visible_isPrefix hprefix
  refine ⟨visible m, ?_, hright.trans (List.prefix_append _ _), ?_⟩
  · rw [blank_iff]
    exact fun c hc => (blank_iff _).mp p.blank_right c (hright.subset hc)
  · have hi : p.index = ls.length := by rw [hlen, hended, Nat.add_zero]
    rw [hi, lineRange_length hs, hflat, visible_append m hclear]

/-- Where a line break is stray the document's line is at its end before what the line of the source
holds is. -/
theorem lineRange_lt_of_stray (hne : p.text ≠ []) (h : strayBreaks (p.ahead ++ p.text) ≠ 0) :
    (lineRange p.source p.index).2 < p.ahead.length + p.text.length := by
  obtain ⟨ls, hflat, hfull, hlen, hs⟩ := p.exists_documentLines
  have hpos := List.length_pos_iff.mpr hne
  by_cases hended : strayBreaks p.ended = 0
  · have hfront : ¬ ∀ c ∈ p.left ++ p.text, isLineBreak c = false := by
      rw [← strayBreaks_eq_zero_iff _ p.feed_not_mem]
      rwa [p.strayBreaks_front, hended, Nat.zero_add] at h
    obtain ⟨front, c, back, hsplit, hclear, hc⟩ := exists_first_break hfront
    obtain ⟨d, back, rfl, hd⟩ := p.exists_append_of_break hne hsplit hc
    have hm : documentLines (p.left ++ p.text ++ p.behind) =
        (front ++ [c]) :: documentLines (d :: back ++ p.behind) := by
      rw [hsplit, List.append_assoc]
      refine documentLines_append hclear (documentLines_cons_break (alone_of_head ?_) hc)
      simpa using hd
    have hi : p.index = ls.length := by omega
    rw [hm] at hs
    rw [hi, lineRange_length hs, hflat]
    have hvisible : (visible (front ++ [c])).length ≤ (front ++ [c]).length :=
      (List.takeWhile_prefix _).length_le
    have htotal := congrArg List.length hsplit
    simp only [ahead, List.length_append, List.length_cons, List.length_nil] at hvisible htotal ⊢
    omega
  · -- The document's line of this index is among those ahead.
    have hi : p.index < ls.length := by omega
    have hls : ls = ls.take p.index ++ ls[p.index] :: ls.drop (p.index + 1) := by
      rw [List.getElem_cons_drop, List.take_append_drop]
    have hs' : documentLines p.source = ls.take p.index ++ ls[p.index] ::
        (ls.drop (p.index + 1) ++ documentLines (p.left ++ p.text ++ p.behind)) := by
      rw [hs, ← List.cons_append, ← List.append_assoc, ← hls]
    have hr := lineRange_length hs'
    rw [List.length_take_of_le (by omega)] at hr
    rw [hr]
    have hline := List.length_pos_iff.mpr (hfull _ (List.getElem_mem hi))
    have hvisible : (visible ls[p.index]).length ≤ ls[p.index].length :=
      (List.takeWhile_prefix _).length_le
    have htotal := congrArg (fun l => (List.flatten l).length) hls
    simp only [List.flatten_append, List.flatten_cons, List.length_append, hflat] at htotal
    simp only [ahead, List.length_append]
    omega

end Text.LinePlace

/-- The mark for a failure in a line of the source is on that line exactly if no stray line break
comes before the end of what the line holds. -/
theorem Diagnostic.covers_iff (p : LinePlace) (hne : p.text ≠ []) (d : Diagnostic)
    (h : (d.start, d.stop) = lineRange p.source p.index) :
    d.Covers p ↔ strayBreaks (p.ahead ++ p.text) = 0 := by
  constructor
  · intro hc
    by_contra hstray
    have hlt := p.lineRange_lt_of_stray hne hstray
    rw [← h] at hlt
    exact absurd hc.le_stop (Nat.not_le.mpr hlt)
  · intro hstray
    obtain ⟨more, hmore, ⟨rest, hrest⟩, hr⟩ := p.lineRange_of_no_stray hstray
    have hpos := List.length_pos_iff.mpr hne
    rw [hr, Prod.mk.injEq, Nat.max_eq_right (by simp only [List.length_append]; omega)] at h
    have hs : p.source = p.ended ++ (p.left ++ p.text ++ more) ++ rest := by
      rw [p.source_eq, LinePlace.ahead, ← hrest]
      simp
    refine ⟨?_, ?_, ?_⟩
    · simp [h.1, LinePlace.ahead]
    · simp only [h.2, LinePlace.ahead, List.length_append]
      omega
    · rw [covered, h.1, h.2, hs, Nat.add_sub_cancel_left, List.append_assoc p.ended, List.drop_left,
        List.take_left, trim_append_append _ _ _ p.blank_left hmore p.trim_text]

/-- The line that a refusal names holds the header that its message quotes. -/
theorem checkSource_located {source : String} {e : EngineError} {n : Nat}
    (h : checkSource source = .error e) (hn : e.line = some n) :
    ∃ p : LinePlace, p.source = source.toList ∧ p.index + 1 = n ∧ p.text ≠ [] ∧
      e.message = "No diagram type detected matching given configuration for text: " ++
        String.ofList p.text := by
  rw [checkSource, checkLines] at h
  split at h
  case h_1 =>
    cases h
    cases hn
  case h_2 i hi =>
    obtain ⟨l, hl, hlike⟩ := headerLike_headerIndex _ i hi
    simp only [hl, Option.getD_some] at h
    split at h
    case isFalse => cases h
    case isTrue =>
      cases h
      cases hn
      obtain ⟨p, hsource, hindex, htext⟩ := exists_linePlace hl
      refine ⟨p, hsource, by rw [hindex], ?_, ?_⟩
      · rw [htext, Ne, trim_eq_nil_iff, not_blank_of_headerLike l hlike]
        exact Bool.false_ne_true
      · rw [htext]

/-- A text that is refused without being drawn leaves one mark and is not stale. -/
theorem Pipeline.apply_refused (p : Pipeline) (style : Style) (engine : Engine) (editor : Editor)
    (preview : Preview) (now : Nat) {source : String} {e : EngineError}
    (hb : blank source.toList = false) (he : engine.validate source = .error e) :
    let started := p.start source style
    let shown := started.2.apply (started.1.run engine) editor preview now
    shown.1 = .committed ∧
      shown.2.1.diagnostics = [Diagnostic.ofFailure source e.resolvedLine e.message] := by
  have hjob : p.jobFor source style =
      .render ⟨p.tickets + 1, instanceId (p.instances + 1), source, style⟩ := by
    simp [jobFor, hb]
  have houtcome (r : RenderRequest) (hr : r.source = source) :
      r.outcome engine = .failure (Failure.ofError e) := by
    rw [RenderRequest.outcome, hr, he]
  have hlatest : (p.issue source).latest = some (p.tickets + 1) := rfl
  simp only [start, hjob, RenderJob.run, houtcome, apply_eq, if_pos hlatest, true_and]
  rfl

/-! ### The mark of a header -/

/-- A header that names no kind of diagram is refused with its line, and once the refusal is put on
screen the editor has one mark, in that line and with its message. The mark covers the header that
the message quotes, and apart from blanks nothing else, exactly if every line break ahead of the
header's end is a line feed, with or without a carriage return before it. -/
theorem refused_header_marked_iff (pipeline : Pipeline) (style : Style)
    (render : String → String → EngineConfig → Except EngineError String) (editor : Editor)
    (preview : Preview) (now : Nat) (source : String) (e : EngineError) (n : Nat)
    (he : checkSource source = .error e) (hn : e.line = some n) :
    let started := pipeline.start source style
    let shown := started.2.apply (started.1.run ⟨checkSource, render⟩) editor preview now
    ∃ (mark : Diagnostic) (header : LinePlace),
      shown.1 = .committed ∧ shown.2.1.diagnostics = [mark] ∧
      mark.line = n ∧ mark.message = e.message ∧
      header.source = source.toList ∧ header.index + 1 = n ∧
      e.message = "No diagram type detected matching given configuration for text: " ++
        String.ofList header.text ∧
      (mark.Covers header ↔ strayBreaks (header.ahead ++ header.text) = 0) := by
  intro started shown
  obtain ⟨header, hsource, hindex, hne, hmessage⟩ := checkSource_located he hn
  have hb : blank source.toList = false := by
    rw [Bool.eq_false_iff]
    intro hb
    refine hne ?_
    rw [← header.trim_text, trim_eq_nil_iff, blank_iff]
    intro c hc
    exact (blank_iff _).mp hb c (by simp [← hsource, header.source_eq, hc])
  obtain ⟨hcommitted, hmarks⟩ :=
    pipeline.apply_refused style ⟨checkSource, render⟩ editor preview now hb he
  have hlt := header.index_lt_lineCount
  rw [hsource] at hlt
  have hmark := Diagnostic.ofFailure_line e.message hlt
  rw [hindex, ← hsource] at hmark
  have hline : e.resolvedLine = some n := by rw [EngineError.resolvedLine, hn, Option.some_or]
  rw [hline] at hmarks
  refine ⟨_, header, hcommitted, hmarks, ?_, ?_, hsource, hindex, hmessage, ?_⟩
  · rw [hmark]
  · rw [hmark]
  · exact Diagnostic.covers_iff header hne _ (by rw [hmark])

/-- A header behind a comment, with a line separator behind it. -/
def commentedHeader : String := "%% draft\r\n  nonsense \u2028 here"

/-- A comment with a line separator in it, ahead of a header. -/
def separatedComment : String := "%% draft\u2028note\nnonsense"

def secondLineRefusal (header : String) : EngineError where
  message := "No diagram type detected matching given configuration for text: " ++ header
  line := some 2
  column := some 1

theorem commentedHeader_marked_iff :
    let started := Pipeline.start { lang := .en } commentedHeader ({} : Settings).style
    let shown := started.2.apply (started.1.run ⟨checkSource, Engine.plain.render⟩)
      (.ofText commentedHeader) {} 0
    let e := secondLineRefusal "nonsense \u2028 here"
    (checkSource commentedHeader = .error e ∧ e.line = some 2) ∧
    ∃ (mark : Diagnostic) (header : LinePlace),
      shown.1 = .committed ∧ shown.2.1.diagnostics = [mark] ∧
      mark.line = 2 ∧ mark.message = e.message ∧
      header.source = commentedHeader.toList ∧ header.index + 1 = 2 ∧
      e.message = "No diagram type detected matching given configuration for text: " ++
        String.ofList header.text ∧
      (mark.Covers header ↔ strayBreaks (header.ahead ++ header.text) = 0) :=
  have he : checkSource commentedHeader = .error (secondLineRefusal "nonsense \u2028 here") := by
    decide +kernel
  ⟨⟨he, rfl⟩, refused_header_marked_iff _ _ _ _ _ _ _ _ 2 he rfl⟩

/-- The line separator ends a line for the editor and none for the check, so the mark is on the end
of the comment. -/
theorem separatedComment_marked :
    let started := Pipeline.start { lang := .en } separatedComment ({} : Settings).style
    let shown := started.2.apply (started.1.run .plain) (.ofText separatedComment) {} 0
    checkSource separatedComment = .error (secondLineRefusal "nonsense") ∧
    shown.1 = .committed ∧
    shown.2.1.diagnostics.map (fun mark => trim (mark.covered separatedComment.toList)) =
      ["note".toList] := by
  decide +kernel

end DiagramDesk
