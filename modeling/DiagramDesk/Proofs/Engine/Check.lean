import DiagramDesk.Engine.Basic
import DiagramDesk.Proofs.Diagram.Format

/-!
Formatting and the check of a text. Which kind of diagram a text holds and whether it
is refused depend on its content, so formatting changes neither; a refusal keeps its
message and points at the same line of content.
-/
namespace DiagramDesk

open Text

/-- A refusal that tells its line by rank: how many lines ahead of it are not blank. -/
def EngineError.ranked (ls : List (List Char)) (e : EngineError) : EngineError :=
  { e with line := e.line.map fun n => rank ls (n - 1) + 1 }

/-- The content of lines is accepted or refused as the lines themselves. -/
theorem checkLines_contentLines (ls : List (List Char)) :
    checkLines (contentLines ls) = (checkLines ls).mapError (EngineError.ranked ls) := by
  rw [checkLines, checkLines, headerIndex_contentLines]
  cases hi : headerIndex ls with
  | none => rfl
  | some i =>
    obtain ⟨l, hl, hlike⟩ := headerLike_headerIndex ls i hi
    have hr := getElem?_rank ls i l hl (not_blank_of_headerLike l hlike)
    simp only [Option.map_some, hl, hr, Option.getD_some, ofHeader_trim, trim_trim]
    by_cases hk : DiagramKind.ofHeader l = .generic
    · rw [if_pos hk, if_pos hk]
      rfl
    · rw [if_neg hk, if_neg hk]
      rfl

theorem contentLines_formatSource (source : String) :
    contentLines (lines (formatSource source).toList) = contentLines (lines source.toList) := by
  rw [formatSource, String.toList_ofList]
  cases h : blank source.toList with
  | true => rw [formatText_of_blank _ h]
  | false => exact contentLines_formatText _ h

/-- A formatted source is refused at the line of content at which the source is refused. -/
theorem checkSource_formatSource (source : String) :
    (checkSource (formatSource source)).mapError
        (EngineError.ranked (lines (formatSource source).toList)) =
      (checkSource source).mapError (EngineError.ranked (lines source.toList)) := by
  rw [checkSource, checkSource, ← checkLines_contentLines, ← checkLines_contentLines,
    contentLines_formatSource]

theorem mapError_ranked_message (ls : List (List Char)) (r : Except EngineError Unit) :
    (r.mapError (EngineError.ranked ls)).mapError EngineError.message =
      r.mapError EngineError.message := by
  cases r <;> rfl

/-- Formatting changes neither the kind of diagram that a source holds, nor whether the source is
accepted, nor the message of a refusal. -/
theorem formatting_keeps_verdict (source : String) :
    DiagramKind.detect (formatSource source) = DiagramKind.detect source ∧
    (checkSource (formatSource source)).mapError EngineError.message =
      (checkSource source).mapError EngineError.message := by
  constructor
  · rw [DiagramKind.detect, DiagramKind.detect, ← ofLines_contentLines, contentLines_formatSource,
      ofLines_contentLines]
  · have h := congrArg (Except.mapError EngineError.message) (checkSource_formatSource source)
    rwa [mapError_ranked_message, mapError_ranked_message] at h

end DiagramDesk
