import DiagramDesk.Engine.Basic
import DiagramDesk.Number.Reading

/-! What is made of an engine's refusal: the line it is about, and a hint at the likely cause.
Both may have to be read out of the wording. -/
namespace DiagramDesk

open Text

inductive Hint where
  | unknownDiagramType | incompleteInput | unterminatedToken | unmatchedBlock
  | missingDeclaration | malformedConnector
  deriving DecidableEq, Repr

namespace Hint

def name : Hint → String
  | unknownDiagramType => "unknown-diagram-type"
  | incompleteInput => "incomplete-input"
  | unterminatedToken => "unterminated-token"
  | unmatchedBlock => "unmatched-block"
  | missingDeclaration => "missing-declaration"
  | malformedConnector => "malformed-connector"

/-- What points at each cause, in lower case, in the order in which the causes are tried. -/
def rules : List (Hint × List String) := [
  (unknownDiagramType, ["no diagram type detected", "unknown diagram", "unsupported diagram",
    "no diagram definition"]),
  (incompleteInput, ["got 'eof'", "unexpected end", "unexpected eof", "end of input"]),
  (unterminatedToken, ["unterminated", "unclosed", "missing closing", "lexical error"]),
  (unmatchedBlock, ["unmatched", "expecting 'end'", "unbalanced", "missing end"]),
  (missingDeclaration, ["not declared", "undeclared", "undefined", "unknown participant",
    "not defined"]),
  (malformedConnector, ["arrow", "connector", "got 'link'", "invalid link", "edge"])]

/-- The cause a message points at: the first whose wording occurs in it, in any letter case. -/
def classify (message : String) : Option Hint :=
  let text := lower message.toList
  (rules.find? fun r => r.2.any fun w => contains text w.toList).map (·.1)

def text : Hint → Language → String
  | unknownDiagramType, .en =>
    "The first line must name a diagram type, e.g. \x60graph TD\x60 or \x60sequenceDiagram\x60."
  | unknownDiagramType, .zh => "第一行需要声明图表类型，例如 graph TD 或 sequenceDiagram"
  | incompleteInput, .en => "The diagram ends too early; a statement or connection is unfinished."
  | incompleteInput, .zh => "代码提前结束，可能有未写完的语句或连线"
  | unterminatedToken, .en => "A quote, bracket or label is not closed."
  | unterminatedToken, .zh => "有未闭合的引号、括号或标签"
  | unmatchedBlock, .en =>
    "A block is not balanced; check \x60subgraph\x60/\x60end\x60 pairs and braces."
  | unmatchedBlock, .zh => "代码块不匹配，请检查 subgraph/end 或花括号"
  | missingDeclaration, .en => "Something is used before it is declared."
  | missingDeclaration, .zh => "存在未声明就使用的元素"
  | malformedConnector, .en => "An arrow or connector is written incorrectly."
  | malformedConnector, .zh => "箭头或连线写法有误"

end Hint

/-- The digits of a line number that is mentioned at the start of a text: the word for a line in
any letter case, blanks, and decimal digits of any script. -/
def lineMention (s : List Char) : Option (List Char) :=
  let rest := s.drop 4
  let ds := (rest.dropWhile isBlank).takeWhile isPatternDigit
  if (s.take 4).map lowerAscii = ['l', 'i', 'n', 'e'] ∧ (rest.head?.map isBlank).getD false ∧
      !ds.isEmpty then some ds
  else none

/-- The digits of the first line number mentioned. -/
def firstLineMention : List Char → Option (List Char)
  | [] => none
  | c :: s => match lineMention (c :: s) with
    | some ds => some ds
    | none => firstLineMention s

/-- Line numbers and columns stay below this. -/
def countBound : Nat := 0x10000000000000000

/-- The line a message is about: the first number mentioned, if it is written in ASCII digits and
below the bound. Later mentions are not looked at. -/
def lineInMessage (message : String) : Option Nat :=
  (firstLineMention message.toList).bind (natBelow? countBound)

structure Failure where
  message : String
  line : Option Nat
  column : Option Nat
  hint : Option Hint
  deriving DecidableEq, Repr

/-- The line of an engine's own report goes before one read out of the message. -/
def EngineError.resolvedLine (e : EngineError) : Option Nat :=
  e.line.or (lineInMessage e.message)

/-- What is made of an engine's refusal. -/
def Failure.ofError (e : EngineError) : Failure :=
  ⟨e.message, e.resolvedLine, e.column, Hint.classify e.message⟩

end DiagramDesk
