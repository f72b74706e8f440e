import DiagramDesk.Text.Trim

/-! The two languages of the interface and the texts shown in each. -/
namespace DiagramDesk

open Text

inductive Language where
  | en | zh
  deriving DecidableEq, Repr

/-- A name as it is compared: without blanks around it, in lower case. -/
def canonicalName (s : String) : String := String.ofList ((trim s.toList).map lowerAscii)

namespace Language

def code : Language → String
  | en => "en"
  | zh => "zh"

/-- The language with a code; letter case and blanks around it do not matter. -/
def ofCode? (s : String) : Option Language :=
  match canonicalName s with
  | "en" => some en
  | "zh" => some zh
  | _ => none

/-- The language of a locale tag: Chinese if the tag starts with its code, else English. -/
def ofLocale (tag : String) : Language :=
  if startsWith (canonicalName tag).toList ['z', 'h'] then zh else en

/-- The variables that name a locale, in the order in which they are asked. -/
def localeVariables : List String := ["LC_ALL", "LC_MESSAGES", "LANG"]

/-- The language of an environment: the first variable that is set and not empty decides. -/
def ofEnvironment (lookup : String → Option String) : Language :=
  match (localeVariables.filterMap lookup).find? (!·.isEmpty) with
  | some tag => ofLocale tag
  | none => en

end Language

structure Phrases where
  placeholder : String
  rendering : String
  renderOk : String
  renderError : String
  syntaxError : String
  lineBefore : String
  lineAfter : String
  errorTip : String
  dismiss : String
  noDiagram : String
  copiedSvg : String
  copiedPng : String
  savedSvg : String
  savedPng : String
  copiedLink : String
  copiedEmbed : String
  copiedPrompt : String
  failed : String
  lookUnsupported : String
  linesWord : String
  charsWord : String

def Phrases.english : Phrases where
  placeholder := "Type Mermaid code on the left, the diagram renders here in real time"
  rendering := "Rendering..."
  renderOk := "✓ OK"
  renderError := "✗ Error"
  syntaxError := "Syntax Error"
  lineBefore := "Line "
  lineAfter := ""
  errorTip := "Fix the code above and it will re-render automatically"
  dismiss := "Dismiss"
  noDiagram := "No diagram to act on"
  copiedSvg := "SVG copied"
  copiedPng := "PNG copied"
  savedSvg := "SVG downloaded"
  savedPng := "PNG downloaded"
  copiedLink := "Link copied"
  copiedEmbed := "Embed code copied"
  copiedPrompt := "AI prompt copied"
  failed := "Operation failed"
  lookUnsupported := "Hand-drawn style is not supported for this diagram type"
  linesWord := "lines"
  charsWord := "chars"

def Phrases.chinese : Phrases where
  placeholder := "在左侧输入 Mermaid 代码，图表将实时显示在这里"
  rendering := "渲染中..."
  renderOk := "✓ 完成"
  renderError := "✗ 错误"
  syntaxError := "语法错误"
  lineBefore := "第 "
  lineAfter := " 行"
  errorTip := "修复代码后将自动重新渲染"
  dismiss := "关闭"
  noDiagram := "没有可操作的图表"
  copiedSvg := "SVG 已复制"
  copiedPng := "PNG 已复制"
  savedSvg := "SVG 已下载"
  savedPng := "PNG 已下载"
  copiedLink := "链接已复制"
  copiedEmbed := "嵌入代码已复制"
  copiedPrompt := "AI 提示词已复制"
  failed := "操作失败"
  lookUnsupported := "此图类型不支持手绘风格"
  linesWord := "行"
  charsWord := "字符"

def Language.phrases : Language → Phrases
  | en => .english
  | zh => .chinese

namespace Phrases

def line (p : Phrases) (n : Nat) : String := p.lineBefore ++ toString n ++ p.lineAfter

def size (p : Phrases) (lines chars : Nat) : String :=
  s!"{lines} {p.linesWord} · {chars} {p.charsWord}"

def failedWith (p : Phrases) (detail : String) : String := p.failed ++ ": " ++ detail

end Phrases

end DiagramDesk
