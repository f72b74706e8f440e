import DiagramDesk.Language

/-! Diagrams that come with the program: the text of a fresh session and a gallery of examples. -/
namespace DiagramDesk

/-- The text of a session when there is no other. -/
def defaultSource : String := "\n".intercalate [
  "graph TD",
  "    A[开始 Start] --> B\x7b判断 Decision\x7d",
  "    B -->|是 Yes| C[成功 OK]",
  "    B -->|否 No| D[失败 Fail]",
  "    C --> E[结束 End]",
  "    D --> E"]

/-- An example of the gallery, with its titles in both languages. -/
structure Sample where
  name : String
  english : String
  chinese : String
  lines : List String

namespace Sample

def title (s : Sample) : Language → String
  | .en => s.english
  | .zh => s.chinese

def source (s : Sample) : String := "\n".intercalate s.lines

def gallery : List Sample := [
  ⟨"flowchart", "Flowchart", "流程图",
    ["graph TD",
     "    A[Start] --> B\x7bDecision\x7d",
     "    B -->|Yes| C[OK]",
     "    B -->|No| D[Fail]",
     "    C --> E[End]",
     "    D --> E"]⟩,
  ⟨"sequence", "Sequence", "时序图",
    ["sequenceDiagram",
     "    participant User",
     "    participant Server",
     "    User->>Server: Request",
     "    alt cached",
     "        Server-->>User: 304",
     "    else fresh",
     "        Server-->>User: 200",
     "    end"]⟩,
  ⟨"class", "Class", "类图",
    ["classDiagram",
     "    class Animal \x7b",
     "        +String name",
     "        +makeSound()",
     "    \x7d",
     "    class Dog \x7b",
     "        +fetch()",
     "    \x7d",
     "    Animal <|-- Dog"]⟩,
  ⟨"gantt", "Gantt", "甘特图",
    ["gantt",
     "    title Project Plan",
     "    dateFormat YYYY-MM-DD",
     "    section Phase 1",
     "    Design: 2024-01-01, 7d",
     "    Build: 2024-01-08, 14d",
     "    section Phase 2",
     "    Test: 2024-01-22, 7d"]⟩,
  ⟨"pie", "Pie", "饼图",
    ["pie title Share",
     "    \"A\" : 40",
     "    \"B\" : 30",
     "    \"C\" : 20",
     "    \"D\" : 10"]⟩,
  ⟨"mindmap", "Mindmap", "思维导图",
    ["mindmap",
     "  root((Core))",
     "    Branch one",
     "      Leaf 1",
     "      Leaf 2",
     "    Branch two",
     "      Leaf 3"]⟩,
  ⟨"er", "ER Diagram", "ER 图",
    ["erDiagram",
     "    USER ||--o\x7b ORDER : places",
     "    ORDER ||--|\x7b LINE-ITEM : contains",
     "    PRODUCT ||--o\x7b LINE-ITEM : includes"]⟩,
  ⟨"state", "State", "状态图",
    ["stateDiagram-v2",
     "    [*] --> Idle",
     "    Idle --> Running : start",
     "    Running --> Paused : pause",
     "    Paused --> Running : resume",
     "    Running --> [*] : stop"]⟩,
  ⟨"architecture", "Architecture", "架构图",
    ["graph LR",
     "    subgraph Frontend",
     "        A[Browser]",
     "    end",
     "    subgraph Backend",
     "        B[API]",
     "        C[Database]",
     "    end",
     "    A -->|HTTP| B",
     "    B -->|SQL| C"]⟩,
  ⟨"git", "Git Graph", "Git 图",
    ["gitGraph",
     "    commit",
     "    branch feature",
     "    checkout feature",
     "    commit",
     "    checkout main",
     "    merge feature"]⟩,
  ⟨"block", "Block", "块图",
    ["block-beta",
     "    columns 2",
     "    a[\"Ingest\"] b[\"Store\"]",
     "    c[\"Query\"] d[\"Serve\"]"]⟩]

def find? (name : String) : Option Sample :=
  gallery.find? fun s => s.name.toList == name.toList.map Text.lowerAscii

end Sample

end DiagramDesk
