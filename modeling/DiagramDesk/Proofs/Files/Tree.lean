import DiagramDesk.Files.Tree
import DiagramDesk.Proofs.Except
import DiagramDesk.Proofs.Text.Utf8

/-!
What is written can be read, and what is removed is gone. Either happens at one place and leaves all
other places as they were; a path that led somewhere still leads there, since the directories on its
way are other places.
-/
namespace DiagramDesk.FileTree

open Text

variable {t after : FileTree} {place elsewhere : Place} {content : FileContent}
  {path other text : String}

/-! ### Places -/

theorem isOuter_of_node? (h : t.node? place ≠ some .directory) : place.isOuter = false := by
  cases houter : place.isOuter with
  | true => exact absurd (by rw [node?, houter, if_pos rfl]) h
  | false => rfl

theorem node?_put_self (node : FileNode) (h : place.isOuter = false) :
    (t.put place node).node? place = some node := by
  have hreplaced (nodes : List (Place × FileNode)) (hany : nodes.any fun e => e.1 = place) :
      (nodes.map fun e => if e.1 = place then (place, node) else e).find? (fun e => e.1 = place) =
        some (place, node) := by
    induction nodes with
    | nil => cases hany
    | cons e nodes ih =>
      by_cases he : e.1 = place
      · simp [he]
      · rw [List.any_cons, decide_eq_false he, Bool.false_or] at hany
        rw [List.map_cons, if_neg he, List.find?_cons_of_neg (by simpa using he), ih hany]
  simp only [node?, h, Bool.false_eq_true, if_false, put]
  split
  case isTrue hany => rw [hreplaced _ hany, Option.map_some]
  case isFalse hany =>
    have hnone : t.nodes.find? (fun e => e.1 = place) = none := by
      rw [List.find?_eq_none]
      intro e he hplace
      exact hany (List.any_eq_true.mpr ⟨e, he, hplace⟩)
    simp [List.find?_append, hnone]

theorem node?_put_other (node : FileNode) (h : elsewhere ≠ place) :
    (t.put place node).node? elsewhere = t.node? elsewhere := by
  have hreplaced (nodes : List (Place × FileNode)) :
      (nodes.map fun e => if e.1 = place then (place, node) else e).find? (fun e => e.1 = elsewhere) =
        nodes.find? (fun e => e.1 = elsewhere) := by
    induction nodes with
    | nil => rfl
    | cons e nodes ih =>
      rw [List.map_cons, List.find?_cons, List.find?_cons, ih]
      by_cases he : e.1 = place
      · simp [he, h.symm]
      · rw [if_neg he]
  simp only [node?, put]
  congr 2
  split
  case isTrue => exact hreplaced t.nodes
  case isFalse => simp [List.find?_append, h.symm]

theorem node?_drop_self (h : place.isOuter = false) : (t.drop place).node? place = none := by
  have hnone : (t.drop place).nodes.find? (fun e => e.1 = place) = none := by
    rw [List.find?_eq_none]
    intro e he
    simpa using (List.mem_filter.mp he).2
  simp [node?, h, hnone]

theorem node?_drop_other (h : elsewhere ≠ place) : (t.drop place).node? elsewhere = t.node? elsewhere := by
  have hkept : (t.drop place).nodes.find? (fun e => e.1 = elsewhere) =
      t.nodes.find? (fun e => e.1 = elsewhere) := by
    rw [drop, List.find?_filter]
    congr 1
    funext e
    by_cases he : e.1 = elsewhere <;> simp [he, h]
  simp only [node?, hkept]

/-! ### Paths -/

/-- A way through directories is the same in every tree that has these directories. -/
theorem walk_mono (h : ∀ p, t.node? p = some .directory → after.node? p = some .directory)
    {names : List (List Char)} {start : Place} (hwalk : t.walk start names = .ok elsewhere) :
    after.walk start names = .ok elsewhere := by
  induction names generalizing start with
  | nil => exact hwalk
  | cons name names ih =>
    rw [walk] at hwalk ⊢
    split at hwalk
    case isTrue habove =>
      rw [if_pos habove]
      exact ih hwalk
    case isFalse hname =>
      rw [if_neg hname]
      split at hwalk
      case isTrue => cases hwalk
      case isFalse hlength =>
        rw [if_neg hlength]
        split at hwalk
        case h_1 => cases hwalk
        case h_2 => cases hwalk
        case h_3 hnode =>
          rw [h _ hnode]
          exact ih hwalk

theorem locate_mono (h : ∀ p, t.node? p = some .directory → after.node? p = some .directory)
    (hlocate : t.locate path = .ok elsewhere) : after.locate path = .ok elsewhere := by
  obtain ⟨_, hcheck, hlocate⟩ := bind_eq_ok hlocate
  rw [locate, hcheck]
  cases hlast : (Path.names path).getLast? with
  | none =>
    rw [hlast] at hlocate
    exact hlocate
  | some name =>
    rw [hlast] at hlocate
    obtain ⟨found, hwalk, hlocate⟩ := bind_eq_ok hlocate
    simp only [walk_mono h hwalk]
    exact hlocate

/-- What is put where no directory is leaves every path as it was. -/
theorem locate_put (node : FileNode) (h : t.node? place ≠ some .directory)
    (hlocate : t.locate path = .ok elsewhere) : (t.put place node).locate path = .ok elsewhere := by
  refine locate_mono (fun p hp => ?_) hlocate
  have hne : p ≠ place := by
    rintro rfl
    exact h hp
  rw [node?_put_other node hne, hp]

/-- What goes from where no directory is leaves every path as it was. -/
theorem locate_drop (h : t.node? place ≠ some .directory)
    (hlocate : t.locate path = .ok elsewhere) : (t.drop place).locate path = .ok elsewhere := by
  refine locate_mono (fun p hp => ?_) hlocate
  have hne : p ≠ place := by
    rintro rfl
    exact h hp
  rw [node?_drop_other hne, hp]

/-! ### Reading -/

/-- What can be read is a file whose bytes spell a text. -/
theorem readText_eq_ok :
    t.readText path = .ok text ↔
      ∃ place content, t.locate path = .ok place ∧ t.node? place = some (.file content) ∧
        Path.isDirectoryLike path = false ∧ content.text? = some text := by
  constructor
  · intro h
    obtain ⟨content, hread, h⟩ := bind_eq_ok h
    obtain ⟨place, hlocate, hread⟩ := bind_eq_ok hread
    split at hread
    case h_1 => cases hread
    case h_2 => cases hread
    case h_3 held hnode =>
      split at hread
      case isTrue => cases hread
      case isFalse hlike =>
        obtain rfl : held = content := Except.ok.inj hread
        split at h
        case h_1 found htext =>
          obtain rfl : found = text := Except.ok.inj h
          exact ⟨place, held, hlocate, hnode, by simpa using hlike, htext⟩
        case h_2 => cases h
  · rintro ⟨place, content, hlocate, hnode, hlike, htext⟩
    have hread : t.read path = .ok content := by
      simp only [read, hlocate, bind, Except.bind, hnode, hlike]
      rfl
    simp only [readText, hread, bind, Except.bind, htext]
    rfl

theorem present_of_readText (h : t.readText path = .ok text) : t.present path = true := by
  obtain ⟨place, content, hlocate, hnode, hlike, -⟩ := readText_eq_ok.mp h
  simp [present, find?, hlocate, hnode, hlike]

/-! ### Keeping what is there -/

/-- Two paths lead to the same place. -/
def Meet (t : FileTree) (path other : String) : Prop :=
  ∃ place, t.locate path = .ok place ∧ t.locate other = .ok place

/-- Whatever led somewhere still does, and all files are there with what they held. -/
structure Keeps (t after : FileTree) : Prop where
  locate : ∀ path place, t.locate path = .ok place → after.locate path = .ok place
  file : ∀ place content,
    t.node? place = some (.file content) → after.node? place = some (.file content)

theorem Keeps.refl (t : FileTree) : t.Keeps t := ⟨fun _ _ => id, fun _ _ => id⟩

theorem Keeps.trans {t between after : FileTree} (h₁ : t.Keeps between) (h₂ : between.Keeps after) :
    t.Keeps after where
  locate path place h := h₂.locate path place (h₁.locate path place h)
  file place content h := h₂.file place content (h₁.file place content h)

theorem Keeps.meet (h : t.Keeps after) (hmeet : t.Meet path other) : after.Meet path other := by
  obtain ⟨place, hpath, hother⟩ := hmeet
  exact ⟨place, h.locate path place hpath, h.locate other place hother⟩

theorem Keeps.readText (h : t.Keeps after) (htext : t.readText path = .ok text) :
    after.readText path = .ok text := by
  obtain ⟨place, content, hlocate, hnode, hlike, hcontent⟩ := readText_eq_ok.mp htext
  exact readText_eq_ok.mpr
    ⟨place, content, h.locate path place hlocate, h.file place content hnode, hlike, hcontent⟩

/-! ### Directories -/

/-- Putting something where nothing is keeps the rest. -/
theorem keeps_put {place : Place} (node : FileNode) (h : t.node? place = none) :
    t.Keeps (t.put place node) where
  locate path other hlocate := locate_put node (by simp [h]) hlocate
  file other content hfile := by
    have hne : other ≠ place := by
      rintro rfl
      simp [h] at hfile
    rw [node?_put_other node hne, hfile]

theorem keeps_makeAlong (made : Bool) (start : Place) (names : List (List Char)) :
    t.Keeps (makeAlong made t start names).2 := by
  induction names generalizing made t start with
  | nil => exact .refl t
  | cons name names ih =>
    rw [makeAlong]
    split
    · exact ih made start.up
    split
    · exact .refl t
    dsimp only
    split
    case h_1 => exact ih made _
    case h_2 => exact .refl t
    case h_3 hnode => exact (keeps_put .directory hnode).trans (ih true _)

theorem keeps_makeDirectories (t : FileTree) (path : String) :
    t.Keeps (t.makeDirectories path).2 := by
  unfold makeDirectories
  split
  · exact keeps_makeAlong false [] (Path.names path)
  · exact .refl t

/-! ### The same files -/

/-- There is the same file at a place, with what it held, or no file as before. -/
def SameAt (t after : FileTree) (place : Place) : Prop :=
  ∀ content, after.node? place = some (.file content) ↔ t.node? place = some (.file content)

/-- The files are those that were there, each with what it held. -/
def SameFiles (t after : FileTree) : Prop := ∀ place, t.SameAt after place

theorem SameAt.refl (t : FileTree) (place : Place) : t.SameAt t place := fun _ => .rfl

theorem SameAt.trans {between : FileTree} (h₁ : t.SameAt between place)
    (h₂ : between.SameAt after place) : t.SameAt after place :=
  fun content => (h₂ content).trans (h₁ content)

theorem SameFiles.refl (t : FileTree) : t.SameFiles t := fun place => .refl t place

theorem SameFiles.trans {between : FileTree} (h₁ : t.SameFiles between)
    (h₂ : between.SameFiles after) : t.SameFiles after :=
  fun place => (h₁ place).trans (h₂ place)

theorem sameAt_put_other (node : FileNode) (h : elsewhere ≠ place) :
    t.SameAt (t.put place node) elsewhere := fun _ => by rw [node?_put_other node h]

/-- A new directory is no file. -/
theorem sameFiles_put_directory (h : t.node? place = none) :
    t.SameFiles (t.put place .directory) := by
  intro other
  by_cases hother : other = place
  · subst hother
    have houter : other.isOuter = false := isOuter_of_node? (t := t) (by simp [h])
    intro content
    simp [node?_put_self .directory houter, h]
  · exact sameAt_put_other .directory hother

theorem sameFiles_makeAlong (made : Bool) (start : Place) (names : List (List Char)) :
    t.SameFiles (makeAlong made t start names).2 := by
  induction names generalizing made t start with
  | nil => exact .refl t
  | cons name names ih =>
    rw [makeAlong]
    split
    · exact ih made start.up
    split
    · exact .refl t
    dsimp only
    split
    case h_1 => exact ih made _
    case h_2 => exact .refl t
    case h_3 hnode => exact (sameFiles_put_directory hnode).trans (ih true _)

theorem sameFiles_makeDirectories (t : FileTree) (path : String) :
    t.SameFiles (t.makeDirectories path).2 := by
  unfold makeDirectories
  split
  · exact sameFiles_makeAlong false [] (Path.names path)
  · exact .refl t

/-- A file was written where a path leads, and all other files are as they were. -/
structure Wrote (t after : FileTree) (path : String) (content : FileContent) : Prop where
  read : after.read path = .ok content
  others : ∃ place, after.locate path = .ok place ∧ ∀ other, other ≠ place → t.SameAt after other

/-! ### Writing -/

/-- A file is written where its path leads, unless a directory is there or the path can only be
that of one. -/
theorem write_eq_ok (h : t.write path content = .ok after) :
    ∃ place, t.locate path = .ok place ∧ t.node? place ≠ some .directory ∧
      Path.isDirectoryLike path = false ∧ after = t.put place (.file content) := by
  obtain ⟨_, -, h⟩ := bind_eq_ok h
  dsimp only at h
  split at h
  case isTrue =>
    obtain ⟨_, -, h⟩ := bind_eq_ok h
    cases h
  case isFalse hdot =>
    split at h
    case isTrue =>
      obtain ⟨_, -, h⟩ := bind_eq_ok h
      cases h
    case isFalse hslash =>
      obtain ⟨place, hlocate, h⟩ := bind_eq_ok h
      split at h
      case h_1 => cases h
      case h_2 hnode =>
        refine ⟨place, hlocate, hnode, ?_, (Except.ok.inj h).symm⟩
        simp [Path.isDirectoryLike, hdot, hslash]

theorem wrote_of_write (h : t.write path content = .ok after) : t.Wrote after path content := by
  obtain ⟨place, hlocate, hnode, hlike, rfl⟩ := write_eq_ok h
  have hlocate' := locate_put (.file content) hnode hlocate
  have hself := node?_put_self (t := t) (.file content) (isOuter_of_node? hnode)
  refine ⟨?_, place, hlocate', fun other hother => sameAt_put_other _ hother⟩
  simp only [read, hlocate', bind, Except.bind, hself, hlike]
  rfl

/-- A text that was written to a file is what the file holds. -/
theorem readText_write (h : t.write path (.ofText text) = .ok after) :
    after.readText path = .ok text := by
  obtain ⟨place, hlocate, hnode, hlike, rfl⟩ := write_eq_ok h
  exact readText_eq_ok.mpr ⟨place, .ofText text, locate_put _ hnode hlocate,
    node?_put_self _ (isOuter_of_node? hnode), hlike, ofUtf8?_utf8 text⟩

/-- After a file was written all paths still lead where they led. -/
theorem locate_write (h : t.write path content = .ok after)
    (hlocate : t.locate other = .ok place) : after.locate other = .ok place := by
  obtain ⟨written, -, hnode, -, rfl⟩ := write_eq_ok h
  exact locate_put _ hnode hlocate

theorem meet_write {first second : String} (h : t.write path content = .ok after)
    (hmeet : t.Meet first second) : after.Meet first second := by
  obtain ⟨place, hfirst, hsecond⟩ := hmeet
  exact ⟨place, locate_write h hfirst, locate_write h hsecond⟩

/-- A text stays in its file when another file is written. -/
theorem readText_write_other (h : t.write path content = .ok after)
    (htext : t.readText other = .ok text) :
    after.readText other = .ok text ∨ after.Meet path other := by
  obtain ⟨written, hwritten, hnode, -, rfl⟩ := write_eq_ok h
  obtain ⟨place, old, hlocate, hfile, hlike, hold⟩ := readText_eq_ok.mp htext
  have hlocate' := locate_put (.file content) hnode hlocate
  by_cases hsame : place = written
  · right
    exact ⟨written, locate_put _ hnode hwritten, hsame ▸ hlocate'⟩
  · left
    exact readText_eq_ok.mpr
      ⟨place, old, hlocate', by rw [node?_put_other _ hsame, hfile], hlike, hold⟩

/-! ### Removing -/

/-- A file is removed where its path leads. -/
theorem remove_eq_ok (h : t.remove path = .ok after) :
    ∃ place content, t.locate path = .ok place ∧ t.node? place = some (.file content) ∧
      after = t.drop place := by
  obtain ⟨place, hlocate, h⟩ := bind_eq_ok h
  split at h
  case h_1 => cases h
  case h_2 => cases h
  case h_3 content hnode =>
    split at h
    case isTrue => cases h
    case isFalse => exact ⟨place, content, hlocate, hnode, (Except.ok.inj h).symm⟩

/-- Where a file was removed, nothing is. -/
theorem present_remove (h : t.remove path = .ok after) : after.present path = false := by
  obtain ⟨place, content, hlocate, hnode, rfl⟩ := remove_eq_ok h
  have hfile : t.node? place ≠ some .directory := by simp [hnode]
  simp [present, find?, locate_drop hfile hlocate, node?_drop_self (isOuter_of_node? hfile)]

/-- A text stays in its file when another file is removed. -/
theorem readText_remove_other (h : t.remove path = .ok after) (htext : t.readText other = .ok text) :
    after.readText other = .ok text ∨ after.Meet path other := by
  obtain ⟨removed, content, hremoved, hnode, rfl⟩ := remove_eq_ok h
  have hfile : t.node? removed ≠ some .directory := by simp [hnode]
  obtain ⟨place, old, hlocate, hold, hlike, htext⟩ := readText_eq_ok.mp htext
  by_cases hsame : place = removed
  · right
    subst hsame
    exact ⟨place, locate_drop hfile hremoved, locate_drop hfile hlocate⟩
  · left
    exact readText_eq_ok.mpr
      ⟨place, old, locate_drop hfile hlocate, by rw [node?_drop_other hsame, hold], hlike, htext⟩

end DiagramDesk.FileTree
