import CallAudit.Proofs.Files.Path

/-!
# Files and their addresses

A file below a folder is given by the names that lead to it.

* `Folder.Proper` says how folders are made up on a disk, and
  `Folder.below_induction` goes through the folders below one.
* `FileAddress` has the names that lead to a file, and `FileAddress.Before` the
  order of files level by level.
* `Folder.Holds` says that there is a file at an address.
-/

namespace CallAudit

/-! ## Folders -/

mutual

/-- An entry all of whose folders are proper. -/
def Entry.Proper : Entry → Prop
  | .directory folder => folder.Proper
  | _ => True

/-- A folder as disks have them: at every depth, the entries have names, and
different names. -/
def Folder.Proper : Folder → Prop
  | .empty => True
  | .put name entry rest =>
      Files.IsName name ∧ rest.get? name = none ∧ entry.Proper ∧ rest.Proper

end

namespace Folder

theorem get?_eq_none_iff {name : String} :
    ∀ {folder : Folder}, folder.get? name = none ↔
      ∀ item ∈ folder.toList, item.1 ≠ name
  | .empty => by simp [get?, toList]
  | .put other entry rest => by
      by_cases same : other = name
      · simp [get?, toList, same]
      · simp [get?, toList, same, get?_eq_none_iff]

/-- The entries of a proper folder are those that are listed. -/
theorem get?_eq_some_iff {name : String} {entry : Entry} :
    ∀ {folder : Folder}, folder.Proper →
      (folder.get? name = some entry ↔ (name, entry) ∈ folder.toList)
  | .empty, _ => by simp [get?, toList]
  | .put other first rest, proper => by
      obtain ⟨_, fresh, _, properRest⟩ := proper
      rw [get?, toList, List.mem_cons]
      split
      · next same =>
          subst same
          rw [get?_eq_none_iff] at fresh
          have absent : (other, entry) ∉ rest.toList := fun listed =>
            fresh _ listed rfl
          simp [absent, eq_comm]
      · next different =>
          rw [get?_eq_some_iff properRest]
          have other : (name, entry) ≠ (other, first) := by
            rintro ⟨⟩
            exact different rfl
          simp [other]

theorem Proper.of_mem {item : String × Entry} :
    ∀ {folder : Folder}, folder.Proper → item ∈ folder.toList →
      Files.IsName item.1 ∧ item.2.Proper
  | .put name entry rest, proper, listed => by
      obtain ⟨isName, _, properEntry, properRest⟩ := proper
      rcases List.mem_cons.mp listed with rfl | later
      · exact ⟨isName, properEntry⟩
      · exact properRest.of_mem later

theorem Proper.different_names :
    ∀ {folder : Folder}, folder.Proper →
      folder.toList.Pairwise fun left right => left.1 ≠ right.1
  | .empty, _ => .nil
  | .put name entry rest, proper => by
      obtain ⟨_, fresh, _, properRest⟩ := proper
      rw [get?_eq_none_iff] at fresh
      refine List.pairwise_cons.mpr ⟨?_, properRest.different_names⟩
      intro item listed
      exact (fresh item listed).symm

theorem sizeOf_lt_of_mem {name : String} {below : Folder} :
    ∀ {folder : Folder}, (name, Entry.directory below) ∈ folder.toList →
      sizeOf below < sizeOf folder
  | .put other entry rest, listed => by
      rcases List.mem_cons.mp listed with first | later
      · obtain ⟨_, rfl⟩ := Prod.mk.inj first
        simp only [put.sizeOf_spec, Entry.directory.sizeOf_spec]
        omega
      · have smaller := sizeOf_lt_of_mem later
        rw [put.sizeOf_spec]
        omega

/-- What holds of a folder when it holds of the directories in it holds of every
folder. -/
theorem below_induction {motive : Folder → Prop}
    (step : ∀ folder,
      (∀ name below, (name, Entry.directory below) ∈ folder.toList →
        motive below) → motive folder)
    (folder : Folder) : motive folder :=
  step folder fun _ below _ => below_induction step below
termination_by sizeOf folder
decreasing_by exact sizeOf_lt_of_mem ‹_›

end Folder

/-! ## Addresses of files -/

/-- How to get to a file from a folder: the directories to enter, one after the
other, and the name of the file. -/
structure FileAddress where
  directories : List String
  name : String
  deriving DecidableEq, Repr

namespace FileAddress

def components (address : FileAddress) : List String :=
  address.directories ++ [address.name]

/-- The path of a file, seen from the folder. -/
def inside (address : FileAddress) : String :=
  Text.joinWith "/" address.components

/-- The path of a file in a folder with a given path. -/
def path (root : String) (address : FileAddress) : String :=
  Files.joinPath root address.inside

def under (above : List String) (address : FileAddress) : FileAddress :=
  ⟨above ++ address.directories, address.name⟩

/-- At the first name where the ways to two files part, a file comes before a
directory, and of two files or two directories that with the smaller name comes
first. -/
def Before (left right : FileAddress) : Prop :=
  ∃ shared leftName rightName leftRest rightRest,
    left.components = shared ++ leftName :: leftRest ∧
      right.components = shared ++ rightName :: rightRest ∧
      leftName ≠ rightName ∧
      ((leftRest = [] ∧ rightRest ≠ []) ∨
        ((leftRest = [] ↔ rightRest = []) ∧ leftName < rightName))

theorem components_ne_nil (address : FileAddress) : address.components ≠ [] := by
  simp [components]

theorem under_nil (address : FileAddress) : address.under [] = address :=
  rfl

@[simp]
theorem components_under (above : List String) (address : FileAddress) :
    (address.under above).components = above ++ address.components := by
  simp [components, under]

theorem under_under (above below : List String) (address : FileAddress) :
    (address.under below).under above = address.under (above ++ below) := by
  simp [under]

theorem eq_of_components_eq {left right : FileAddress}
    (same : left.components = right.components) : left = right := by
  obtain ⟨leftDirectories, leftName⟩ := left
  obtain ⟨rightDirectories, rightName⟩ := right
  obtain ⟨rfl, names⟩ := List.append_inj' same rfl
  obtain rfl := List.singleton_inj.mp names
  rfl

/-- A file is directly in the folder, or under one of its directories. -/
theorem cases_under (address : FileAddress) :
    (∃ name, address = ⟨[], name⟩) ∨
      ∃ directory below, address = under [directory] below := by
  obtain ⟨directories, name⟩ := address
  cases directories with
  | nil =>
      exact Or.inl ⟨name, rfl⟩
  | cons directory rest =>
      exact Or.inr ⟨directory, ⟨rest, name⟩, rfl⟩

/-! ### The order -/

theorem Before.irrefl (address : FileAddress) : ¬ address.Before address := by
  rintro ⟨shared, leftName, rightName, leftRest, rightRest, isLeft, isRight,
    different, _⟩
  rw [isLeft] at isRight
  have same := List.append_cancel_left isRight
  exact different (List.cons.inj same).1

/-- Two chains of names part at one place only. -/
theorem parting_unique {left right shared other leftRest rightRest leftMore
    rightMore : List String} {leftName rightName leftOther rightOther : String}
    (isLeft : left = shared ++ leftName :: leftRest)
    (isRight : right = shared ++ rightName :: rightRest)
    (different : leftName ≠ rightName)
    (otherLeft : left = other ++ leftOther :: leftMore)
    (otherRight : right = other ++ rightOther :: rightMore)
    (otherDifferent : leftOther ≠ rightOther) : shared = other := by
  induction shared generalizing left right other with
  | nil =>
      cases other with
      | nil =>
          rfl
      | cons name other =>
          rw [isLeft] at otherLeft
          rw [isRight] at otherRight
          exact absurd ((List.cons.inj otherLeft).1.trans
            (List.cons.inj otherRight).1.symm) different
  | cons name shared inductionHypothesis =>
      rw [isLeft] at otherLeft
      rw [isRight] at otherRight
      cases other with
      | nil =>
          exact absurd ((List.cons.inj otherLeft).1.symm.trans
            (List.cons.inj otherRight).1) otherDifferent
      | cons first other =>
          obtain ⟨same, restLeft⟩ := List.cons.inj otherLeft
          obtain ⟨_, restRight⟩ := List.cons.inj otherRight
          rw [same, inductionHypothesis rfl rfl restLeft restRight]

theorem Before.asymm {left right : FileAddress} (before : left.Before right) :
    ¬ right.Before left := by
  rintro ⟨other, rightOther, leftOther, rightMore, leftMore, otherRight,
    otherLeft, otherDifferent, otherRule⟩
  obtain ⟨shared, leftName, rightName, leftRest, rightRest, isLeft, isRight,
    different, rule⟩ := before
  obtain rfl := parting_unique isLeft isRight different otherLeft otherRight
    otherDifferent.symm
  rw [isLeft] at otherLeft
  rw [isRight] at otherRight
  obtain ⟨rfl, rfl⟩ := List.cons.inj (List.append_cancel_left otherLeft)
  obtain ⟨rfl, rfl⟩ := List.cons.inj (List.append_cancel_left otherRight)
  rcases rule with ⟨isFile, isDirectory⟩ | ⟨alike, less⟩
  · rcases otherRule with ⟨none, _⟩ | ⟨otherAlike, _⟩
    · exact isDirectory none
    · exact isDirectory (otherAlike.mpr isFile)
  · rcases otherRule with ⟨none, some⟩ | ⟨_, greater⟩
    · exact some (alike.mpr none)
    · exact String.lt_irrefl leftName (String.lt_trans less greater)

theorem Before.under {left right : FileAddress} (before : left.Before right)
    (above : List String) : (left.under above).Before (right.under above) := by
  obtain ⟨shared, leftName, rightName, leftRest, rightRest, isLeft, isRight,
    rule⟩ := before
  refine ⟨above ++ shared, leftName, rightName, leftRest, rightRest, ?_, ?_,
    rule⟩
  · rw [components_under, isLeft, List.append_assoc]
  · rw [components_under, isRight, List.append_assoc]

theorem before_of_files {left right : String} (less : left < right) :
    Before ⟨[], left⟩ ⟨[], right⟩ :=
  ⟨[], left, right, [], [], rfl, rfl,
    fun same => String.lt_irrefl right (same ▸ less), Or.inr ⟨Iff.rfl, less⟩⟩

theorem before_of_file_of_directory {name directory : String}
    (different : name ≠ directory) (address : FileAddress) :
    Before ⟨[], name⟩ (address.under [directory]) :=
  ⟨[], name, directory, [], address.components, rfl, components_under _ _,
    different, Or.inl ⟨rfl, address.components_ne_nil⟩⟩

theorem before_of_directories {left right : String} (less : left < right)
    (first second : FileAddress) :
    Before (first.under [left]) (second.under [right]) :=
  ⟨[], left, right, first.components, second.components, components_under _ _,
    components_under _ _, fun same => String.lt_irrefl right (same ▸ less),
    Or.inr ⟨by simp [components_ne_nil], less⟩⟩

end FileAddress

/-! ## Files in a folder -/

namespace Folder

/-- There is a file at an address; a link that leads nowhere counts as one. -/
def Holds (folder : Folder) (address : FileAddress) : Prop :=
  ∃ entry, (Entry.directory folder).descend? address.components = some entry ∧
    entry.isDirectory = false

theorem holds_file_iff {folder : Folder} {name : String} :
    folder.Holds ⟨[], name⟩ ↔
      ∃ entry, folder.get? name = some entry ∧ entry.isDirectory = false := by
  simp [Holds, FileAddress.components, Entry.descend?]

theorem holds_under_iff {folder : Folder} {directory : String}
    {address : FileAddress} :
    folder.Holds (address.under [directory]) ↔
      ∃ below, folder.get? directory = some (.directory below) ∧
        below.Holds address := by
  simp only [Holds, FileAddress.components_under, List.cons_append,
    List.nil_append, Entry.descend?]
  cases found : folder.get? directory with
  | none =>
      simp
  | some entry =>
      cases entry with
      | directory below =>
          simp
      | _ =>
          have filled := address.components_ne_nil
          cases parts : address.components with
          | nil =>
              exact absurd parts filled
          | cons first rest =>
              simp [Entry.descend?]

/-- The names that lead to a file of a proper folder. -/
theorem Proper.isName_of_holds {folder : Folder} (proper : folder.Proper)
    {address : FileAddress} (holds : folder.Holds address) :
    ∀ component ∈ address.components, Files.IsName component := by
  induction folder using below_induction generalizing address with
  | step folder inductionHypothesis =>
      rcases address.cases_under with ⟨name, rfl⟩ | ⟨directory, rest, rfl⟩
      · obtain ⟨entry, found, _⟩ := holds_file_iff.mp holds
        rw [get?_eq_some_iff proper] at found
        intro component listed
        rw [List.mem_singleton.mp listed]
        exact (proper.of_mem found).1
      · obtain ⟨below, found, holdsRest⟩ := holds_under_iff.mp holds
        rw [get?_eq_some_iff proper] at found
        obtain ⟨isName, properBelow⟩ := proper.of_mem found
        rw [FileAddress.components_under]
        intro component listed
        rcases List.mem_append.mp listed with first | later
        · rw [List.mem_singleton.mp first]
          exact isName
        · exact inductionHypothesis directory below found properBelow
            holdsRest component later

/-- Different files of a proper folder have different paths. -/
theorem Proper.eq_of_path_eq {folder : Folder} (proper : folder.Proper)
    {root : String} {left right : FileAddress}
    (holdsLeft : folder.Holds left) (holdsRight : folder.Holds right)
    (same : left.path root = right.path root) : left = right :=
  FileAddress.eq_of_components_eq
    (Files.eq_of_joinPath_joinWith_eq (proper.isName_of_holds holdsLeft)
      (proper.isName_of_holds holdsRight) left.components_ne_nil
      right.components_ne_nil same)

end Folder

end CallAudit
