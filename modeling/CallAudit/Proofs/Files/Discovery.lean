import CallAudit.Proofs.Files.Address

/-!
# The files that are discovered

Discovery goes through a folder level by level.  This module says what it comes
to as a whole: which files below the folder are listed, that each is listed
once, and in which order.

* `Settings.Selects` says which files are to be listed, in terms of the names
  that lead to them.
* `Folder.Lists` relates a folder under other directories to a list of paths,
  and `Folder.walk_lists` shows by induction over the folders below that the
  walk keeps to it.
-/

namespace CallAudit

/-! ## Sorting by name -/

namespace Files

variable {α : Type}

theorem insertByName_perm (item : String × α) :
    ∀ items, (insertByName item items).Perm (item :: items)
  | [] => .refl _
  | head :: rest => by
      rw [insertByName]
      split
      · exact .refl _
      · exact ((insertByName_perm item rest).cons head).trans
          (.swap item head rest)

theorem sortByName_perm :
    ∀ items : List (String × α), (sortByName items).Perm items
  | [] => .refl _
  | item :: rest =>
      (insertByName_perm item (sortByName rest)).trans
        ((sortByName_perm rest).cons item)

/-- Things with different names that stand in the order of the names. -/
abbrev InOrder (items : List (String × α)) : Prop :=
  items.Pairwise fun left right => left.1 < right.1

theorem insertByName_inOrder {item : String × α} :
    ∀ {items : List (String × α)}, InOrder items →
      (∀ other ∈ items, item.1 ≠ other.1) → InOrder (insertByName item items)
  | [], _, _ => List.pairwise_singleton _ _
  | head :: rest, ordered, different => by
      obtain ⟨least, ordered⟩ := List.pairwise_cons.mp ordered
      rw [insertByName]
      split
      · next before =>
          refine List.pairwise_cons.mpr ⟨?_, List.pairwise_cons.mpr
            ⟨least, ordered⟩⟩
          intro other listed
          rcases List.mem_cons.mp listed with rfl | later
          · exact before
          · exact String.lt_trans before (least other later)
      · next notBefore =>
          have after : head.1 < item.1 :=
            lt_of_le_of_ne (String.not_lt.mp notBefore)
              (different head List.mem_cons_self).symm
          refine List.pairwise_cons.mpr ⟨?_, insertByName_inOrder ordered
            fun other listed => different other (List.mem_cons_of_mem head listed)⟩
          intro other listed
          rcases List.mem_cons.mp ((insertByName_perm item rest).mem_iff.mp
            listed) with rfl | later
          · exact after
          · exact least other later

/-- Things with different names are put in the order of their names. -/
theorem sortByName_inOrder :
    ∀ {items : List (String × α)},
      (items.Pairwise fun left right => left.1 ≠ right.1) →
        InOrder (sortByName items)
  | [], _ => .nil
  | item :: rest, different => by
      obtain ⟨fresh, different⟩ := List.pairwise_cons.mp different
      refine insertByName_inOrder (sortByName_inOrder different) ?_
      intro other listed
      exact fresh other ((sortByName_perm rest).mem_iff.mp listed)

end Files

/-! ## Which files are listed -/

namespace Settings

/-- No directory of a chain is left out. -/
def Enters (settings : Settings) (directories : List String) : Prop :=
  ∀ front, front ≠ [] → front <+: directories →
    settings.excludes (Text.joinWith "/" front) = false

/-- A file is selected: its name is one to take, no directory on the way to it
is left out, and its own path is not left out either. -/
structure Selects (settings : Settings) (address : FileAddress) : Prop where
  taken : settings.takes address.name = true
  entered : settings.Enters address.directories
  kept : settings.excludes address.inside = false

variable {settings : Settings}

theorem enters_nil : settings.Enters [] := by
  intro front filled isPrefix
  exact absurd (List.prefix_nil.mp isPrefix) filled

theorem enters_concat_iff {above : List String} {directory : String} :
    settings.Enters (above ++ [directory]) ↔
      settings.Enters above ∧
        settings.excludes (Text.joinWith "/" (above ++ [directory])) =
          false := by
  constructor
  · intro entered
    refine ⟨fun front filled isPrefix => entered front filled ?_, ?_⟩
    · exact isPrefix.trans (List.prefix_append above [directory])
    · exact entered _ (by simp) (List.prefix_refl _)
  · rintro ⟨entered, last⟩ front filled isPrefix
    rcases List.prefix_concat_iff.mp isPrefix with rfl | shorter
    · exact last
    · exact entered front filled shorter

theorem Selects.enters {above : List String} {directory : String}
    {address : FileAddress}
    (selects : settings.Selects (address.under (above ++ [directory]))) :
    settings.Enters (above ++ [directory]) := by
  intro front filled isPrefix
  exact selects.entered front filled
    (isPrefix.trans (List.prefix_append _ address.directories))

/-- No component of a selected file is the name of a directory that is never
entered. -/
theorem Selects.not_mem_skipped {address : FileAddress}
    (selects : settings.Selects address) :
    ∀ component ∈ address.components, component ∉ skippedDirectories := by
  intro component listed skipped
  have excluded := settings.excludes_of_mem_skipped listed skipped
  have kept := selects.kept
  rw [FileAddress.inside, excluded] at kept
  cases kept

/-- A walk through the files below a root has entered some directories, which
lead to a path. -/
structure Reaches (settings : Settings) (root : String) (above : List String)
    (path : String) : Prop where
  areNames : ∀ name ∈ above, Files.IsName name
  entered : settings.Enters above
  leads : ∀ name, Files.joinPath path name =
    Files.joinPath root (Text.joinWith "/" (above ++ [name]))

theorem reaches_root (settings : Settings) (root : String) :
    settings.Reaches root [] root where
  areNames _ listed := absurd listed List.not_mem_nil
  entered := enters_nil
  leads name := by
    rw [List.nil_append, Text.joinWith, String.intercalate_singleton]

theorem Reaches.enter {root path directory : String} {above : List String}
    (reaches : settings.Reaches root above path)
    (isName : Files.IsName directory)
    (entered : settings.excludes
      (Text.joinWith "/" (above ++ [directory])) = false) :
    settings.Reaches root (above ++ [directory])
      (Files.joinPath path directory) := by
  have areNames : ∀ name ∈ above ++ [directory], Files.IsName name := by
    intro name listed
    rcases List.mem_append.mp listed with earlier | last
    · exact reaches.areNames name earlier
    · rw [List.mem_singleton.mp last]
      exact isName
  refine ⟨areNames, enters_concat_iff.mpr ⟨reaches.entered, entered⟩, ?_⟩
  intro name
  rw [reaches.leads directory,
    Files.joinPath_joinPath_joinWith areNames (by simp)]

end Settings

/-! ## One folder -/

namespace Folder

/-- The files in and below a folder that the settings select, given the path of
the folder and its path as seen from the top. -/
def walk (settings : Settings) (path inside : String) (folder : Folder) :
    List String :=
  folder.selected settings path inside ++
    (Files.sortByName (folder.branches settings path inside)).flatMap Prod.snd

/-- The branch for an entry, if it is a directory that is entered. -/
def branch? (settings : Settings) (path inside : String) :
    String × Entry → Option (String × List String)
  | (name, .directory below) =>
      if settings.excludes (Files.joinPath inside name) then none
      else some (name, below.walk settings (Files.joinPath path name)
        (Files.joinPath inside name))
  | _ => none

variable {settings : Settings} {path inside : String}

theorem branches_eq_filterMap :
    ∀ folder, branches settings path inside folder =
      folder.toList.filterMap (branch? settings path inside)
  | .empty => rfl
  | .put name (.directory below) rest => by
      rw [branches, toList, List.filterMap_cons, ← branches_eq_filterMap rest,
        branch?]
      split
      · simp
      · simp [walk]
  | .put name (.file content) rest => by
      rw [toList, List.filterMap_cons, ← branches_eq_filterMap rest]
      rfl
  | .put name .broken rest => by
      rw [toList, List.filterMap_cons, ← branches_eq_filterMap rest]
      rfl

theorem branch?_eq_some_iff {name : String} {entry : Entry}
    {branch : String × List String} :
    branch? settings path inside (name, entry) = some branch ↔
      ∃ below, entry = .directory below ∧
        settings.excludes (Files.joinPath inside name) = false ∧
        branch = (name, below.walk settings (Files.joinPath path name)
          (Files.joinPath inside name)) := by
  cases entry with
  | directory below =>
      cases excluded : settings.excludes (Files.joinPath inside name) with
      | true =>
          simp [branch?, excluded]
      | false =>
          simp [branch?, excluded, eq_comm]
  | _ =>
      simp [branch?]

/-- The branches of a folder are the walks of the directories in it that are
entered. -/
theorem mem_branches_iff {folder : Folder} (proper : folder.Proper)
    {branch : String × List String} :
    branch ∈ branches settings path inside folder ↔
      ∃ below, folder.get? branch.1 = some (.directory below) ∧
        settings.excludes (Files.joinPath inside branch.1) = false ∧
        branch.2 = below.walk settings (Files.joinPath path branch.1)
          (Files.joinPath inside branch.1) := by
  rw [branches_eq_filterMap, List.mem_filterMap]
  constructor
  · rintro ⟨⟨name, entry⟩, listed, isBranch⟩
    obtain ⟨below, rfl, entered, rfl⟩ := branch?_eq_some_iff.mp isBranch
    exact ⟨below, (get?_eq_some_iff proper).mpr listed, entered, rfl⟩
  · rintro ⟨below, found, entered, paths⟩
    refine ⟨_, (get?_eq_some_iff proper).mp found,
      branch?_eq_some_iff.mpr ⟨below, rfl, entered, ?_⟩⟩
    rw [← paths]

/-- The branches of a folder have different names. -/
theorem branches_different_names {folder : Folder} (proper : folder.Proper) :
    (branches settings path inside folder).Pairwise
      fun left right => left.1 ≠ right.1 := by
  rw [branches_eq_filterMap, List.pairwise_filterMap]
  refine proper.different_names.imp ?_
  rintro ⟨leftName, leftEntry⟩ ⟨rightName, rightEntry⟩ different left isLeft
    right isRight
  obtain ⟨_, _, _, rfl⟩ := branch?_eq_some_iff.mp isLeft
  obtain ⟨_, _, _, rfl⟩ := branch?_eq_some_iff.mp isRight
  exact different

theorem mem_fileNames_iff {folder : Folder} (proper : folder.Proper)
    {name : String} :
    name ∈ folder.fileNames ↔ folder.Holds ⟨[], name⟩ := by
  rw [holds_file_iff, fileNames, List.mem_map]
  simp only [(Files.sortByName_perm _).mem_iff, List.mem_filter,
    get?_eq_some_iff proper]
  constructor
  · rintro ⟨⟨_, entry⟩, ⟨listed, isFile⟩, rfl⟩
    exact ⟨entry, listed, by simpa using isFile⟩
  · rintro ⟨entry, listed, isFile⟩
    exact ⟨(name, entry), ⟨listed, by simpa using isFile⟩, rfl⟩

theorem fileNames_pairwise_lt {folder : Folder} (proper : folder.Proper) :
    folder.fileNames.Pairwise (· < ·) := by
  rw [fileNames, List.pairwise_map]
  exact Files.sortByName_inOrder (proper.different_names.filter _)

/-! ## All folders below -/

/-- Of two paths, the first is that of a file which comes before the file of the
second. -/
def Precedes (folder : Folder) (root : String) (above : List String)
    (left right : String) : Prop :=
  ∃ first second, folder.Holds first ∧ folder.Holds second ∧
    (first.under above).path root = left ∧
    (second.under above).path root = right ∧ first.Before second

/-- A list of paths has exactly the selected files of a folder that stands under
some directories, in order. -/
structure Lists (settings : Settings) (root : String) (above : List String)
    (folder : Folder) (paths : List String) : Prop where
  mem_iff : ∀ path, path ∈ paths ↔
    ∃ address, folder.Holds address ∧
      settings.Selects (address.under above) ∧
      (address.under above).path root = path
  ordered : paths.Pairwise (folder.Precedes root above)

section Step

variable {root : String} {above : List String} {folder : Folder}
  (reaches : settings.Reaches root above path) (proper : folder.Proper)

include reaches

theorem path_file (name : String) :
    (FileAddress.under above ⟨[], name⟩).path root =
      Files.joinPath path name := by
  rw [reaches.leads, FileAddress.path, FileAddress.inside,
    FileAddress.components_under]
  rfl

theorem selects_file_iff {name : String} :
    settings.Selects (FileAddress.under above ⟨[], name⟩) ↔
      settings.takes name = true ∧
        settings.excludes (Files.joinPath (Text.joinWith "/" above) name) =
          false := by
  have inside : (FileAddress.under above ⟨[], name⟩).inside =
      Files.joinPath (Text.joinWith "/" above) name := by
    rw [FileAddress.inside, FileAddress.components_under,
      Files.joinPath_joinWith reaches.areNames]
    rfl
  constructor
  · rintro ⟨taken, _, kept⟩
    exact ⟨taken, inside ▸ kept⟩
  · rintro ⟨taken, kept⟩
    refine ⟨taken, ?_, inside ▸ kept⟩
    rw [FileAddress.under, List.append_nil]
    exact reaches.entered

include proper

/-- The files directly in a folder. -/
theorem mem_selected_iff {listed : String} :
    listed ∈ folder.selected settings path (Text.joinWith "/" above) ↔
      ∃ name, folder.Holds ⟨[], name⟩ ∧
        settings.Selects (FileAddress.under above ⟨[], name⟩) ∧
        (FileAddress.under above ⟨[], name⟩).path root = listed := by
  simp only [selected, List.mem_map, List.mem_filter, mem_fileNames_iff proper,
    selects_file_iff reaches, path_file reaches, Bool.and_eq_true,
    Bool.not_eq_true', and_assoc]

theorem selected_ordered :
    (folder.selected settings path (Text.joinWith "/" above)).Pairwise
      (folder.Precedes root above) := by
  rw [selected, List.pairwise_map]
  refine List.Pairwise.filter _ ?_
  refine (fileNames_pairwise_lt proper).imp_of_mem ?_
  intro left right isLeft isRight less
  exact ⟨_, _, (mem_fileNames_iff proper).mp isLeft,
    (mem_fileNames_iff proper).mp isRight, path_file reaches left,
    path_file reaches right, FileAddress.before_of_files less⟩

variable (belowLists : ∀ name below,
  folder.get? name = some (.directory below) →
    settings.excludes (Text.joinWith "/" (above ++ [name])) = false →
      Lists settings root (above ++ [name]) below
        (below.walk settings (Files.joinPath path name)
          (Text.joinWith "/" (above ++ [name]))))

include belowLists

/-- A branch of a folder lists the files under its directory. -/
theorem exists_lists_of_mem_branches {branch : String × List String}
    (isBranch : branch ∈
      branches settings path (Text.joinWith "/" above) folder) :
    ∃ below, folder.get? branch.1 = some (.directory below) ∧
      Lists settings root (above ++ [branch.1]) below branch.2 := by
  obtain ⟨below, found, entered, paths⟩ := (mem_branches_iff proper).mp isBranch
  rw [Files.joinPath_joinWith reaches.areNames] at entered paths
  rw [paths]
  exact ⟨below, found, belowLists _ below found entered⟩

/-- The files of the branches are those under the directories of the folder. -/
theorem mem_branches_flatMap_iff {listed : String} :
    listed ∈ (Files.sortByName
        (branches settings path (Text.joinWith "/" above) folder)).flatMap
          Prod.snd ↔
      ∃ (directory : String) (address : FileAddress),
        folder.Holds (address.under [directory]) ∧
        settings.Selects ((address.under [directory]).under above) ∧
        ((address.under [directory]).under above).path root = listed := by
  simp only [List.mem_flatMap, (Files.sortByName_perm _).mem_iff,
    FileAddress.under_under]
  constructor
  · rintro ⟨branch, isBranch, inside⟩
    obtain ⟨below, found, lists⟩ :=
      exists_lists_of_mem_branches reaches proper belowLists isBranch
    obtain ⟨address, holds, selects, isPath⟩ := (lists.mem_iff listed).mp inside
    exact ⟨branch.1, address, holds_under_iff.mpr ⟨below, found, holds⟩,
      selects, isPath⟩
  · rintro ⟨directory, address, holds, selects, isPath⟩
    obtain ⟨below, found, holdsBelow⟩ := holds_under_iff.mp holds
    -- A selected file is never under a directory that is left out.
    have entered := (Settings.enters_concat_iff.mp selects.enters).2
    have inside := Files.joinPath_joinWith reaches.areNames directory
    refine ⟨(directory, below.walk settings (Files.joinPath path directory)
      (Text.joinWith "/" (above ++ [directory]))), ?_, ?_⟩
    · rw [mem_branches_iff proper, inside]
      exact ⟨below, found, entered, rfl⟩
    · exact ((belowLists directory below found entered).mem_iff listed).mpr
        ⟨address, holdsBelow, selects, isPath⟩

theorem branches_flatMap_ordered :
    ((Files.sortByName
      (branches settings path (Text.joinWith "/" above) folder)).flatMap
        Prod.snd).Pairwise (folder.Precedes root above) := by
  have lists : ∀ branch ∈ Files.sortByName
      (branches settings path (Text.joinWith "/" above) folder),
      ∃ below, folder.get? branch.1 = some (.directory below) ∧
        Lists settings root (above ++ [branch.1]) below branch.2 := by
    intro branch listed
    exact exists_lists_of_mem_branches reaches proper belowLists
      ((Files.sortByName_perm _).mem_iff.mp listed)
  rw [List.pairwise_flatMap]
  constructor
  · intro branch isBranch
    obtain ⟨below, found, lists⟩ := lists branch isBranch
    refine lists.ordered.imp ?_
    rintro left right ⟨first, second, holdsFirst, holdsSecond, isFirst,
      isSecond, before⟩
    rw [← FileAddress.under_under] at isFirst isSecond
    exact ⟨_, _, holds_under_iff.mpr ⟨below, found, holdsFirst⟩,
      holds_under_iff.mpr ⟨below, found, holdsSecond⟩, isFirst, isSecond,
      before.under [branch.1]⟩
  · have different : (branches settings path (Text.joinWith "/" above)
        folder).Pairwise fun left right => left.1 ≠ right.1 :=
      branches_different_names proper
    refine (Files.sortByName_inOrder different).imp_of_mem ?_
    intro leftBranch rightBranch isLeft isRight less left inLeft right inRight
    obtain ⟨leftBelow, leftFound, leftLists⟩ := lists leftBranch isLeft
    obtain ⟨rightBelow, rightFound, rightLists⟩ := lists rightBranch isRight
    obtain ⟨first, holdsFirst, _, isFirst⟩ := (leftLists.mem_iff left).mp inLeft
    obtain ⟨second, holdsSecond, _, isSecond⟩ :=
      (rightLists.mem_iff right).mp inRight
    rw [← FileAddress.under_under] at isFirst isSecond
    exact ⟨_, _, holds_under_iff.mpr ⟨leftBelow, leftFound, holdsFirst⟩,
      holds_under_iff.mpr ⟨rightBelow, rightFound, holdsSecond⟩, isFirst,
      isSecond, FileAddress.before_of_directories less first second⟩

/-- A folder lists its files when the directories in it list theirs. -/
theorem walk_lists_of_below :
    Lists settings root above folder
      (folder.walk settings path (Text.joinWith "/" above)) := by
  constructor
  · intro listed
    rw [walk, List.mem_append, mem_selected_iff reaches proper,
      mem_branches_flatMap_iff reaches proper belowLists]
    constructor
    · rintro (⟨name, isListed⟩ | ⟨directory, address, isListed⟩)
      · exact ⟨_, isListed⟩
      · exact ⟨_, isListed⟩
    · rintro ⟨address, isListed⟩
      rcases address.cases_under with ⟨name, rfl⟩ | ⟨directory, below, rfl⟩
      · exact Or.inl ⟨name, isListed⟩
      · exact Or.inr ⟨directory, below, isListed⟩
  · rw [walk, List.pairwise_append]
    refine ⟨selected_ordered reaches proper,
      branches_flatMap_ordered reaches proper belowLists, ?_⟩
    intro left isLeft right isRight
    obtain ⟨name, holdsName, _, isName⟩ :=
      (mem_selected_iff reaches proper).mp isLeft
    obtain ⟨directory, address, holds, _, isPath⟩ :=
      (mem_branches_flatMap_iff reaches proper belowLists).mp isRight
    refine ⟨_, _, holdsName, holds, isName, isPath,
      FileAddress.before_of_file_of_directory ?_ address⟩
    -- One name cannot stand for a file and for a directory.
    rintro rfl
    obtain ⟨entry, found, isFile⟩ := holds_file_iff.mp holdsName
    obtain ⟨below, foundBelow, _⟩ := holds_under_iff.mp holds
    rw [foundBelow, Option.some.injEq] at found
    rw [← found] at isFile
    cases isFile

end Step

/-- The walk through a proper folder lists its selected files in order. -/
theorem walk_lists {root : String} (folder : Folder) (proper : folder.Proper)
    {above : List String} (reaches : settings.Reaches root above path) :
    Lists settings root above folder
      (folder.walk settings path (Text.joinWith "/" above)) := by
  -- The directories above grow on the way down, so they are not fixed.
  induction folder using below_induction generalizing above path with
  | step folder inductionHypothesis =>
      apply walk_lists_of_below reaches proper
      intro name below found entered
      rw [get?_eq_some_iff proper] at found
      obtain ⟨isName, properBelow⟩ := proper.of_mem found
      exact inductionHypothesis name below found properBelow
        (reaches.enter isName entered)

theorem Lists.nodup {folder : Folder} (proper : folder.Proper) {root : String}
    {paths : List String} (lists : Lists settings root [] folder paths) :
    paths.Nodup := by
  refine lists.ordered.imp ?_
  rintro left _ ⟨first, second, holdsFirst, holdsSecond, isFirst, isSecond,
    before⟩ rfl
  have same := proper.eq_of_path_eq holdsFirst holdsSecond
    (isFirst.trans isSecond.symm)
  rw [same] at before
  exact before.irrefl

end Folder

/-! ## Discovery -/

section Discovery

variable {disk : Disk} {root : String} {folder : Folder}
  (settings : Settings) (found : disk.folder? root = some folder)
  (proper : folder.Proper)

include found proper

theorem Disk.lists_discover :
    Folder.Lists settings root [] folder (disk.discover settings root) := by
  have isWalk : disk.discover settings root =
      folder.walk settings root (Text.joinWith "/" []) := by
    rw [discover, found]
    rfl
  rw [isWalk]
  exact Folder.walk_lists folder proper (settings.reaches_root root)

/-- A file is listed exactly when it is selected. -/
theorem Disk.mem_discover_iff {address : FileAddress}
    (holds : folder.Holds address) :
    address.path root ∈ disk.discover settings root ↔
      settings.Selects address := by
  rw [(lists_discover settings found proper).mem_iff]
  constructor
  -- The path alone tells which file it belongs to.
  · rintro ⟨other, holdsOther, selects, same⟩
    rw [FileAddress.under_nil] at selects same
    rw [← proper.eq_of_path_eq holdsOther holds same]
    exact selects
  · intro selects
    exact ⟨address, holds, selects, rfl⟩

end Discovery

/-- Discovery below a directory lists exactly the selected files, each once.  No
component of a listed file is the name of a directory that is never entered, and
the list is in order. -/
theorem Disk.discover_lists_selected
    {disk : Disk} (settings : Settings) {root : String} {folder : Folder}
    (found : disk.folder? root = some folder) (proper : folder.Proper) :
    (∀ address, folder.Holds address →
      ((disk.discover settings root).count (address.path root) = 1 ↔
          settings.Selects address) ∧
        (address.path root ∈ disk.discover settings root ↔
          settings.Selects address)) ∧
    (∀ path ∈ disk.discover settings root,
      ∃ address, folder.Holds address ∧ settings.Selects address ∧
        address.path root = path ∧
        ∀ component ∈ address.components,
          component ∉ Settings.skippedDirectories) ∧
    (disk.discover settings root).Pairwise fun left right =>
      ∃ first second, folder.Holds first ∧ folder.Holds second ∧
        first.path root = left ∧ second.path root = right ∧
        first.Before second := by
  have lists := lists_discover settings found proper
  refine ⟨?_, ?_, lists.ordered⟩
  · intro address holds
    have listed := mem_discover_iff settings found proper holds
    refine ⟨?_, listed⟩
    rw [← listed, (lists.nodup proper).count]
    simp
  · intro path isListed
    obtain ⟨address, holds, selects, isPath⟩ := (lists.mem_iff path).mp isListed
    exact ⟨address, holds, selects, isPath, selects.not_mem_skipped⟩

/-- A folder with a file, a directory with a file, and one that is never
entered. -/
def shopFolder : Folder :=
  .put "pay" (.directory (.put "fee.js" (.file .empty) .empty))
    (.put "main.js" (.file .empty)
      (.put "dist" (.directory (.put "main.js" (.file .empty) .empty)) .empty))

def shopDisk : Disk :=
  ⟨.put "shop" (.directory shopFolder) .empty, []⟩

theorem shopFolder_proper : shopFolder.Proper := by
  simp [shopFolder, Folder.Proper, Entry.Proper, Files.IsName, Folder.get?]

theorem standard_selects_fee :
    Settings.standard.Selects ⟨["pay"], "fee.js"⟩ := by
  have entered : Settings.standard.Enters ([] ++ ["pay"]) :=
    Settings.enters_concat_iff.mpr
      ⟨Settings.enters_nil, Settings.excludes_eq_false_of_clean rfl
        (List.cons_ne_nil _ _) (by decide) (by decide)⟩
  exact ⟨rfl, entered, Settings.excludes_eq_false_of_clean rfl
    (List.cons_ne_nil _ _) (by decide) (by decide)⟩

/-- The file in the directory that is entered is listed once, the other one is
not listed. -/
theorem shop_lists_fee_once :
    (shopDisk.discover .standard "shop").count "shop/pay/fee.js" = 1 ∧
      "shop/dist/main.js" ∉ shopDisk.discover .standard "shop" := by
  have found : shopDisk.folder? "shop" = some shopFolder := rfl
  obtain ⟨once, _, _⟩ :=
    Disk.discover_lists_selected .standard found shopFolder_proper
  constructor
  · exact (once ⟨["pay"], "fee.js"⟩ ⟨.file .empty, rfl, rfl⟩).1.mpr
      standard_selects_fee
  · intro listed
    have selects := (once ⟨["dist"], "main.js"⟩
      ⟨.file .empty, rfl, rfl⟩).2.mp listed
    exact selects.not_mem_skipped "dist" List.mem_cons_self (by decide)

end CallAudit
