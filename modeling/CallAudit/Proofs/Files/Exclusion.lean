import CallAudit.Proofs.Files.Discovery
import CallAudit.Proofs.Settings.Literal
import Mathlib.Data.List.Sort

/-!
# Leaving out directories

What discovery finds can only shrink when less is selected, and keeps its order
(`Disk.discover_sublist`).  So two settings that leave out the same paths find
the same files.

With this a literal pattern with a slash at its end is compared to the same
pattern without it.  A pattern of one component leaves out the same files either
way.  A pattern of several components leaves out its directory, but with a slash
at its end it leaves out nothing, because the walk asks about paths without a
slash at the end and no single component can match.
-/

namespace CallAudit

/-! ## Comparing settings -/

/-- Selection under settings that take fewer names and leave out more. -/
theorem Settings.Selects.imp {first second : Settings} {address : FileAddress}
    (areNames : ∀ name ∈ address.components, Files.IsName name)
    (taken : ∀ name, first.takes name = true → second.takes name = true)
    (kept : ∀ names, names ≠ [] → (∀ name ∈ names, Files.IsName name) →
      first.excludes (Text.joinWith "/" names) = false →
        second.excludes (Text.joinWith "/" names) = false)
    (selects : first.Selects address) : second.Selects address := by
  refine ⟨taken _ selects.taken, ?_, ?_⟩
  · intro front filled isPrefix
    refine kept front filled ?_ (selects.entered front filled isPrefix)
    intro name listed
    exact areNames name
      (List.mem_append_left [address.name] (isPrefix.subset listed))
  · exact kept _ address.components_ne_nil areNames selects.kept

/-- Of two lists of selected files of a folder, the one for settings that select
less is a part of the other, in the same order. -/
theorem Folder.Lists.sublist {first second : Settings} {root : String}
    {folder : Folder} {some all : List String} (proper : folder.Proper)
    (listsSome : Lists first root [] folder some)
    (listsAll : Lists second root [] folder all)
    (fewer : ∀ address, folder.Holds address →
      first.Selects address → second.Selects address) :
    some.Sublist all := by
  have antisymm : Std.Antisymm (folder.Precedes root []) := by
    refine ⟨fun left right earlier later => ?_⟩
    obtain ⟨one, two, holdsOne, holdsTwo, isOne, isTwo, before⟩ := earlier
    obtain ⟨three, four, holdsThree, holdsFour, isThree, isFour, after⟩ := later
    obtain rfl := proper.eq_of_path_eq holdsOne holdsFour
      (isOne.trans isFour.symm)
    obtain rfl := proper.eq_of_path_eq holdsTwo holdsThree
      (isTwo.trans isThree.symm)
    exact absurd after before.asymm
  have inside : some ⊆ all := by
    intro path listed
    obtain ⟨address, holds, selects, isPath⟩ :=
      (listsSome.mem_iff path).mp listed
    exact (listsAll.mem_iff path).mpr
      ⟨address, holds, fewer address holds selects, isPath⟩
  exact List.sublist_of_subperm_of_pairwise
    (List.subperm_of_subset (listsSome.nodup proper) inside)
    listsSome.ordered listsAll.ordered

section Discovery

variable {disk : Disk} {root : String} {folder : Folder}
  {first second : Settings} (found : disk.folder? root = some folder)
  (proper : folder.Proper)

include found proper

/-- Settings that take fewer names and leave out more find a part of the files,
in the same order. -/
theorem Disk.discover_sublist
    (taken : ∀ name, first.takes name = true → second.takes name = true)
    (kept : ∀ names, names ≠ [] → (∀ name ∈ names, Files.IsName name) →
      first.excludes (Text.joinWith "/" names) = false →
        second.excludes (Text.joinWith "/" names) = false) :
    (disk.discover first root).Sublist (disk.discover second root) :=
  (lists_discover first found proper).sublist proper
    (lists_discover second found proper) fun _ holds selects =>
      selects.imp (proper.isName_of_holds holds) taken kept

theorem Disk.discover_congr
    (taken : ∀ name, first.takes name = second.takes name)
    (excluded : ∀ names, names ≠ [] → (∀ name ∈ names, Files.IsName name) →
      first.excludes (Text.joinWith "/" names) =
        second.excludes (Text.joinWith "/" names)) :
    disk.discover first root = disk.discover second root := by
  apply List.Sublist.antisymm
  · apply discover_sublist found proper
    · intro name isTaken
      rw [← taken, isTaken]
    · intro names filled areNames isKept
      rw [← excluded names filled areNames, isKept]
  · apply discover_sublist found proper
    · intro name isTaken
      rw [taken, isTaken]
    · intro names filled areNames isKept
      rw [excluded names filled areNames, isKept]

end Discovery

/-! ## Patterns with a slash at the end -/

/-- The same settings with other patterns for paths to leave out. -/
def Settings.leavingOut (settings : Settings) (patterns : List String) :
    Settings :=
  { settings with excludeGlobs := patterns }

/-- A file lies below a directory that is given by its path from the top. -/
def FileAddress.LiesBelow (directory : String) (address : FileAddress) : Prop :=
  ∃ chain, chain <+: address.directories ∧
    Text.joinWith "/" chain = directory

namespace Settings

variable {pattern : String}

theorem excludes_leavingOut_iff (settings : Settings) {path : String} :
    (settings.leavingOut [pattern]).excludes path = true ↔
      (settings.leavingOut []).excludes path = true ∨
        patternExcludes path pattern = true := by
  simp [excludes, leavingOut]

variable (plain : IsPlainPath pattern)

include plain

/-- With a slash at its end a pattern of names is held against components
only. -/
theorem IsPlainPath.excludes_names_slash_iff {names : List String}
    (filled : names ≠ []) (areNames : ∀ name ∈ names, Files.IsName name) :
    patternExcludes (Text.joinWith "/" names) (pattern ++ "/") = true ↔
      '/' ∉ pattern.toList ∧
        pattern ∈ pathParts (Text.joinWith "/" names) := by
  have other : Text.joinWith "/" names ≠ pattern ++ "/" := by
    intro same
    apply (Files.takesSlash_joinWith areNames filled).2
    rw [same]
    simp
  rw [plain.excludes_slash_iff, or_iff_right other]

theorem IsPlainPath.leaves_out_itself (settings : Settings) :
    (settings.leavingOut [pattern]).excludes pattern = true :=
  settings.excludes_leavingOut_iff.mpr
    (Or.inr (plain.excludes_iff.mpr (Or.inl rfl)))

/-- A pattern of one component leaves out the same paths with and without a
slash at its end. -/
theorem IsPlainPath.excludes_slash_of_single (settings : Settings)
    (single : '/' ∉ pattern.toList) {names : List String}
    (filled : names ≠ []) (areNames : ∀ name ∈ names, Files.IsName name) :
    (settings.leavingOut [pattern ++ "/"]).excludes
        (Text.joinWith "/" names) =
      (settings.leavingOut [pattern]).excludes (Text.joinWith "/" names) := by
  have whole : Text.joinWith "/" names = pattern →
      pattern ∈ pathParts (Text.joinWith "/" names) := by
    intro same
    rw [same, pathParts_of_clean single plain.noBackslash]
    exact List.mem_singleton_self pattern
  rw [Bool.eq_iff_iff, excludes_leavingOut_iff, excludes_leavingOut_iff,
    plain.excludes_names_slash_iff filled areNames, plain.excludes_iff]
  simp only [single, not_false_eq_true, true_and, or_iff_right_of_imp whole]

/-- A pattern of several components leaves out nothing with a slash at its
end. -/
theorem IsPlainPath.excludes_slash_of_several (settings : Settings)
    (several : '/' ∈ pattern.toList) {names : List String}
    (filled : names ≠ []) (areNames : ∀ name ∈ names, Files.IsName name) :
    (settings.leavingOut [pattern ++ "/"]).excludes
        (Text.joinWith "/" names) =
      (settings.leavingOut []).excludes (Text.joinWith "/" names) := by
  rw [Bool.eq_iff_iff, excludes_leavingOut_iff,
    plain.excludes_names_slash_iff filled areNames]
  simp only [several, not_true_eq_false, false_and, or_false]

end Settings

/-- A file below a directory that is left out is not selected. -/
theorem Settings.not_selects_of_liesBelow {settings : Settings}
    {directory : String} {address : FileAddress} (filled : directory ≠ "")
    (excluded : settings.excludes directory = true)
    (below : address.LiesBelow directory) : ¬ settings.Selects address := by
  obtain ⟨chain, isPrefix, rfl⟩ := below
  intro selects
  have notEmpty : chain ≠ [] := by
    rintro rfl
    exact filled rfl
  have entered := selects.entered chain notEmpty isPrefix
  rw [excluded] at entered
  cases entered

/-- A literal pattern leaves out all files below the directory that it spells.
With a slash at its end it finds the same files as without when it has one
component, and the same files as no pattern at all when it has several. -/
theorem Disk.discover_with_trailing_slash
    {disk : Disk} (settings : Settings) {root : String} {folder : Folder}
    (found : disk.folder? root = some folder) (proper : folder.Proper)
    {pattern : String} (plain : Settings.IsPlainPath pattern) :
    (∀ address, folder.Holds address → address.LiesBelow pattern →
      address.path root ∉
        disk.discover (settings.leavingOut [pattern]) root) ∧
    ('/' ∉ pattern.toList →
      disk.discover (settings.leavingOut [pattern ++ "/"]) root =
        disk.discover (settings.leavingOut [pattern]) root) ∧
    ('/' ∈ pattern.toList →
      disk.discover (settings.leavingOut [pattern ++ "/"]) root =
        disk.discover (settings.leavingOut []) root) := by
  refine ⟨?_, ?_, ?_⟩
  · intro address holds below
    rw [mem_discover_iff _ found proper holds]
    exact Settings.not_selects_of_liesBelow plain.filled
      (plain.leaves_out_itself settings) below
  · intro single
    exact discover_congr found proper (fun _ => rfl) fun _ filled areNames =>
      plain.excludes_slash_of_single settings single filled areNames
  · intro several
    exact discover_congr found proper (fun _ => rfl) fun _ filled areNames =>
      plain.excludes_slash_of_several settings several filled areNames

/-- A folder with the file `pay/old/fee.js`. -/
def archiveFolder : Folder :=
  .put "pay"
    (.directory
      (.put "old" (.directory (.put "fee.js" (.file .empty) .empty)) .empty))
    .empty

def archiveDisk : Disk :=
  ⟨.put "shop" (.directory archiveFolder) .empty, []⟩

def oldFee : FileAddress :=
  ⟨["pay", "old"], "fee.js"⟩

theorem archiveFolder_proper : archiveFolder.Proper := by
  simp [archiveFolder, Folder.Proper, Entry.Proper, Files.IsName, Folder.get?]

theorem standard_selects_oldFee :
    (Settings.standard.leavingOut []).Selects oldFee := by
  have entersPay : (Settings.standard.leavingOut []).Enters ([] ++ ["pay"]) :=
    Settings.enters_concat_iff.mpr
      ⟨Settings.enters_nil, Settings.excludes_eq_false_of_clean rfl
        (List.cons_ne_nil _ _) (by decide) (by decide)⟩
  have entersOld :
      (Settings.standard.leavingOut []).Enters (["pay"] ++ ["old"]) :=
    Settings.enters_concat_iff.mpr
      ⟨entersPay, Settings.excludes_eq_false_of_clean rfl
        (List.cons_ne_nil _ _) (by decide) (by decide)⟩
  exact ⟨rfl, entersOld, Settings.excludes_eq_false_of_clean rfl
    (List.cons_ne_nil _ _) (by decide) (by decide)⟩

/-- The pattern `pay/old/` does not leave out the file in that directory, but
`pay/old` does, and `pay/` does as well. -/
theorem discover_oldFee_with_trailing_slash :
    oldFee.path "shop" ∈
        archiveDisk.discover (Settings.standard.leavingOut ["pay/old/"])
          "shop" ∧
      oldFee.path "shop" ∉
        archiveDisk.discover (Settings.standard.leavingOut ["pay/old"])
          "shop" ∧
      oldFee.path "shop" ∉
        archiveDisk.discover (Settings.standard.leavingOut ["pay/"])
          "shop" := by
  have found : archiveDisk.folder? "shop" = some archiveFolder := rfl
  have holds : archiveFolder.Holds oldFee := ⟨.file .empty, rfl, rfl⟩
  have plainOne : Settings.IsPlainPath "pay" := by
    constructor
    all_goals decide
  have plainTwo : Settings.IsPlainPath "pay/old" := by
    constructor
    all_goals decide
  obtain ⟨leftOutOne, sameOne, _⟩ := Disk.discover_with_trailing_slash
    .standard found archiveFolder_proper plainOne
  obtain ⟨leftOutTwo, _, sameTwo⟩ := Disk.discover_with_trailing_slash
    .standard found archiveFolder_proper plainTwo
  have slashOne : "pay" ++ "/" = "pay/" := rfl
  have slashTwo : "pay/old" ++ "/" = "pay/old/" := rfl
  rw [slashOne] at sameOne
  rw [slashTwo] at sameTwo
  refine ⟨?_, ?_, ?_⟩
  · rw [sameTwo (by decide),
      Disk.mem_discover_iff _ found archiveFolder_proper holds]
    exact standard_selects_oldFee
  · exact leftOutTwo oldFee holds ⟨["pay", "old"], List.prefix_refl _, rfl⟩
  · rw [sameOne (by decide)]
    exact leftOutOne oldFee holds ⟨["pay"], ⟨["old"], rfl⟩, rfl⟩

end CallAudit
