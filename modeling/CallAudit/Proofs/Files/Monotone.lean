import CallAudit.Proofs.Files.Exclusion
import CallAudit.Settings.Override

/-!
# More and fewer patterns

Discovery is monotone in the patterns of the settings.  Every further pattern
for paths to leave out can only remove files from the list, and every further
pattern for files to take can only add some; the files that two lists share
stand in the same order in both.

Only the sets of patterns matter, so the statements are about subsets of
patterns first (`Disk.discover_sublist_of_patterns`).
-/

namespace CallAudit

namespace Settings

variable {first second : Settings}

theorem takes_of_subset (fewer : first.fileGlobs ⊆ second.fileGlobs)
    {name : String} (taken : first.takes name = true) :
    second.takes name = true := by
  rw [takes, List.any_eq_true] at taken
  obtain ⟨pattern, listed, accepts⟩ := taken
  rw [takes, List.any_eq_true]
  exact ⟨pattern, fewer listed, accepts⟩

theorem excludes_eq_false_of_subset
    (more : second.excludeGlobs ⊆ first.excludeGlobs) {path : String}
    (kept : first.excludes path = false) : second.excludes path = false := by
  rw [excludes, Bool.or_eq_false_iff] at kept
  obtain ⟨entered, unmatched⟩ := kept
  rw [excludes, Bool.or_eq_false_iff]
  refine ⟨entered, ?_⟩
  rw [List.any_eq_false] at unmatched ⊢
  intro pattern listed
  exact unmatched pattern (more listed)

end Settings

/-- Options without patterns for files to take leave those of the settings, and
add to the patterns for paths to leave out. -/
theorem Overrides.patterns_of_layer (overrides : Overrides)
    (settings : Settings) (noneTaken : overrides.including = []) :
    (overrides.layer settings).fileGlobs = settings.fileGlobs ∧
      settings.excludeGlobs ⊆ (overrides.layer settings).excludeGlobs := by
  constructor
  · simp [layer, noneTaken]
  · exact List.subset_append_left settings.excludeGlobs overrides.excluding

section Discovery

variable {disk : Disk} {root : String} {folder : Folder}
  (found : disk.folder? root = some folder) (proper : folder.Proper)

include found proper

/-- Fewer patterns for files to take and more for paths to leave out find a part
of the files, in the same order. -/
theorem Disk.discover_sublist_of_patterns {first second : Settings}
    (fewer : first.fileGlobs ⊆ second.fileGlobs)
    (more : second.excludeGlobs ⊆ first.excludeGlobs) :
    (disk.discover first root).Sublist (disk.discover second root) := by
  apply discover_sublist found proper
  · intro name taken
    exact Settings.takes_of_subset fewer taken
  · intro names _ _ kept
    exact Settings.excludes_eq_false_of_subset more kept

/-- Patterns that are added to those for paths to leave out, by hand or by the
options of a run, leave a part of the files, and patterns that are added to
those for files to take keep all the files, in the same order. -/
theorem Disk.discover_monotone_in_patterns
    (settings : Settings) (extra : List String) :
    (disk.discover
        { settings with excludeGlobs := settings.excludeGlobs ++ extra }
        root).Sublist (disk.discover settings root) ∧
      (disk.discover settings root).Sublist
        (disk.discover
          { settings with fileGlobs := settings.fileGlobs ++ extra } root) ∧
      ∀ overrides : Overrides, overrides.including = [] →
        (disk.discover (overrides.layer settings) root).Sublist
          (disk.discover settings root) := by
  refine ⟨?_, ?_, ?_⟩
  · apply discover_sublist_of_patterns found proper
    · exact List.Subset.refl settings.fileGlobs
    · exact List.subset_append_left settings.excludeGlobs extra
  · apply discover_sublist_of_patterns found proper
    · exact List.subset_append_left settings.fileGlobs extra
    · exact List.Subset.refl settings.excludeGlobs
  · intro overrides noneTaken
    obtain ⟨same, more⟩ := overrides.patterns_of_layer settings noneTaken
    apply discover_sublist_of_patterns found proper
    · rw [same]
      exact List.Subset.refl settings.fileGlobs
    · exact more

end Discovery

/-- Leaving out `pay` as well drops a directory from the walk, and taking
`*.css` as well keeps what was found. -/
theorem shop_monotone_in_patterns :
    (shopDisk.discover { Settings.standard with excludeGlobs := ["pay"] }
        "shop").Sublist (shopDisk.discover .standard "shop") ∧
      "shop/pay/fee.js" ∈ shopDisk.discover .standard "shop" ∧
      "shop/pay/fee.js" ∉
        shopDisk.discover { Settings.standard with excludeGlobs := ["pay"] }
          "shop" ∧
      "shop/pay/fee.js" ∈
        shopDisk.discover
          { Settings.standard with
            fileGlobs := Settings.standard.fileGlobs ++ ["*.css"] }
          "shop" := by
  have found : shopDisk.folder? "shop" = some shopFolder := rfl
  have leaving :=
    (Disk.discover_monotone_in_patterns found shopFolder_proper .standard
      ["pay"]).1
  have taking :=
    (Disk.discover_monotone_in_patterns found shopFolder_proper .standard
      ["*.css"]).2.1
  have listed : "shop/pay/fee.js" ∈ shopDisk.discover .standard "shop" := by
    decide +kernel
  exact ⟨leaving, listed, by decide +kernel, taking.subset listed⟩

end CallAudit
