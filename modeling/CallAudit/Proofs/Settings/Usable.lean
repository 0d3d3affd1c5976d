import CallAudit.Proofs.Outcome
import CallAudit.Settings.Locate

/-!
# Usable settings

What the check of settings asks for (`Settings.Usable`), and that settings
which were loaded have passed it.

`Settings.Governs` says which file decides about the settings for a place to
scan.
-/

namespace CallAudit

namespace Settings

/-! ## The check -/

/-- The conditions on settings that a run can work with. -/
structure Usable (settings : Settings) : Prop where
  watches : settings.watched ≠ []
  disjoint : ∀ name ∈ settings.watched, name ∉ settings.safe
  takesFiles : settings.fileGlobs ≠ []
  knownLevel : settings.minLevel ∈ levelNames

theorem inter_isEmpty_iff (left right : Names) :
    (Names.inter left right).isEmpty = true ↔
      ∀ name ∈ left, name ∉ right := by
  rw [Names.inter, List.isEmpty_iff, List.filter_eq_nil_iff]
  simp

/-- Checking changes nothing, and lets exactly the usable settings pass. -/
theorem checked_eq_ok_iff {settings passed : Settings} :
    settings.checked = .ok passed ↔ passed = settings ∧ settings.Usable := by
  simp only [checked]
  split
  · next nothing =>
      have empty := List.isEmpty_iff.mp nothing
      simp only [reduceCtorEq, false_iff, not_and]
      intro _ usable
      exact usable.watches empty
  next watched =>
  split
  · next shared =>
      rw [Bool.not_eq_true', ← Bool.not_eq_true, inter_isEmpty_iff] at shared
      simp only [reduceCtorEq, false_iff, not_and]
      intro _ usable
      exact shared usable.disjoint
  next disjoint =>
  split
  · next nothing =>
      have empty := List.isEmpty_iff.mp nothing
      simp only [reduceCtorEq, false_iff, not_and]
      intro _ usable
      exact usable.takesFiles empty
  next globs =>
  split
  · next unknown =>
      simp only [reduceCtorEq, false_iff, not_and]
      intro _ usable
      have listed := List.contains_iff_mem.mpr usable.knownLevel
      rw [listed] at unknown
      simp at unknown
  next known =>
  rw [Except.ok.injEq, eq_comm, iff_self_and]
  intro _
  refine ⟨?_, ?_, ?_, ?_⟩
  · intro empty
    exact watched (List.isEmpty_iff.mpr empty)
  · rw [← inter_isEmpty_iff]
    simpa using disjoint
  · intro empty
    exact globs (List.isEmpty_iff.mpr empty)
  · simpa using known

theorem usable_standard : standard.Usable :=
  ⟨by decide, by decide, by decide, by decide⟩

/-- The least level has no part in the other conditions. -/
theorem Usable.withLevel {settings : Settings} (usable : settings.Usable)
    {level : String} (known : level ∈ levelNames) :
    { settings with minLevel := level }.Usable :=
  ⟨usable.watches, usable.disjoint, usable.takesFiles, known⟩

/-! ## Settings from a file -/

theorem usable_of_ofMapping {path : String} {entries : Entries}
    {settings : Settings} (made : ofMapping path entries = .ok settings) :
    settings.Usable := by
  obtain ⟨found, _, passes⟩ := Outcome.bind_eq_ok_iff.mp made
  rw [Outcome.mapError_eq_ok_iff] at passes
  obtain ⟨rfl, usable⟩ := checked_eq_ok_iff.mp passes
  exact usable

theorem usable_of_ofValue {path : String} {value : Yaml.Value}
    {settings : Settings} (made : ofValue path value = .ok settings) :
    settings.Usable := by
  unfold ofValue at made
  split at made
  · exact usable_of_ofMapping made
  split at made
  · exact usable_of_ofMapping made
  · simp at made

theorem ofContent_of_read {read : ValueReader} {path : String}
    {content : ByteArray} {value : Yaml.Value}
    (holds : read path content = .ok value) :
    ofContent read path content = ofValue path value := by
  simp only [ofContent, holds]

theorem usable_of_ofContent {read : ValueReader} {path : String}
    {content : ByteArray} {settings : Settings}
    (loads : ofContent read path content = .ok settings) :
    settings.Usable := by
  rw [ofContent] at loads
  split at loads
  · simp at loads
  · exact usable_of_ofValue loads

/-! ## Finding the file -/

/-- The settings for a place to scan are those in a file: the one that was
named, or else the nearest one. -/
def Governs (disk : Disk) (target : String) (path : Option String)
    (file : String) (content : ByteArray) : Prop :=
  (path = some file ∧ file ≠ "" ∧ disk.content? file = some content) ∨
    ((path = none ∨ path = some "") ∧
      ∃ place : Place, place.path (Root.ofPath target) = file ∧
        search disk (searchStart disk (Place.ofPath disk.workDir target)) =
          some (place, content))

variable {read : ValueReader} {disk : Disk} {target : String}
  {path : Option String}

theorem load_of_unnamed (unnamed : path = none ∨ path = some "") :
    load read disk target path = discovered read disk target := by
  rcases unnamed with rfl | rfl
  · rfl
  · rfl

theorem load_of_governs {file : String} {content : ByteArray}
    (governs : Governs disk target path file content) :
    load read disk target path = (ofContent read file content).map some := by
  rcases governs with ⟨rfl, filled, present⟩ | ⟨unnamed, place, rfl, found⟩
  · simp only [load, if_neg filled, named, present]
  · rw [load_of_unnamed unnamed, discovered, found]

theorem usable_of_discovered {loaded : Option Settings}
    (loads : discovered read disk target = .ok loaded) :
    (loaded.getD standard).Usable := by
  rw [discovered] at loads
  split at loads
  · rw [Except.ok.injEq] at loads
    subst loads
    exact usable_standard
  · obtain ⟨settings, found, rfl⟩ := Outcome.map_eq_ok_iff.mp loads
    exact usable_of_ofContent found

/-- Settings that were loaded are usable, and so are the standard ones that
stand in for them. -/
theorem usable_of_load {loaded : Option Settings}
    (loads : load read disk target path = .ok loaded) :
    (loaded.getD standard).Usable := by
  unfold load at loads
  split at loads
  · exact usable_of_discovered loads
  split at loads
  · exact usable_of_discovered loads
  · obtain ⟨settings, found, rfl⟩ := Outcome.map_eq_ok_iff.mp loads
    rw [named] at found
    split at found
    · simp at found
    · exact usable_of_ofContent found

end Settings

end CallAudit
