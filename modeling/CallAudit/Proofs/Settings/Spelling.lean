import CallAudit.Proofs.Settings.Usable
import Mathlib.Data.List.Pairwise

/-!
# Entries of a settings file

A settings file is read setting by setting, so nothing counts but the value that
it gives to each setting.  When no setting is spelt twice, these values are those
of the entries, in whatever order and spelling they stand and whatever else
stands between them (`entry?_eq_some_iff`).

Two such files which say the same about every setting are therefore answered in
the same way: with the same settings, or with the same fault, also where both
have several.
-/

namespace CallAudit.Settings

def settingNames : List String :=
  keySpellings.map Prod.snd

/-- Two entries that are not for one setting. -/
def AreApart (one other : Yaml.Value × Yaml.Value) : Prop :=
  ∀ setting ∈ settingNames,
    ¬ (spells setting one.1 = true ∧ spells setting other.1 = true)

instance : DecidableRel AreApart := fun _ _ =>
  inferInstanceAs (Decidable (∀ setting ∈ settingNames, _))

/-- No setting has two entries, be it under different spellings.  Other keys may
come up again. -/
abbrev SpeltOnce (entries : Entries) : Prop :=
  entries.Pairwise AreApart

/-- There is an entry that gives a setting a value. -/
def Gives (entries : Entries) (setting : String) (value : Yaml.Value) : Prop :=
  ∃ key, (key, value) ∈ entries ∧ spells setting key = true

/-! ## The value of a setting -/

theorem eq_of_speltOnce {entries : Entries} (once : SpeltOnce entries)
    {setting : String} (known : setting ∈ settingNames)
    {one other : Yaml.Value × Yaml.Value}
    (oneListed : one ∈ entries) (oneSpells : spells setting one.1 = true)
    (otherListed : other ∈ entries)
    (otherSpells : spells setting other.1 = true) : one = other := by
  have symmetric : Std.Symm AreApart :=
    ⟨fun _ _ apart name isKnown both => apart name isKnown both.symm⟩
  by_contra different
  have apart : AreApart one other :=
    once.forall oneListed otherListed different
  exact apart setting known ⟨oneSpells, otherSpells⟩

theorem entry?_eq_some_iff {entries : Entries} (once : SpeltOnce entries)
    {setting : String} (known : setting ∈ settingNames) {value : Yaml.Value} :
    entry? entries setting = some value ↔ Gives entries setting value := by
  unfold entry?
  rw [Option.map_eq_some_iff]
  constructor
  · rintro ⟨last, found, rfl⟩
    have listed := List.mem_reverse.mp (List.mem_of_find?_eq_some found)
    have lastSpells := List.find?_some found
    exact ⟨last.1, listed, lastSpells⟩
  · rintro ⟨key, listed, keySpells⟩
    have present : (entries.reverse.find? fun entry =>
        spells setting entry.1).isSome = true := by
      rw [List.find?_isSome]
      exact ⟨(key, value), List.mem_reverse.mpr listed, keySpells⟩
    obtain ⟨last, found⟩ := Option.isSome_iff_exists.mp present
    -- The last entry for the setting is the only one.
    have lastListed := List.mem_reverse.mp (List.mem_of_find?_eq_some found)
    have lastSpells := List.find?_some found
    have same := eq_of_speltOnce once known lastListed lastSpells listed
      keySpells
    exact ⟨last, found, by rw [same]⟩

/-! ## Settings from entries -/

/-- No key but those of the settings is looked at. -/
theorem ofEntries_congr {first second : Entries}
    (same : ∀ setting ∈ settingNames,
      entry? first setting = entry? second setting) (path : String) :
    ofEntries path first = ofEntries path second := by
  have root := same "source_root" (by decide)
  have watched := same "watched_functions" (by decide)
  have safe := same "safe_conversion_functions" (by decide)
  have files := same "file_globs" (by decide)
  have leftOut := same "exclude_globs" (by decide)
  have fails := same "fail_on_high" (by decide)
  have level := same "min_level" (by decide)
  simp only [ofEntries, textEntry, namesEntry, patternsEntry, switchEntry,
    levelEntry, given?, root, watched, safe, files, leftOut, fails, level]

theorem ofValue_mapping (path : String) (entries : Entries) :
    ofValue path (.mapping entries) = ofMapping path entries := by
  cases entries with
  | nil =>
      rfl
  | cons entry rest =>
      rfl

/-- Two mappings that spell no setting twice and give the same values to the
settings are answered in the same way, as values and as the contents of
files. -/
theorem same_answer_of_same_values
    {first second : Entries}
    (firstOnce : SpeltOnce first) (secondOnce : SpeltOnce second)
    (agree : ∀ setting ∈ settingNames, ∀ value,
      Gives first setting value ↔ Gives second setting value)
    (path : String) :
    ofValue path (.mapping first) = ofValue path (.mapping second) ∧
      ∀ (read : ValueReader) (firstContent secondContent : ByteArray),
        read path firstContent = .ok (.mapping first) →
        read path secondContent = .ok (.mapping second) →
          ofContent read path firstContent =
            ofContent read path secondContent := by
  have same : ∀ setting ∈ settingNames,
      entry? first setting = entry? second setting := by
    intro setting known
    apply Option.ext
    intro value
    rw [entry?_eq_some_iff firstOnce known,
      entry?_eq_some_iff secondOnce known]
    exact agree setting known value
  have answered :
      ofValue path (.mapping first) = ofValue path (.mapping second) := by
    rw [ofValue_mapping, ofValue_mapping, ofMapping, ofMapping,
      ofEntries_congr same]
  refine ⟨answered, ?_⟩
  intro read firstContent secondContent firstHolds secondHolds
  rw [ofContent_of_read firstHolds, ofContent_of_read secondHolds, answered]

/-- Entries with two faults, in mixed case. -/
def mixedCaseEntries : Entries :=
  [(.text "failOnHigh", .whole 1), (.text "watchedFunctions", .text "fee")]

/-- The same entries with underscores, the other way round, and with a note. -/
def underscoredEntries : Entries :=
  [(.text "watched_functions", .text "fee"), (.text "note", .null),
    (.text "fail_on_high", .whole 1)]

/-- The same one of the two faults is reported. -/
theorem same_answer_of_mixedCase_and_underscored :
    ofValue "a.yml" (.mapping mixedCaseEntries) =
        .error (.settings (.namesExpected "watched_functions")) ∧
      ofValue "a.yml" (.mapping underscoredEntries) =
        .error (.settings (.namesExpected "watched_functions")) := by
  have mixedOnce : SpeltOnce mixedCaseEntries := by decide
  have underscoredOnce : SpeltOnce underscoredEntries := by decide
  have agree : ∀ setting ∈ settingNames, ∀ value,
      Gives mixedCaseEntries setting value ↔
        Gives underscoredEntries setting value := by
    intro setting known value
    rw [← entry?_eq_some_iff mixedOnce known,
      ← entry?_eq_some_iff underscoredOnce known]
    simp only [settingNames, keySpellings, List.map_cons, List.map_nil,
      List.mem_cons, List.not_mem_nil, or_false] at known
    rcases known with rfl | rfl | rfl | rfl | rfl | rfl | rfl
    all_goals exact Iff.rfl
  have answered :=
    (same_answer_of_same_values mixedOnce underscoredOnce agree "a.yml").1
  have faulty : ofValue "a.yml" (.mapping mixedCaseEntries) =
      .error (.settings (.namesExpected "watched_functions")) :=
    rfl
  exact ⟨faulty, answered ▸ faulty⟩

end CallAudit.Settings
