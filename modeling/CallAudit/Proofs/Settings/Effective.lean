import CallAudit.Cli.Session
import CallAudit.Proofs.Settings.Usable

/-!
# The settings that take effect

The options of a command line are laid over the settings of a file or the
standard ones.  Settings that come out of that were checked, and the least
level to report has no part in anything else: command lines that differ in what
they ask to be reported, and how, run under settings that differ in that level
only.
-/

namespace CallAudit

namespace Cli

/-! ## Settings of a command line -/

namespace Options

/-- Where the settings and the target of a run come from. -/
theorem settings_eq_ok_iff {options : Options} {read : ValueReader} {disk : Disk}
    {settings : Settings} {target : String} :
    options.settings read disk = .ok (settings, target) ↔
      ∃ loaded,
        Settings.load read disk (options.target?.getD ".") options.config =
            .ok loaded ∧
          options.overrides.apply (loaded.getD .standard) = .ok settings ∧
          options.target?.getD settings.sourceRoot = target ∧
          disk.has target = true := by
  unfold Options.settings
  constructor
  · intro configured
    obtain ⟨loaded, loads, configured⟩ := Outcome.bind_eq_ok_iff.mp configured
    obtain ⟨found, applied, configured⟩ :=
      Outcome.bind_eq_ok_iff.mp configured
    rw [Outcome.mapError_eq_ok_iff] at applied
    dsimp only at configured
    split at configured
    · next present =>
        cases configured
        exact ⟨loaded, loads, applied, rfl, present⟩
    · cases configured
  · rintro ⟨loaded, loads, applied, rfl, present⟩
    simp only [bind, Except.bind, loads, applied, Outcome.mapError_ok, present,
      if_true]
    rfl

/-- A run works with usable settings only. -/
theorem usable_of_settings {options : Options} {read : ValueReader} {disk : Disk}
    {settings : Settings} {target : String}
    (configured : options.settings read disk = .ok (settings, target)) :
    settings.Usable := by
  obtain ⟨loaded, _, applied, _⟩ := settings_eq_ok_iff.mp configured
  obtain ⟨rfl, usable⟩ := Settings.checked_eq_ok_iff.mp applied
  exact usable

/-- A run fails on issues of the gravest level when its command line or its
settings file asks for that. -/
theorem failOnHigh_iff {options : Options} {read : ValueReader} {disk : Disk}
    {settings : Settings} {target : String}
    (configured : options.settings read disk = .ok (settings, target)) :
    settings.failOnHigh = true ↔
      options.overrides.failOnHigh = true ∨
        ∃ loaded,
          Settings.load read disk (options.target?.getD ".") options.config =
            .ok (some loaded) ∧ loaded.failOnHigh = true := by
  obtain ⟨loaded, loads, applied, _⟩ := settings_eq_ok_iff.mp configured
  obtain ⟨rfl, _⟩ := Settings.checked_eq_ok_iff.mp applied
  rw [loads, Overrides.layer, Bool.or_eq_true]
  cases loaded with
  | none =>
      simp [Settings.standard]
  | some loaded =>
      simp

/-- The options of two command lines agree in everything but what is reported
and how: the least level, the form of the report, its file, the banner and the
progress. -/
structure SameAudit (left right : Options) : Prop where
  target : left.target = right.target
  config : left.config = right.config
  watch : left.overrides.watch = right.overrides.watch
  safe : left.overrides.safe = right.overrides.safe
  including : left.overrides.including = right.overrides.including
  excluding : left.overrides.excluding = right.overrides.excluding
  failOnHigh : left.overrides.failOnHigh = right.overrides.failOnHigh

namespace SameAudit

variable {left right : Options} (same : left.SameAudit right)

include same

/-- The options are laid over the same settings in the same way, the least
level apart. -/
theorem layer_eq (base : Settings) :
    left.overrides.layer base =
      { right.overrides.layer base with
        minLevel := (left.overrides.layer base).minLevel } := by
  simp only [Overrides.layer, same.watch, same.safe, same.including,
    same.excluding, same.failOnHigh]

/-- Command lines that differ in what they report, and how, audit the same
target under settings that differ in the least level only. -/
theorem exists_settings {read : ValueReader} {disk : Disk}
    {settings : Settings} {target : String}
    (known : ∀ level, left.overrides.minLevel = some level →
      level ∈ Settings.levelNames)
    (configured : right.settings read disk = .ok (settings, target)) :
    ∃ level, left.settings read disk =
      .ok ({ settings with minLevel := level }, target) := by
  obtain ⟨loaded, loads, applied, isTarget, present⟩ :=
    settings_eq_ok_iff.mp configured
  obtain ⟨rfl, usable⟩ := Settings.checked_eq_ok_iff.mp applied
  have loadedLevel := (Settings.usable_of_load loads).knownLevel
  have level : (left.overrides.layer (loaded.getD .standard)).minLevel ∈
      Settings.levelNames := by
    simp only [Overrides.layer]
    split
    · exact loadedLevel
    · next level given =>
        split
        · exact loadedLevel
        · exact known level given
  have sameTarget : left.target? = right.target? := by
    rw [target?, target?, same.target]
  refine ⟨(left.overrides.layer (loaded.getD .standard)).minLevel,
    settings_eq_ok_iff.mpr ⟨loaded, ?_, ?_, ?_, present⟩⟩
  · rw [sameTarget, same.config]
    exact loads
  · rw [Overrides.apply, same.layer_eq]
    exact Settings.checked_eq_ok_iff.mpr ⟨rfl, usable.withLevel level⟩
  · rw [sameTarget]
    exact isTarget

end SameAudit

end Options

end Cli

end CallAudit
