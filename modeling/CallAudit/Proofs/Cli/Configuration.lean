import CallAudit.Proofs.Cli.ExitStatus
import CallAudit.Proofs.Settings.Legible

/-!
# The settings of a run

A run looks at its settings before anything else.

* A settings file is answered, with usable settings or with the exit status for
  settings that cannot be used, exactly when its content is legible.  Any other
  content ends the run without an exit status.
* A run whose settings are answered is either misconfigured, and leaves nothing
  behind but a notice, or goes by usable settings, under which no report is
  missing anything.
-/

namespace CallAudit.Cli

/-! ## Settings that cannot be used -/

section Faulty

variable {world : World} {arguments : List String} {options : Options}

theorem Options.settings_eq_error_of_load {read : ValueReader} {disk : Disk}
    {fault : LoadFault}
    (fails : Settings.load read disk (options.target?.getD ".") options.config =
      .error fault) :
    options.settings read disk = .error fault := by
  rw [settings, fails]
  rfl

theorem run_of_faulty_settings {fault : SettingsFault}
    (asked : Request.ofArguments arguments = .ok (.audit options))
    (faulty : options.settings world.reader world.disk =
      .error (.settings fault)) :
    run world arguments =
      .ok (.ended (.misconfigured world.disk fault)) := by
  simp only [run, asked, Session.ofOptions, faulty, Except.map]

theorem run_of_unloaded_settings {fault : LoadFault}
    (asked : Request.ofArguments arguments = .ok (.audit options))
    (unloaded : options.settings world.reader world.disk = .error fault)
    (other : ∀ reason, fault ≠ .settings reason) :
    run world arguments = .error (.load fault) := by
  cases fault with
  | settings reason =>
      exact absurd rfl (other reason)
  | encoding =>
      simp only [run, asked, Session.ofOptions, unloaded, Except.map]
  | value reason =>
      simp only [run, asked, Session.ofOptions, unloaded, Except.map]

end Faulty

/-! ## Settings files -/

/-- The settings file that decides about a run is answered with usable settings
or with a fault of the settings exactly when its content is legible.  A content
that is not UTF-8 never comes to settings, and a short one is not legible.  A run
ends with status 2 on a fault of the settings, and without an exit status on a
content that is not legible. -/
theorem settings_file_answered_iff_legible
    {read : ValueReader} {disk : Disk} {target : String} {path : Option String}
    {file : String} {content : ByteArray}
    (governs : Settings.Governs disk target path file content) :
    (((∃ settings,
          Settings.load read disk target path = .ok (some settings) ∧
            settings.Usable) ∨
        ∃ fault,
          Settings.load read disk target path = .error (.settings fault)) ↔
      Settings.IsLegible read file content) ∧
    (read.Decodes → ¬ content.IsValidUTF8 →
      (∀ settings,
        Settings.load read disk target path ≠ .ok (some settings)) ∧
      ((∀ detail, read file content ≠ .error (.unreadable detail)) →
        content.size ≤ 4096 → ¬ Settings.IsLegible read file content)) ∧
    ∀ world arguments options, world.reader = read → world.disk = disk →
      Request.ofArguments arguments = .ok (.audit options) →
      options.target?.getD "." = target → options.config = path →
        (∀ fault,
          Settings.load read disk target path = .error (.settings fault) →
            ∃ session, run world arguments = .ok (.ended session) ∧
              session.exit = 2 ∧
              session.notices = [.misconfigured fault.message]) ∧
        (¬ Settings.IsLegible read file content →
          ∃ fault, (∀ reason, fault ≠ .settings reason) ∧
            run world arguments = .error (.load fault)) := by
  have loads : Settings.load read disk target path =
      (Settings.ofContent read file content).map some :=
    Settings.load_of_governs governs
  refine ⟨?_, ?_, ?_⟩
  · rw [← Settings.ofContent_answers_iff, loads]
    constructor
    · rintro (⟨settings, made, _⟩ | ⟨fault, faulty⟩)
      · obtain ⟨made, isMade, _⟩ := Outcome.map_eq_ok_iff.mp made
        exact Or.inl ⟨made, isMade⟩
      · exact Or.inr ⟨fault, Outcome.map_eq_error_iff.mp faulty⟩
    · rintro (⟨settings, made⟩ | ⟨fault, faulty⟩)
      · exact Or.inl ⟨settings, Outcome.map_eq_ok_iff.mpr ⟨_, made, rfl⟩,
          Settings.usable_of_ofContent made⟩
      · exact Or.inr ⟨fault, Outcome.map_eq_error_iff.mpr faulty⟩
  · intro decodes invalid
    refine ⟨?_, decodes.not_isLegible invalid⟩
    intro settings made
    rw [loads] at made
    obtain ⟨found, isFound, _⟩ := Outcome.map_eq_ok_iff.mp made
    exact decodes.no_settings invalid found isFound
  · rintro world arguments options rfl rfl asked rfl rfl
    constructor
    · intro fault faulty
      exact ⟨_, run_of_faulty_settings asked
        (Options.settings_eq_error_of_load faulty), rfl, rfl⟩
    -- Whatever else keeps the file from being loaded is not caught.
    · intro illegible
      obtain ⟨fault, made, other⟩ :=
        Settings.escapes_ofContent_iff.mpr illegible
      rw [made] at loads
      exact ⟨fault, other, run_of_unloaded_settings asked
        (Options.settings_eq_error_of_load loads) other⟩

/-- A reader that answers every content in the same way, if only it can be
decoded. -/
def steadyReader (answer : Except Yaml.ReadFault Yaml.Value) : ValueReader :=
  fun _ content =>
    if content.validateUTF8 then answer else .error .encoding

theorem decodes_steadyReader (answer : Except Yaml.ReadFault Yaml.Value) :
    (steadyReader answer).Decodes where
  takesAll := by
    intro path content value taken
    rw [← ByteArray.validateUTF8_eq_true_iff]
    by_contra invalid
    rw [steadyReader, if_neg invalid] at taken
    cases taken
  startsDecoded := by
    intro path content _ invalid _
    rw [← ByteArray.validateUTF8_eq_true_iff] at invalid
    rw [steadyReader, if_neg invalid]

def settingsWorld (reader : ValueReader) (content : ByteArray) : World :=
  { feeWorld with
    disk := ⟨.put ".decimalguard.yml" (.file content) .empty, []⟩,
    reader := reader }

theorem settingsWorld_governs (reader : ValueReader) (content : ByteArray) :
    Settings.Governs (settingsWorld reader content).disk "." none
      "/.decimalguard.yml" content :=
  Or.inr ⟨Or.inl rfl, [".decimalguard.yml"], rfl, rfl⟩

/-- A content of one byte that starts no character. -/
def strayContent : ByteArray :=
  ⟨#[0xff]⟩

theorem strayContent_invalid : ¬ strayContent.IsValidUTF8 := by
  rw [← ByteArray.validateUTF8_eq_true_iff, ByteArray.validateUTF8,
    ByteArray.validateUTF8.go]
  decide

/-- The entry with the number that four thousand hexadecimal digits F spell. -/
def longEntries : Settings.Entries :=
  [(.text "min_level", .whole (16 ^ 4000 - 1 : Nat))]

theorem ten_pow_lt_sixteen_pow {decimals nibbles count : Nat}
    (inTens : decimals = 43 * count) (inSixteens : nibbles = 40 * count)
    (some : count ≠ 0) : Nat.pow 10 decimals < 16 ^ nibbles := by
  rw [inTens, inSixteens, Nat.pow_eq, Nat.pow_mul, Nat.pow_mul]
  exact Nat.pow_lt_pow_left (by decide) some

theorem longEntries_isStuck :
    Settings.IsStuck longEntries Settings.readingOrder := by
  have bound : Nat.pow 10 Yaml.longestNumber < 16 ^ 4000 :=
    @ten_pow_lt_sixteen_pow _ _ 100 rfl rfl (by decide)
  refine ⟨Settings.readingOrder.dropLast, ("min_level", .text), [], rfl, ?_, ?_⟩
  · intro short
    have least := short (16 ^ 4000 - 1 : Nat) (List.mem_singleton_self _)
    rw [Int.natAbs_natCast] at least
    omega
  · have others : ∀ setting ∈ Settings.readingOrder.dropLast,
        (Settings.entry? longEntries setting.1).isNone = true := by
      decide
    intro earlier listed
    exact Settings.not_isRefused_of_absent
      (Option.isNone_iff_eq_none.mp (others earlier listed))

def impossibleDate : ByteArray :=
  "min_level: 2024-02-30\n".toUTF8

def longNumber : ByteArray :=
  ("min_level: 0x" ++ String.ofList (List.replicate 4000 'f')).toUTF8

theorem steadyReader_toUTF8 (answer : Except Yaml.ReadFault Yaml.Value)
    (path text : String) : steadyReader answer path text.toUTF8 = answer :=
  if_pos (ByteArray.validateUTF8_eq_true_iff.mpr text.isValidUTF8)

theorem steadyReader_strayContent (answer : Except Yaml.ReadFault Yaml.Value)
    (path : String) : steadyReader answer path strayContent = .error .encoding :=
  if_neg (mt ByteArray.validateUTF8_eq_true_iff.mp strayContent_invalid)

/-- A settings file that cannot be decoded, one with an impossible date and one
whose least level is a number that is too long: a run that finds it has no exit
status. -/
theorem settings_files_without_answer :
    (∃ fault, (∀ reason, fault ≠ .settings reason) ∧
      run (settingsWorld (steadyReader (.ok .null)) strayContent) [] =
        .error (.load fault)) ∧
    (∃ fault, (∀ reason, fault ≠ .settings reason) ∧
      run (settingsWorld (steadyReader (.error (.value .noSuchTime)))
          impossibleDate) [] =
        .error (.load fault)) ∧
    ∃ fault, (∀ reason, fault ≠ .settings reason) ∧
      run (settingsWorld (steadyReader (.ok (.mapping longEntries)))
          longNumber) [] =
        .error (.load fault) := by
  refine ⟨?_, ?_, ?_⟩
  · obtain ⟨_, undecoded, ends⟩ := @settings_file_answered_iff_legible
      (steadyReader (.ok .null)) _ _ _ _ _ (settingsWorld_governs _ _)
    obtain ⟨_, illegible⟩ :=
      undecoded (decodes_steadyReader _) strayContent_invalid
    refine (ends _ [] {} rfl rfl rfl rfl rfl).2 (illegible ?_ (by decide))
    intro detail
    rw [steadyReader_strayContent]
    simp
  · obtain ⟨_, _, ends⟩ := @settings_file_answered_iff_legible
      (steadyReader (.error (.value .noSuchTime))) _ _ _ _ _
      (settingsWorld_governs _ _)
    exact (ends _ [] {} rfl rfl rfl rfl rfl).2
      (Settings.not_isLegible_of_fault (steadyReader_toUTF8 _ _ _) (by simp))
  · obtain ⟨_, _, ends⟩ := @settings_file_answered_iff_legible
      (steadyReader (.ok (.mapping longEntries))) _ _ _ _ _
      (settingsWorld_governs _ _)
    refine (ends _ [] {} rfl rfl rfl rfl rfl).2
      (mt (Settings.isLegible_iff_of_value (steadyReader_toUTF8 _ _ _)).mp ?_)
    intro readable
    exact readable longEntries rfl longEntries_isStuck

/-! ## The two ways of a run -/

/-- A run whose settings are answered is misconfigured, with status 2, nothing
printed, shown or written, whatever an examiner would find; or it goes by
usable settings.  Under those no report of a scan is missing anything, and
every suggestion of a verdict has the parameters of its template. -/
theorem misconfigured_or_reported
    {read : ValueReader} {disk : Disk} {arguments : List String}
    {options : Options}
    (asked : Request.ofArguments arguments = .ok (.audit options))
    (answered : ∀ fault, options.settings read disk = .error fault →
      ∃ reason, fault = .settings reason) :
    (∃ fault session,
      options.settings read disk = .error (.settings fault) ∧
        session.exit = 2 ∧ session.printed = "" ∧ session.shown = [] ∧
        session.notices = [.misconfigured fault.message] ∧
        session.disk = disk ∧
        ∀ world : World, world.reader = read → world.disk = disk →
          run world arguments = .ok (.ended session)) ∨
    ∃ settings target files,
      options.settings read disk = .ok (settings, target) ∧
        settings.Usable ∧
        Scan.files disk settings target = .ok files ∧
        (∀ world : World, world.reader = read → world.disk = disk →
          run world arguments =
            (Session.ofFiles world options settings target files).map
              .ended) ∧
        (∀ now elapsed trees disturb, ∃ status,
          Exits (.auditing disk now elapsed read trees disturb) arguments
            options status) ∧
        (∀ scan : Scan, scan.IsUnder settings.vocabulary →
          scan.IsReported settings.minLevel) ∧
        ∀ resolve argument, ∀ suggestion ∈
            (Verdict.ofArgument settings.vocabulary resolve
              argument).suggestions,
          suggestion.IsFilled := by
  cases configured : options.settings read disk with
  | error fault =>
      left
      obtain ⟨reason, rfl⟩ := answered fault configured
      refine ⟨reason, .misconfigured disk reason, rfl, rfl, rfl, rfl, rfl, rfl,
        ?_⟩
      rintro world rfl rfl
      exact run_of_faulty_settings asked configured
  | ok found =>
      right
      obtain ⟨settings, target⟩ := found
      have usable := Options.usable_of_settings configured
      obtain ⟨_, _, _, _, present⟩ := Options.settings_eq_ok_iff.mp configured
      obtain ⟨files, areFiles⟩ := Scan.exists_files_of_has present settings
      refine ⟨settings, target, files, rfl, usable, areFiles, ?_, ?_, ?_, ?_⟩
      · rintro world rfl rfl
        simp only [run, asked, Session.ofOptions, configured, areFiles, bind,
          Except.bind, Outcome.mapError_ok]
      · intro now elapsed trees disturb
        exact ⟨_, exits_of_ends asked (Session.ofOptions_ends configured
          areFiles Scan.isPresentable_of_mem_issues)⟩
      · intro scan under
        exact under.isReported usable.knownLevel
      · intro resolve argument suggestion listed
        rw [← Suggestion.renders_iff_isFilled]
        exact Verdict.ofArgument_renders _ _ _ suggestion listed

/-- A run that trusts a watched function has status 2 and leaves the disk alone;
without that option there is a report of every scan. -/
theorem fee_misconfigured_or_reported :
    (∃ session : Session,
      run feeWorld ["a.js", "--safe", "mulDecimals"] = .ok (.ended session) ∧
        session.exit = 2 ∧ session.shown = [] ∧
        session.disk = feeWorld.disk) ∧
      ∃ settings : Settings, settings.Usable ∧
        ∀ scan : Scan, scan.IsUnder settings.vocabulary →
          scan.IsReported settings.minLevel := by
  constructor
  · have asked : Request.ofArguments ["a.js", "--safe", "mulDecimals"] =
        .ok (.audit
          { target := some "a.js",
            overrides := { safe := ["mulDecimals"] } }) :=
      rfl
    have faulty : Options.settings
        { target := some "a.js", overrides := { safe := ["mulDecimals"] } }
          feeWorld.reader feeWorld.disk =
        .error (.settings (.watchedAndTrusted ["mulDecimals"])) :=
      rfl
    rcases misconfigured_or_reported asked (by
        rw [faulty]
        rintro fault ⟨⟩
        exact ⟨_, rfl⟩) with
      ⟨_, session, _, two, _, blank, _, same, runs⟩ | ⟨_, _, _, usable, _⟩
    · exact ⟨session, runs feeWorld rfl rfl, two, blank, same⟩
    · rw [faulty] at usable
      cases usable
  · have asked : Request.ofArguments ["a.js"] =
        .ok (.audit { target := some "a.js" }) :=
      rfl
    have usual : Options.settings { target := some "a.js" } feeWorld.reader
        feeWorld.disk = .ok (.standard, "a.js") :=
      rfl
    rcases misconfigured_or_reported asked (by
        rw [usual]
        rintro fault ⟨⟩) with
      ⟨_, _, faulty, _⟩ | ⟨settings, _, _, _, usable, _, _, _, reported, _⟩
    · rw [usual] at faulty
      cases faulty
    · exact ⟨settings, usable, reported⟩

end CallAudit.Cli
