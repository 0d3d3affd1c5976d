import CallAudit.Proofs.Cli.Reading
import CallAudit.Proofs.Scan.Completed
import CallAudit.Proofs.Scan.Target
import CallAudit.Proofs.Settings.Effective

/-!
# The exit status of a run

A run with settings that can be used ends with a session, unless its report
cannot be written.  The exit status is 1 exactly when the settings ask to fail
on issues of the gravest level and a completed file has an undeclared argument,
else 0.  What is reported, and how, has no part in it.
-/

namespace CallAudit.Cli

/-- The world of a run that audits the trees of a reader, with a reader of
settings files and what breaks into its examinations. -/
def World.auditing
    (disk : Disk) (now : Moment) (elapsed : Binary) (values : ValueReader)
    (read : TreeReader) (disturb : String → Option Disturbance) : World where
  disk := disk
  now := now
  elapsed := elapsed
  reader := values
  examiner := fun settings => .auditing read settings.vocabulary disturb

def World.scanOf (world : World) (settings : Settings) (files : List String) :
    Scan :=
  { (Scan.ofFiles world.disk (world.examiner settings) none files).scan with
    elapsed := world.elapsed }

/-- A report for these options cannot be written to the disk. -/
def Options.CannotWrite
    (options : Options) (disk : Disk) (fault : PathFault) : Prop :=
  ∃ path content, options.reportFile? = some path ∧
    disk.write path content = .error fault

namespace Session

/-! ## Sessions end -/

/-- A session that was carried to its end with an exit status, or was stopped
by a report that could not be written. -/
def Ends (options : Options) (disk : Disk) (exit : Nat)
    (outcome : Except Crash Session) : Prop :=
  (∃ fault, options.CannotWrite disk fault ∧ outcome = .error (.write fault)) ∨
    ∃ session, outcome = .ok session ∧ session.exit = exit

section Ends

variable {world : World} {options : Options} {settings : Settings}
  {scan : Scan} {session : Session}

theorem write_ends {path report : String} {disk : Disk} {exit : Nat}
    (asked : options.reportFile? = some path) (after : Disk → Session)
    (same : ∀ written, (after written).exit = exit) :
    Ends options disk exit
      ((write disk path report).bind fun written => .ok (after written)) := by
  rw [write]
  cases written : disk.write path report.toUTF8 with
  | error fault =>
      exact Or.inl ⟨fault, ⟨path, _, asked, written⟩, rfl⟩
  | ok changed =>
      exact Or.inr ⟨after changed, rfl, same changed⟩

theorem withRecord_ends {disk : Disk} {exit : Nat}
    (isDisk : session.disk = disk) (isExit : session.exit = exit)
    (reports : Succeeds (Report.json scan settings.minLevel world.now)) :
    Ends options disk exit
      (session.withRecord world options settings scan) := by
  subst isDisk isExit
  obtain ⟨report, isReport⟩ := reports
  rw [withRecord, isReport]
  cases asked : options.reportFile? with
  | none =>
      exact Or.inr ⟨_, rfl, rfl⟩
  | some path =>
      exact write_ends asked (fun written => { session with disk := written })
        fun _ => rfl

theorem withDisplay_ends {target : String} {disk : Disk} {exit : Nat}
    (isDisk : session.disk = disk) (isExit : session.exit = exit)
    (shows : Succeeds
      (Report.display world.disk scan target settings.minLevel world.now))
    (reports : Succeeds (Report.plain scan settings.minLevel)) :
    Ends options disk exit
      (session.withDisplay world options settings target scan) := by
  subst isDisk isExit
  obtain ⟨blocks, areBlocks⟩ := shows
  obtain ⟨report, isReport⟩ := reports
  rw [withDisplay, areBlocks]
  cases asked : options.reportFile? with
  | none =>
      exact Or.inr ⟨_, rfl, rfl⟩
  | some path =>
      rw [isReport]
      exact write_ends asked
        (fun written =>
          { session with
            shown := session.shown ++ blocks ++ [savedMessage path],
            disk := written })
        fun _ => rfl

/-- A session whose scan holds issues that can be shown ends with the status of
the scan. -/
theorem ofFiles_ends (target : String) (files : List String)
    (known : settings.minLevel ∈ Settings.levelNames)
    (presentable : ∀ issue ∈ (world.scanOf settings files).ledger.issues,
      issue.IsPresentable) :
    Ends options world.disk (status settings (world.scanOf settings files))
      (ofFiles world options settings target files) := by
  rw [ofFiles]
  split
  · exact withRecord_ends rfl rfl (Report.succeeds_json known presentable _)
  · exact withDisplay_ends rfl rfl
      (Report.succeeds_display known presentable _ _ _)
      (Report.succeeds_plain known presentable)

/-- A run with usable settings ends with the status of the scan of its
files. -/
theorem ofOptions_ends {target : String} {files : List String}
    (configured : options.settings world.reader world.disk =
      .ok (settings, target))
    (found : Scan.files world.disk settings target = .ok files)
    (presentable : ∀ issue ∈ (world.scanOf settings files).ledger.issues,
      issue.IsPresentable) :
    Ends options world.disk (status settings (world.scanOf settings files))
      (ofOptions world options) := by
  rw [ofOptions, configured]
  simp only [bind, Except.bind, found, Outcome.mapError_ok]
  exact ofFiles_ends target files
    (Options.usable_of_settings configured).knownLevel presentable

end Ends

theorem status_eq_zero_or_one (settings : Settings) (scan : Scan) :
    status settings scan = 0 ∨ status settings scan = 1 := by
  rw [status]
  split
  · exact Or.inr rfl
  · exact Or.inl rfl

theorem status_eq_one_iff (settings : Settings) (scan : Scan) :
    status settings scan = 1 ↔
      settings.failOnHigh = true ∧ scan.ledger.hasHigh = true := by
  simp [status]

end Session

/-! ## Runs -/

/-- A run that was carried to its end with an exit status, or was stopped by a
report that could not be written. -/
def Exits (world : World) (arguments : List String) (options : Options)
    (exit : Nat) : Prop :=
  (∃ fault, options.CannotWrite world.disk fault ∧
      run world arguments = .error (.write fault)) ∨
    ∃ session, run world arguments = .ok (.ended session) ∧
      session.exit = exit

theorem exits_of_ends {world : World} {arguments : List String}
    {options : Options} {exit : Nat}
    (asked : Request.ofArguments arguments = .ok (.audit options))
    (ends : Session.Ends options world.disk exit
      (Session.ofOptions world options)) :
    Exits world arguments options exit := by
  rcases ends with ⟨fault, cannot, crashed⟩ | ⟨session, ended, isExit⟩
  · refine Or.inl ⟨fault, cannot, ?_⟩
    simp only [run, asked, crashed, Except.map]
  · refine Or.inr ⟨session, ?_, isExit⟩
    simp only [run, asked, ended, Except.map]

/-- A run without a report to write is carried to its end. -/
theorem Exits.exists_session {world : World} {arguments : List String}
    {options : Options} {exit : Nat}
    (exits : Exits world arguments options exit)
    (unwritten : options.reportFile? = none) :
    ∃ session, run world arguments = .ok (.ended session) ∧
      session.exit = exit := by
  rcases exits with ⟨_, ⟨path, _, written, _⟩, _⟩ | ended
  · rw [unwritten] at written
    simp at written
  · exact ended

/-- The exit status of a run with usable settings, unless its report cannot be
written: 1 when the settings ask to fail on issues of the gravest level, on the
command line or in the settings file, and some completed file has an undeclared
argument of a watched call, else 0.  Every command line that differs only in
what is reported, and how, ends with the same status. -/
theorem exit_status_of_run
    (disk : Disk) (now : Moment) (elapsed : Binary) (values : ValueReader)
    (read : TreeReader) (disturb : String → Option Disturbance)
    {arguments : List String} {options : Options}
    {settings : Settings} {target : String}
    (asked : Request.ofArguments arguments = .ok (.audit options))
    (configured : options.settings values disk = .ok (settings, target)) :
    ∃ files status,
      Scan.files disk settings target = .ok files ∧
        (settings.failOnHigh = true ↔
          options.overrides.failOnHigh = true ∨
            ∃ loaded,
              Settings.load values disk (options.target?.getD ".")
                  options.config = .ok (some loaded) ∧
                loaded.failOnHigh = true) ∧
        (status = 0 ∨ status = 1) ∧
        (status = 1 ↔
          settings.failOnHigh = true ∧
            ∃ file text tree,
              Scan.Completes disk read disturb files file text tree ∧
                tree.HasUndeclaredArgument settings.watched) ∧
        Exits (.auditing disk now elapsed values read disturb) arguments
          options status ∧
        ∀ otherArguments otherOptions,
          Request.ofArguments otherArguments = .ok (.audit otherOptions) →
            otherOptions.SameAudit options →
              Exits (.auditing disk now elapsed values read disturb)
                otherArguments otherOptions status := by
  obtain ⟨_, _, _, _, present⟩ := Options.settings_eq_ok_iff.mp configured
  obtain ⟨files, found⟩ := Scan.exists_files_of_has present settings
  let world := World.auditing disk now elapsed values read disturb
  refine ⟨files, Session.status settings (world.scanOf settings files), found,
    Options.failOnHigh_iff configured, Session.status_eq_zero_or_one _ _,
    ?_, ?_, ?_⟩
  · rw [Session.status_eq_one_iff]
    exact and_congr_right fun _ => Scan.hasHigh_iff
  · exact exits_of_ends asked (Session.ofOptions_ends configured found
      Scan.isPresentable_of_mem_issues)
  · intro otherArguments otherOptions otherAsked same
    obtain ⟨level, otherConfigured⟩ := same.exists_settings
      (Request.knowsLevel_of_ofArguments otherAsked) configured
    have otherFound :
        Scan.files disk { settings with minLevel := level } target =
          .ok files := by
      rw [← found]
      apply Scan.files_congr
      exact ⟨rfl, rfl⟩
    -- The level has no part in the vocabulary or the status.
    have ends := @Session.ofOptions_ends world otherOptions _ target files
      otherConfigured otherFound Scan.isPresentable_of_mem_issues
    exact exits_of_ends otherAsked ends

/-- The program `mulDecimals(fee)`. -/
def feeTree : Node :=
  .node { kind := "program", text := "mulDecimals(fee)" }
    [.node { kind := "expression_statement", text := "mulDecimals(fee)" }
      [.node { kind := "call_expression", text := "mulDecimals(fee)" }
        [.node
          { kind := "identifier", field := some "function",
            text := "mulDecimals" } [],
          .node
            { kind := "arguments", field := some "arguments",
              start := ⟨0, 11⟩, text := "(fee)" }
            [.node { kind := "(", named := false, text := "(" } [],
              .node { kind := "identifier", text := "fee" } [],
              .node { kind := ")", named := false, text := ")" } []]]]]

def feeWorld : World :=
  .auditing ⟨.put "a.js" (.file "mulDecimals(fee)".toUTF8) .empty, []⟩
    { year := 2024, month := 1, day := 1, hour := 0, minute := 0, second := 0,
      micro := 0 }
    (.zero false) (fun _ _ => .ok .null) (fun _ _ => feeTree) fun _ => none

theorem feeTree_hasUndeclaredArgument :
    feeTree.HasUndeclaredArgument Settings.standard.watched := by
  apply (Node.exists_high_finding_iff Settings.standard.vocabulary feeTree).mp
  have found : ((feeTree.findings Settings.standard.vocabulary).any
      fun finding => decide (finding.risk.level = .high)) = true := by
    rw [Node.findings, ScopeTable.ofTree, Node.declarations,
      Node.walk_eq_sites]
    rfl
  simpa using found

/-- The name `fee` is undeclared, so runs that fail on that exit with 1, also
when they report it as data. -/
theorem exit_status_of_run_on_fee :
    (∃ session,
      run feeWorld ["a.js", "--fail-on-high"] = .ok (.ended session) ∧
        session.exit = 1) ∧
      ∃ session,
        run feeWorld ["--output", "json", "--fail-on-high", "a.js"] =
            .ok (.ended session) ∧
          session.exit = 1 := by
  have asked : Request.ofArguments ["a.js", "--fail-on-high"] =
      .ok (.audit
        { target := some "a.js", overrides := { failOnHigh := true } }) :=
    rfl
  have askedAsData :
      Request.ofArguments ["--output", "json", "--fail-on-high", "a.js"] =
        .ok (.audit
          { target := some "a.js", overrides := { failOnHigh := true },
            json := true }) :=
    rfl
  have configured :
      Options.settings
          { target := some "a.js", overrides := { failOnHigh := true } }
          feeWorld.reader feeWorld.disk =
        .ok ({ Settings.standard with failOnHigh := true }, "a.js") :=
    rfl
  obtain ⟨files, status, found, _, _, one, exits, alike⟩ :=
    exit_status_of_run feeWorld.disk feeWorld.now feeWorld.elapsed
      feeWorld.reader (fun _ _ => feeTree) (fun _ => none) asked configured
  obtain rfl : ["a.js"] = files := by
    injection found
  have isOne : status = 1 :=
    one.mpr ⟨rfl, "a.js", _, feeTree,
      ⟨⟨[], [], rfl, by simp⟩, rfl, rfl, rfl⟩, feeTree_hasUndeclaredArgument⟩
  rw [isOne] at exits alike
  have exitsAsData :=
    alike _ _ askedAsData ⟨rfl, rfl, rfl, rfl, rfl, rfl, rfl⟩
  exact ⟨exits.exists_session rfl, exitsAsData.exists_session rfl⟩

end CallAudit.Cli
