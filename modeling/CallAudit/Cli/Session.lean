import CallAudit.Cli.Request
import CallAudit.Report.Display
import CallAudit.Report.Record
import CallAudit.Scan.Run
import CallAudit.Settings.Locate

/-!
# Sessions

A run from the command line to the exit status.  The settings come first: when
they cannot be used, the run ends before any file is looked at.  Then the target
is scanned and the report is shown, printed or written.

The exit status is 2 for settings that cannot be used, 1 when issues of the
gravest level were found and the settings ask to fail on those, else 0.
-/

namespace CallAudit.Cli

/-- What a run works with besides its command line. -/
structure World where
  disk : Disk
  now : Moment
  elapsed : Binary
  reader : ValueReader
  examiner : Settings → Examiner

/-- What a run leaves behind. -/
structure Session where
  exit : Nat
  printed : String := ""
  shown : List Block := []
  notices : List Notice := []
  disk : Disk

/-- The reasons why a run ends without an exit status of its own. -/
inductive Crash where
  /-- The settings could not be loaded. -/
  | load (fault : LoadFault)
  /-- There is no report of the scan. -/
  | report (fault : ReportFault)
  /-- The report could not be written. -/
  | write (fault : PathFault)
  deriving DecidableEq, Repr

/-- How a command line is answered. -/
inductive Answer where
  | help
  | misuse (fault : Misuse)
  | ended (session : Session)

namespace Options

/-- The target that was given; an empty one is none. -/
def target? (options : Options) : Option String :=
  options.target.filter (· != "")

/-- The file to write the report to; an empty name is none. -/
def reportFile? (options : Options) : Option String :=
  options.reportFile.filter (· != "")

def settings (options : Options) (read : ValueReader) (disk : Disk) :
    Except LoadFault (Settings × String) := do
  let loaded ←
    Settings.load read disk (options.target?.getD ".") options.config
  let settings ←
    (options.overrides.apply (loaded.getD .standard)).mapError .settings
  let target := options.target?.getD settings.sourceRoot
  if disk.has target then
    return (settings, target)
  else
    throw (.settings (.rootMissing target))

def showsProgress (options : Options) : Bool :=
  !options.json && options.progress

/-- What is shown before the report: the banner, and the empty line that the
progress of a scan with any files leaves behind. -/
def opening (options : Options) (files : List String) : List Block :=
  (if options.banner && !options.json then Report.banner else []) ++
    (if options.showsProgress && !files.isEmpty then [.blank] else [])

end Options

namespace Session

def savedMessage (path : String) : Block :=
  .message ("\n" ++ Markup.inStyle "bold green"
    ("Report saved to " ++ Markup.escape path))

/-- The notices of a scan; a last one tells that it was broken off. -/
def scanNotices (log : ScanLog) : List Notice :=
  log.notices ++
    (if log.scan.cancelled then [.interrupted log.scan.filesScanned] else [])

def status (settings : Settings) (scan : Scan) : Nat :=
  if settings.failOnHigh && scan.ledger.hasHigh then 1 else 0

def write (disk : Disk) (path report : String) : Except Crash Disk :=
  (disk.write path report.toUTF8).mapError .write

/-- The session with the report as data: printed, or written to a file. -/
def withRecord (world : World) (options : Options) (settings : Settings)
    (scan : Scan) (session : Session) : Except Crash Session := do
  let report ←
    (Report.json scan settings.minLevel world.now).mapError .report
  match options.reportFile? with
  | none => return { session with printed := report ++ "\n" }
  | some path =>
      let disk ← write session.disk path report
      return { session with disk := disk }

/-- The session with the report on the console, and as plain text in a file if
one was asked for. -/
def withDisplay
    (world : World) (options : Options) (settings : Settings) (target : String)
    (scan : Scan) (session : Session) : Except Crash Session := do
  let blocks ←
    (Report.display world.disk scan target settings.minLevel
      world.now).mapError .report
  let shown := session.shown ++ blocks
  match options.reportFile? with
  | none => return { session with shown := shown }
  | some path =>
      let report ← (Report.plain scan settings.minLevel).mapError .report
      let disk ← write session.disk path report
      return { session with
        shown := shown ++ [savedMessage path], disk := disk }

def ofFiles
    (world : World) (options : Options) (settings : Settings) (target : String)
    (files : List String) : Except Crash Session :=
  let log := Scan.ofFiles world.disk (world.examiner settings) none files
  let scan := { log.scan with elapsed := world.elapsed }
  let session : Session :=
    { exit := status settings scan,
      shown := options.opening files,
      notices := scanNotices log,
      disk := world.disk }
  if options.json then
    session.withRecord world options settings scan
  else
    session.withDisplay world options settings target scan

/-- The session of a run with settings that cannot be used. -/
def misconfigured (disk : Disk) (fault : SettingsFault) : Session :=
  { exit := 2, notices := [.misconfigured fault.message], disk := disk }

def ofOptions (world : World) (options : Options) : Except Crash Session :=
  match options.settings world.reader world.disk with
  | .error (.settings fault) => .ok (misconfigured world.disk fault)
  | .error fault => .error (.load fault)
  | .ok (settings, target) => do
      let files ←
        (Scan.files world.disk settings target).mapError fun fault =>
          .load (.settings fault)
      ofFiles world options settings target files

end Session

def run (world : World) (arguments : List String) : Except Crash Answer :=
  match Request.ofArguments arguments with
  | .error fault => .ok (.misuse fault)
  | .ok .help => .ok .help
  | .ok (.audit options) => (Session.ofOptions world options).map .ended

end CallAudit.Cli
