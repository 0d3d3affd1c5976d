import CallAudit.Files.Discover
import CallAudit.Files.Name
import CallAudit.Files.Read
import CallAudit.Scan.Basic
import CallAudit.Scan.Examine
import CallAudit.Scan.Notice
import CallAudit.Settings.Fault

/-!
# Running a scan

The files of a target are examined one after the other.  A file counts only
once it was examined to the end, so a scan that is broken off is a scan of the
files before that.

* Before each file the caller may be asked whether to stop.
* A file that cannot be read, does not fit its grammar or makes the
  examination fail is skipped with a notice.
-/

namespace CallAudit

/-- The answers to the question whether to stop, by the number of times it was
asked before. -/
abbrev StopRule := Nat → Bool

/-- A scan under way: what it came to so far, the notices it gave and how often
it asked whether to stop. -/
structure ScanLog where
  scan : Scan := {}
  notices : List Notice := []
  polls : Nat := 0
  deriving Inhabited

namespace ScanLog

def skip (log : ScanLog) (file reason : String) (notice : Notice) : ScanLog :=
  { log with
    scan := log.scan.skip file reason,
    notices := log.notices ++ [notice] }

def cancel (log : ScanLog) : ScanLog :=
  { log with scan := log.scan.cancel }

def poll (stop : Option StopRule) (log : ScanLog) : Bool × ScanLog :=
  match stop with
  | none => (false, log)
  | some rule => (rule log.polls, { log with polls := log.polls + 1 })

/-- How a file ends: with an examination, or unread. -/
def examine (disk : Disk) (examiner : Examiner) (file : String) :
    Option Examination :=
  (disk.text? file).map (examiner file)

/-- Note how a file ended.  An interruption is nothing to note. -/
def note (log : ScanLog) (file : String) : Option Examination → ScanLog
  | none => log.skip file "unreadable" (.unreadable file)
  | some (.finished ledger) => { log with scan := log.scan.complete ledger }
  | some (.refused reason) => log.skip file reason (.refused file reason)
  | some (.failed reason) => log.skip file reason (.failed file reason)
  | some .interrupted => log

/-- Go through files, each with a function for how it ends. -/
def through (stop : Option StopRule) (ending : String → Option Examination) :
    List String → ScanLog → ScanLog
  | [], log => log
  | file :: rest, log =>
      let asked := log.poll stop
      if asked.1 then
        asked.2.cancel
      else
        match ending file with
        | some .interrupted => asked.2.cancel
        | other => through stop ending rest (asked.2.note file other)

end ScanLog

namespace Scan

/-- The path of a target in its shortest spelling: without empty components and
single dots.  Nothing at all is the working directory. -/
def targetPath (target : String) : String :=
  let absolute := target.toList.head? = some '/'
  let parts := Text.joinWith "/" (Files.components target)
  if absolute then "/" ++ parts else if parts = "" then "." else parts

/-- The files of a target: the target itself if it is a file, those that the
settings select if it is a directory. -/
def files (disk : Disk) (settings : Settings) (target : String) :
    Except SettingsFault (List String) :=
  let path := targetPath target
  match disk.find? path with
  | some (.file _) => .ok [path]
  | some (.directory folder) => .ok (folder.discover settings path)
  | _ => .error (.rootMissing target)

def ofFiles
    (disk : Disk) (examiner : Examiner) (stop : Option StopRule)
    (files : List String) : ScanLog :=
  ScanLog.through stop (ScanLog.examine disk examiner) files {}

def run
    (disk : Disk) (settings : Settings) (examiner : Examiner)
    (stop : Option StopRule) (target : String) :
    Except SettingsFault ScanLog :=
  (files disk settings target).map (ofFiles disk examiner stop)

end Scan

end CallAudit
