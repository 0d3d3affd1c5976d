import CallAudit.Cli.Usage
import CallAudit.Console.Layout
import CallAudit.Files.Place
import CallAudit.Grammar.Parse
import CallAudit.Yaml.Load
import Std.Time.Zoned

/-!
# The program

Reads what a run needs from the file system into a disk, runs, and shows, prints
and writes what comes of it.  Everything in between is a function of the disk.
-/

namespace CallAudit.Host

/-- Do something that may fail. -/
def attempt {α : Type} (action : IO α) : IO (Option α) := do
  try
    return some (← action)
  catch _ =>
    return none

def names? (path : String) : IO (Option (List String)) :=
  attempt do
    let place ← IO.FS.realPath path
    return (← place.readDir).toList.map fun entry => entry.fileName

/-- Read a file, or leave a link that leads nowhere. -/
def fileEntry (path : String) : IO Entry := do
  match ← attempt (IO.FS.readBinFile path) with
  | some content => return .file content
  | none => return .broken

/-- Read what is at a path, down to a number of levels.  Directories that are
never scanned are left empty. -/
def entry : Nat → String → IO Entry
  | 0, _ => return .directory .empty
  | depth + 1, path => do
      match ← names? path with
      | none => fileEntry path
      | some names =>
          let mut folder := Folder.empty
          for name in names do
            let below ←
              if Settings.skippedDirectories.contains name then
                entry 0 (Files.joinPath path name)
              else
                entry depth (Files.joinPath path name)
            folder := .put name below folder
          return .directory folder

def maxDepth : Nat :=
  64

def put (disk : Disk) (place : Place) (entry : Entry) : Disk :=
  { disk with root := disk.root.place entry place.reverse }

/-- Put a directory, or an unread file, on a disk, with the settings files in
it. -/
def outlineAt (disk : Disk) (place : Place) : IO Disk := do
  let path := place.path .single
  match ← names? path with
  | none =>
      match ← attempt (IO.FS.realPath path >>= fun real => real.metadata) with
      | none => return disk
      | some _ => return put disk place (← fileEntry path)
  | some names =>
      let mut result :=
        match Place.entry? disk place with
        | some (.directory _) => disk
        | _ => put disk place (.directory .empty)
      for name in Settings.fileNames do
        if names.contains name then
          result :=
            put result (name :: place) (← entry 1 (Files.joinPath path name))
      return result

/-- Put the directories that lead to a path on a disk, and what is there. -/
def outline (disk : Disk) (path : String) : IO Disk := do
  let place := Place.ofPath disk.workDir path
  let mut result := disk
  for count in List.range (place.length + 1) do
    result ← outlineAt result (place.drop (place.length - count))
  return result

/-- The target of a run, when its settings can be used. -/
def target? (options : Cli.Options) (disk : Disk) : Option String :=
  match options.settings Yaml.read disk with
  | .ok (_, target) => some target
  | .error (.settings (.rootMissing target)) => some target
  | .error _ => none

def disk (options : Cli.Options) : IO Disk := do
  let current ← IO.currentDir
  let bare : Disk := ⟨.empty, Files.components current.toString⟩
  let mut result ← outline bare "."
  let words := options.target?.toList ++ options.config.toList ++
    options.reportFile?.toList
  for word in words do
    result ← outline result word
  match target? options result with
  | none => return result
  | some target =>
      result ← outline result target
      if result.has target then
        let place := Place.ofPath result.workDir target
        return put result place (← entry maxDepth target)
      else
        return result

def now : IO Moment := do
  let time ← Std.Time.PlainDateTime.now
  return {
    year := time.year.toInt.toNat, month := time.month.val.toNat,
    day := time.day.val.toNat, hour := time.hour.val.toNat,
    minute := time.minute.val.toNat, second := time.second.val.toNat,
    micro := time.nanosecond.val.toNat / 1000 }

def present (options : Cli.Options) (session : Cli.Session) : IO Unit := do
  for notice in session.notices do
    IO.eprintln (Markup.shown notice.markup)
  for block in session.shown do
    for line in block.lines do
      IO.println line
  IO.print session.printed
  match options.reportFile? with
  | none => return
  | some path =>
      if session.exit != 2 then
        match session.disk.content? path with
        | some content => IO.FS.writeBinFile path content
        | none => return

def audit (options : Cli.Options) : IO UInt32 := do
  let begun ← IO.monoMsNow
  let disk ← disk options
  let ended ← IO.monoMsNow
  let world : Cli.World :=
    { disk := disk,
      now := ← now,
      elapsed := .ofDecimal false (ended - begun) (-3),
      reader := Yaml.read,
      examiner := fun settings => .standard Grammar.parse settings.vocabulary }
  match Cli.Session.ofOptions world options with
  | .ok session =>
      present options session
      return session.exit.toUInt32
  | .error crash =>
      IO.eprintln crash.message
      return 1

end CallAudit.Host

def main (arguments : List String) : IO UInt32 :=
  match CallAudit.Cli.Request.ofArguments arguments with
  | .error fault => do
      IO.eprintln CallAudit.Cli.usage
      IO.eprintln (CallAudit.Report.program ++ ": error: " ++ fault.message)
      return 2
  | .ok .help => do
      IO.println CallAudit.Cli.usage
      return 0
  | .ok (.audit options) => CallAudit.Host.audit options
