import CallAudit.Files.Place
import CallAudit.Settings.File

/-!
# Finding the settings file

A settings file can be named.  Otherwise it is looked for from the place to scan
upwards: first the nearest place that exists is taken, then its directory and
the directories above it are searched, the nearest first.
-/

namespace CallAudit

/-- A reader of settings files: from the path of a file and its content to the
value that it holds. -/
abbrev ValueReader :=
  (path : String) → (content : ByteArray) → Except Yaml.ReadFault Yaml.Value

namespace Settings

/-- The names of settings files, in the order of preference. -/
def fileNames : List String :=
  [".decimalguard.yml", ".decimalguard.yaml"]

/-- The fault for a file that has no value.  A file that cannot be read and a
breach of the format are faults of the settings. -/
def readFault (path : String) : Yaml.ReadFault → LoadFault
  | .unreadable detail => .settings (.fileUnreadable path detail)
  | .malformed detail => .settings (.fileMalformed path detail)
  | .encoding => .encoding
  | .value fault => .value fault

def ofContent (read : ValueReader) (path : String) (content : ByteArray) :
    Except LoadFault Settings :=
  match read path content with
  | .error fault => .error (readFault path fault)
  | .ok value => ofValue path value

/-- The nearest place, from a given one upwards, where there is anything. -/
def nearest (disk : Disk) : Place → Place
  | [] => []
  | name :: above =>
      if (Place.entry? disk (name :: above)).isSome then name :: above
      else nearest disk above

/-- The directory to start the search in: that of a file, or the place
itself. -/
def searchStart (disk : Disk) (place : Place) : Place :=
  let found := nearest disk place
  if (Place.entry? disk found).any Entry.isFile then found.tail else found

/-- The settings file in a directory, with its content. -/
def fileIn? (disk : Disk) (directory : Place) : Option (Place × ByteArray) :=
  fileNames.findSome? fun name =>
    match Place.entry? disk (name :: directory) with
    | some (.file content) => some (name :: directory, content)
    | _ => none

/-- The nearest settings file in a directory or above it. -/
def search (disk : Disk) : Place → Option (Place × ByteArray)
  | [] => fileIn? disk []
  | name :: above =>
      match fileIn? disk (name :: above) with
      | some found => some found
      | none => search disk above

section

variable (read : ValueReader) (disk : Disk)

/-- The settings for a place to scan, without a settings file being named;
nothing if there is none. -/
def discovered (target : String) : Except LoadFault (Option Settings) :=
  match search disk (searchStart disk (Place.ofPath disk.workDir target)) with
  | none => .ok none
  | some (place, content) =>
      (ofContent read (place.path (Root.ofPath target)) content).map some

/-- The settings in a file that was named. -/
def named (path : String) : Except LoadFault Settings :=
  match disk.content? path with
  | none => .error (.settings (.fileMissing path))
  | some content => ofContent read path content

/-- The settings for a place to scan; nothing if there is no settings file.  An
empty name is no name. -/
def load (target : String) (path : Option String) :
    Except LoadFault (Option Settings) :=
  match path with
  | none => discovered read disk target
  | some path =>
      if path = "" then discovered read disk target
      else (named read disk path).map some

end

end Settings

end CallAudit
