import CallAudit.Text.Split

/-!
# Disks

A disk is a tree of named entries together with a working directory.  Looking
at a disk and writing to it are pure functions on that value.

* A `Folder` lists the entries of a directory by name.
* A broken entry is a link that leads nowhere: it is listed, but there is
  nothing behind it.
* A path is followed step by step; every step needs a directory to start from,
  also the empty step after a slash at the end of the path.
-/

namespace CallAudit

mutual

/-- What a name in a directory can stand for. -/
inductive Entry where
  | file (content : ByteArray)
  | broken
  | directory (folder : Folder)

/-- The named entries of a directory. -/
inductive Folder where
  | empty
  | put (name : String) (entry : Entry) (rest : Folder)

end

/-- The ways in which a path can fail to lead to what is needed. -/
inductive PathFault where
  | missing
  | notDirectory
  | isDirectory
  deriving DecidableEq, Repr

/-- A disk and the directory that relative paths start from, given by the
names that lead to it from the root. -/
structure Disk where
  root : Folder
  workDir : List String

/-- A place reached on a disk: the entry there, the names that lead to it and
the folders above it, the nearest first. -/
structure Spot where
  entry : Entry
  names : List String
  above : List Folder

namespace Folder

def get? (wanted : String) : Folder → Option Entry
  | .empty => none
  | .put name entry rest =>
      if name = wanted then some entry else get? wanted rest

/-- Give a name an entry: a known name keeps its place, a new one goes to the
end. -/
def set (wanted : String) (fresh : Entry) : Folder → Folder
  | .empty => .put wanted fresh .empty
  | .put name entry rest =>
      if name = wanted then .put name fresh rest
      else .put name entry (set wanted fresh rest)

def toList : Folder → List (String × Entry)
  | .empty => []
  | .put name entry rest => (name, entry) :: toList rest

/-- Put an entry at the end of a chain of names, through folders that may have
to be made. -/
def place (fresh : Entry) : List String → Folder → Folder
  | [], folder => folder
  | [name], folder => folder.set name fresh
  | name :: next :: rest, folder =>
      match folder.get? name with
      | some (.directory inner) =>
          folder.set name (.directory (place fresh (next :: rest) inner))
      | _ => folder.set name (.directory (place fresh (next :: rest) .empty))

end Folder

namespace Entry

def descend? : Entry → List String → Option Entry
  | entry, [] => some entry
  | .directory folder, name :: rest =>
      (folder.get? name).bind fun entry => entry.descend? rest
  | _, _ :: _ => none

def isFile : Entry → Bool
  | .file _ => true
  | _ => false

def isDirectory : Entry → Bool
  | .directory _ => true
  | _ => false

def isThere : Entry → Bool
  | .broken => false
  | _ => true

end Entry

namespace Spot

def step (spot : Spot) (part : String) : Except PathFault Spot :=
  match spot.entry with
  | .file _ => .error .notDirectory
  | .broken => .error .missing
  | .directory folder =>
      if part = "" || part = "." then
        .ok spot
      else if part = ".." then
        match spot.above with
        | [] => .ok spot
        | parent :: rest => .ok ⟨.directory parent, spot.names.dropLast, rest⟩
      else
        match folder.get? part with
        | none => .error .missing
        | some entry =>
            .ok ⟨entry, spot.names ++ [part], folder :: spot.above⟩

def follow (spot : Spot) (parts : List String) : Except PathFault Spot :=
  parts.foldlM step spot

end Spot

namespace Disk

def top (disk : Disk) : Spot :=
  ⟨.directory disk.root, [], []⟩

/-- The place that a path starts from: the top for a path with a slash in
front, else the working directory. -/
def start (disk : Disk) (path : String) : Except PathFault Spot :=
  if path.toList.head? = some '/' then .ok disk.top
  else disk.top.follow disk.workDir

def spot (disk : Disk) (path : String) : Except PathFault Spot :=
  if path = "" then
    .error .missing
  else
    (disk.start path).bind fun start => start.follow (Text.split '/' path)

/-- The entry that a path leads to, unless there is nothing there. -/
def find? (disk : Disk) (path : String) : Option Entry :=
  match disk.spot path with
  | .ok spot => if spot.entry.isThere then some spot.entry else none
  | .error _ => none

def has (disk : Disk) (path : String) : Bool :=
  (disk.find? path).isSome

/-- The folder at a path, if there is a directory. -/
def folder? (disk : Disk) (path : String) : Option Folder :=
  match disk.find? path with
  | some (.directory folder) => some folder
  | _ => none

def content? (disk : Disk) (path : String) : Option ByteArray :=
  match disk.find? path with
  | some (.file content) => some content
  | _ => none

def writeIn (disk : Disk) (parent : Spot) (name : String) (content : ByteArray) :
    Except PathFault Disk :=
  match parent.entry with
  | .file _ => .error .notDirectory
  | .broken => .error .missing
  | .directory folder =>
      if name = "." || name = ".." ||
          (folder.get? name).any Entry.isDirectory then
        .error .isDirectory
      else
        .ok { disk with
          root := disk.root.place (.file content) (parent.names ++ [name]) }

def refuseFolder (parent : Spot) (name : String) : PathFault :=
  match parent.step name with
  | .ok ⟨.file _, _, _⟩ => .notDirectory
  | .ok _ => .isDirectory
  | .error .missing => .isDirectory
  | .error fault => fault

/-- Write a file to a path.  Its directory has to be there, and it replaces a
file of that name. -/
def write (disk : Disk) (path : String) (content : ByteArray) :
    Except PathFault Disk :=
  if path = "" then
    .error .missing
  else
    let parts := Text.split '/' path
    let named := (parts.reverse.dropWhile (· = "")).reverse
    let name := named.getLast?.getD "."
    (disk.start path).bind fun start =>
      (start.follow named.dropLast).bind fun parent =>
        if parts.getLast? = some "" then .error (refuseFolder parent name)
        else disk.writeIn parent name content

end Disk

end CallAudit
