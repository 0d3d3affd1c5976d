import CallAudit.Files.Disk
import CallAudit.Settings.Select

/-!
# Discovering files

The files below a directory that the settings select: first those directly in
it, then those of its subdirectories, each group in the order of code points of
the names.  A subdirectory that is left out is not entered.

Paths to leave out are seen from the directory at the top.
-/

namespace CallAudit

namespace Files

def joinPath (directory name : String) : String :=
  if directory = "" || directory.toList.getLast? = some '/' then
    directory ++ name
  else
    directory ++ "/" ++ name

/-- Put something at the place of its name among things in the order of their
names. -/
def insertByName {α : Type} (item : String × α) :
    List (String × α) → List (String × α)
  | [] => [item]
  | head :: rest =>
      if item.1 < head.1 then item :: head :: rest
      else head :: insertByName item rest

def sortByName {α : Type} (items : List (String × α)) : List (String × α) :=
  items.foldr insertByName []

end Files

namespace Folder

/-- The names in a folder that do not stand for directories, in order. -/
def fileNames (folder : Folder) : List String :=
  let files := folder.toList.filter fun item => !item.2.isDirectory
  (Files.sortByName files).map Prod.fst

/-- The paths of the files directly in a folder that the settings select. -/
def selected (settings : Settings) (path inside : String) (folder : Folder) :
    List String :=
  let chosen := folder.fileNames.filter fun name =>
    settings.takes name && !settings.excludes (Files.joinPath inside name)
  chosen.map (Files.joinPath path)

/-- The subdirectories of a folder that are entered, with the files found in
each of them. -/
def branches (settings : Settings) :
    (path inside : String) → Folder → List (String × List String)
  | _, _, .empty => []
  | path, inside, .put name (.directory folder) rest =>
      let others := branches settings path inside rest
      let subpath := Files.joinPath path name
      let subinside := Files.joinPath inside name
      if settings.excludes subinside then
        others
      else
        let below := branches settings subpath subinside folder
        (name, folder.selected settings subpath subinside ++
          (Files.sortByName below).flatMap Prod.snd) :: others
  | path, inside, .put _ _ rest => branches settings path inside rest

/-- The files in and below a folder that the settings select. -/
def discover (settings : Settings) (path : String) (folder : Folder) :
    List String :=
  folder.selected settings path "" ++
    (Files.sortByName (folder.branches settings path "")).flatMap Prod.snd

end Folder

/-- The selected files below a path; none when there is no directory. -/
def Disk.discover (disk : Disk) (settings : Settings) (path : String) :
    List String :=
  match disk.folder? path with
  | some folder => folder.discover settings path
  | none => []

end CallAudit
