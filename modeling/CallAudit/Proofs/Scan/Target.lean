import CallAudit.Proofs.Files.Path
import CallAudit.Scan.Run

/-!
# The target of a scan

The target is looked at twice: as it was written, to see whether anything is
there, and in its shortest spelling, to list its files.  Whatever the first look
finds the second one finds too, so a target that is there has a list of files.

That list depends on the patterns of the settings only.
-/

namespace CallAudit

/-! ## Following a path -/

namespace Spot

/-- Parts that lead nowhere. -/
def IsBlank (part : String) : Prop :=
  part = "" ∨ part = "."

/-- Every step starts in a directory. -/
theorem isDirectory_of_step {spot next : Spot} {part : String}
    (taken : spot.step part = .ok next) :
    spot.entry.isDirectory = true := by
  rw [step] at taken
  cases entry : spot.entry with
  | file content =>
      simp [entry] at taken
  | broken =>
      simp [entry] at taken
  | directory folder =>
      rfl

theorem step_of_blank {spot : Spot} {part : String}
    (directory : spot.entry.isDirectory = true) (blank : IsBlank part) :
    spot.step part = .ok spot := by
  rw [step]
  cases entry : spot.entry with
  | file content =>
      simp [entry, Entry.isDirectory] at directory
  | broken =>
      simp [entry, Entry.isDirectory] at directory
  | directory folder =>
      rcases blank with rfl | rfl
      · simp
      · simp

theorem follow_cons (spot : Spot) (part : String) (rest : List String) :
    spot.follow (part :: rest) =
      (spot.step part).bind fun next => next.follow rest :=
  rfl

theorem follow_cons_of_blank {spot : Spot} {part : String}
    (directory : spot.entry.isDirectory = true) (blank : IsBlank part)
    (rest : List String) :
    spot.follow (part :: rest) = spot.follow rest := by
  rw [follow_cons, step_of_blank directory blank]
  rfl

/-- Leaving out the parts that lead nowhere does not change where a path
leads. -/
theorem follow_filter {finish : Spot} :
    ∀ (parts : List String) (spot : Spot), spot.follow parts = .ok finish →
      spot.follow (parts.filter fun part => part != "" && part != ".") =
        .ok finish
  | [], spot, reached => reached
  | part :: rest, spot, reached => by
      rw [follow_cons] at reached
      cases taken : spot.step part with
      | error fault =>
          simp [taken, Except.bind] at reached
      | ok next =>
          simp only [taken, Except.bind] at reached
          have shorter := follow_filter rest next reached
          rw [List.filter_cons]
          split
          · rw [follow_cons, taken]
            exact shorter
          · next skipped =>
              have blank : IsBlank part := by
                rw [IsBlank, Decidable.or_iff_not_imp_left]
                simpa using skipped
              have stays := step_of_blank (isDirectory_of_step taken) blank
              rw [taken, Except.ok.injEq] at stays
              rw [← stays]
              exact shorter

theorem isDirectory_of_follow {spot finish : Spot} {parts : List String}
    (some : parts ≠ []) (reached : spot.follow parts = .ok finish) :
    spot.entry.isDirectory = true := by
  cases parts with
  | nil =>
      exact absurd rfl some
  | cons part rest =>
      rw [follow_cons] at reached
      cases taken : spot.step part with
      | error fault =>
          simp [taken, Except.bind] at reached
      | ok next =>
          exact isDirectory_of_step taken

theorem follow_split_joinWith {spot : Spot} {parts : List String}
    (directory : spot.entry.isDirectory = true)
    (clean : ∀ part ∈ parts, '/' ∉ part.toList) :
    spot.follow (Text.split '/' (Text.joinWith "/" parts)) =
      spot.follow parts := by
  cases parts with
  | nil =>
      have blank : Text.split '/' (Text.joinWith "/" []) = [""] := rfl
      rw [blank, follow_cons_of_blank directory (Or.inl rfl)]
  | cons part rest =>
      rw [Text.split_joinWith (List.cons_ne_nil part rest) clean]

end Spot

/-! ## The shortest spelling -/

theorem Disk.spot_eq_follow {disk : Disk} {path : String} {start : Spot}
    (filled : path ≠ "") (begun : disk.start path = .ok start) :
    disk.spot path = start.follow (Text.split '/' path) := by
  rw [spot, if_neg filled, begun]
  rfl

namespace Scan

open Files (components clean_of_mem_components)

/-- A path of components that lead somewhere is relative, and not empty unless
there are none. -/
theorem joinWith_components_cases (path : String) :
    components path = [] ∨
      (Text.joinWith "/" (components path) ≠ "" ∧
        (Text.joinWith "/" (components path)).toList.head? ≠ some '/') := by
  cases shape : components path with
  | nil =>
      exact Or.inl rfl
  | cons first rest =>
      right
      have clean : ∀ part ∈ first :: rest, part ≠ "" ∧ '/' ∉ part.toList := by
        intro part listed
        rw [← shape] at listed
        exact clean_of_mem_components listed
      have parts := Text.split_joinWith (List.cons_ne_nil first rest)
        fun part listed => (clean part listed).2
      have filled := (clean first List.mem_cons_self).1
      refine ⟨?_, ?_⟩
      · intro empty
        rw [empty] at parts
        injection parts with firstEmpty _
        exact filled firstEmpty.symm
      · intro absolute
        obtain ⟨others, chars⟩ := List.head?_eq_some_iff.mp absolute
        have slashed : Text.joinWith "/" (first :: rest) =
            "/" ++ String.ofList others := by
          rw [← String.toList_inj, chars]
          simp
        rw [slashed, Text.split_slash_append] at parts
        injection parts with firstEmpty _
        exact filled firstEmpty.symm

theorem targetPath_of_absolute {target : String}
    (absolute : target.toList.head? = some '/') :
    targetPath target = "/" ++ Text.joinWith "/" (components target) := by
  simp [targetPath, absolute]

theorem targetPath_of_relative {target : String}
    (relative : target.toList.head? ≠ some '/') :
    targetPath target =
      if Text.joinWith "/" (components target) = "" then "."
      else Text.joinWith "/" (components target) := by
  simp [targetPath, relative]

/-- The shortest spelling of a target starts where the target starts, and leads
through its components. -/
theorem spot_targetPath_eq {disk : Disk} {target : String} {start : Spot}
    (begun : disk.start target = .ok start)
    (directory : start.entry.isDirectory = true) :
    disk.spot (targetPath target) = start.follow (components target) := by
  have joined := Spot.follow_split_joinWith directory
    fun part (listed : part ∈ components target) =>
      (clean_of_mem_components listed).2
  by_cases absolute : target.toList.head? = some '/'
  · have slash : ("/" ++ Text.joinWith "/"
        (components target)).toList.head? = some '/' := by
      simp
    have filled : "/" ++ Text.joinWith "/" (components target) ≠ "" := by
      intro empty
      simp [empty] at slash
    have begunAtPath :
        disk.start ("/" ++ Text.joinWith "/" (components target)) =
          .ok start := by
      rw [← begun, Disk.start, if_pos slash, Disk.start, if_pos absolute]
    rw [targetPath_of_absolute absolute,
      Disk.spot_eq_follow filled begunAtPath, Text.split_slash_append,
      Spot.follow_cons_of_blank directory (Or.inl rfl), joined]
  · rw [targetPath_of_relative absolute]
    rw [Disk.start, if_neg absolute] at begun
    rcases joinWith_components_cases target with none | ⟨filled, relative⟩
    · have begunAtDot : disk.start "." = .ok start := begun
      have dot : Text.split '/' "." = ["."] := rfl
      have empty : Text.joinWith "/" [] = "" := rfl
      rw [none, if_pos empty, Disk.spot_eq_follow (by decide) begunAtDot, dot,
        Spot.follow_cons_of_blank directory (Or.inr rfl)]
    · have begunAtPath :
          disk.start (Text.joinWith "/" (components target)) = .ok start := by
        rw [Disk.start, if_neg relative, begun]
      rw [if_neg filled, Disk.spot_eq_follow filled begunAtPath, joined]

/-- Where a target leads, its shortest spelling leads too. -/
theorem spot_targetPath {disk : Disk} {target : String} {spot : Spot}
    (found : disk.spot target = .ok spot) :
    disk.spot (targetPath target) = .ok spot := by
  have filled : target ≠ "" := by
    rintro rfl
    simp [Disk.spot] at found
  cases begun : disk.start target with
  | error fault =>
      simp [Disk.spot, filled, begun, Except.bind] at found
  | ok start =>
      rw [Disk.spot_eq_follow filled begun] at found
      have directory : start.entry.isDirectory = true := by
        refine Spot.isDirectory_of_follow ?_ found
        simp [Text.split_eq]
      rw [spot_targetPath_eq begun directory]
      exact Spot.follow_filter _ start found

/-- A target that is there has a list of files. -/
theorem exists_files_of_has {disk : Disk} {target : String}
    (present : disk.has target = true) (settings : Settings) :
    ∃ files, Scan.files disk settings target = .ok files := by
  rw [Disk.has, Disk.find?] at present
  cases found : disk.spot target with
  | error fault =>
      simp [found] at present
  | ok spot =>
      have there : spot.entry.isThere = true := by
        simpa [found] using present
      rw [Scan.files, Disk.find?, spot_targetPath found]
      simp only [there, if_true]
      cases entry : spot.entry with
      | file content =>
          exact ⟨_, rfl⟩
      | directory folder =>
          exact ⟨_, rfl⟩
      | broken =>
          simp [entry, Entry.isThere] at there

end Scan

/-! ## The list of files -/

/-- Settings that select the same files. -/
def Settings.SelectsLike (left right : Settings) : Prop :=
  left.fileGlobs = right.fileGlobs ∧ left.excludeGlobs = right.excludeGlobs

namespace Folder

variable {left right : Settings}

theorem selected_congr (alike : left.SelectsLike right)
    (path inside : String) (folder : Folder) :
    folder.selected left path inside = folder.selected right path inside := by
  simp only [selected, Settings.takes, Settings.excludes, alike.1, alike.2]

theorem branches_congr (alike : left.SelectsLike right)
    (path inside : String) (folder : Folder) :
    branches left path inside folder = branches right path inside folder := by
  have excludes : ∀ place, left.excludes place = right.excludes place := by
    intro place
    simp only [Settings.excludes, alike.2]
  fun_induction branches left path inside folder with
  | case1 path inside =>
      rfl
  | case2 path inside name folder rest others subinside excluded othersAlike =>
      rw [excludes] at excluded
      rw [branches, if_pos excluded]
      exact othersAlike
  | case3 path inside name folder rest others subpath subinside entered below
      othersAlike belowAlike =>
      rw [excludes] at entered
      rw [branches, if_neg entered, selected_congr alike]
      simp only [below, others, belowAlike, othersAlike, subpath, subinside]
  | case4 path inside name entry rest notDirectory othersAlike =>
      rw [othersAlike, branches]
      exact notDirectory

end Folder

/-- The list of files depends on the patterns of the settings only. -/
theorem Scan.files_congr {left right : Settings}
    (alike : left.SelectsLike right) (disk : Disk) (target : String) :
    Scan.files disk left target = Scan.files disk right target := by
  simp only [Scan.files, Folder.discover, Folder.selected_congr alike,
    Folder.branches_congr alike]

end CallAudit
