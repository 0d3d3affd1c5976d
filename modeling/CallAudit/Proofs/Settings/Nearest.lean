import CallAudit.Proofs.Files.Place
import CallAudit.Proofs.Settings.Usable
import Mathlib.Data.List.Infix

/-!
# The nearest settings file

Without a name for it, the settings file is looked for in two searches upwards.
The first one, from the target, comes to the nearest place where there is
anything; the second one, from the directory there, comes to the nearest
settings file.

* `Settings.StartsIn` says in which directory the second search starts, and
  `Settings.candidates` lists the places where a settings file could be, in the
  order of preference.
* The settings are those in the first candidate that is a file, and there are
  none exactly when no candidate is one.  Directories and links that lead nowhere
  are passed over.
-/

namespace CallAudit.Settings

open Place (Climbs IsPlain)

variable {disk : Disk}

/-! ## The start of the search -/

def HoldsFile (disk : Disk) (place : Place) : Prop :=
  ∃ content, Place.entry? disk place = some (.file content)

/-- Of a place and those above it, the nearest where there is anything. -/
def IsNearest (disk : Disk) (target found : Place) : Prop :=
  ∃ passed rest, target.tails = passed ++ found :: rest ∧
    (Place.entry? disk found).isSome = true ∧
    ∀ other ∈ passed, Place.entry? disk other = none

/-- The directory in which a settings file for a target is first looked for. -/
inductive StartsIn (disk : Disk) (target : Place) : Place → Prop
  | itself {found : Place} :
      IsNearest disk target found →
      ¬ HoldsFile disk found →
      StartsIn disk target found
  | parent {found : Place} :
      IsNearest disk target found →
      HoldsFile disk found →
      StartsIn disk target found.tail

theorem holdsFile_iff {place : Place} :
    (Place.entry? disk place).any Entry.isFile = true ↔
      HoldsFile disk place := by
  rw [HoldsFile]
  cases Place.entry? disk place with
  | none =>
      simp
  | some entry =>
      cases entry <;> simp [Entry.isFile]

theorem entry?_root_isSome : (Place.entry? disk []).isSome = true :=
  rfl

theorem find?_tails_eq_nearest (disk : Disk) (target : Place) :
    (target.tails.find? fun place => (Place.entry? disk place).isSome) =
      some (nearest disk target) := by
  induction target with
  | nil =>
      simp [entry?_root_isSome, nearest]
  | cons name above inductionHypothesis =>
      rw [List.tails, List.find?_cons, nearest]
      by_cases there : (Place.entry? disk (name :: above)).isSome = true
      · rw [there, if_pos rfl]
      · rw [if_neg there, Bool.eq_false_of_not_eq_true there,
          inductionHypothesis]

theorem isNearest_iff {target found : Place} :
    IsNearest disk target found ↔ found = nearest disk target := by
  have first := find?_tails_eq_nearest disk target
  rw [eq_comm, ← Option.some.injEq, ← first, List.find?_eq_some_iff_append]
  simp only [IsNearest, Bool.not_eq_true', Option.isSome_eq_false_iff,
    Option.isNone_iff_eq_none]
  constructor
  · rintro ⟨passed, rest, shape, there, unmet⟩
    exact ⟨there, passed, rest, shape, unmet⟩
  · rintro ⟨there, passed, rest, shape, unmet⟩
    exact ⟨passed, rest, shape, there, unmet⟩

theorem startsIn_iff {target directory : Place} :
    StartsIn disk target directory ↔ directory = searchStart disk target := by
  have start : searchStart disk target =
      if (Place.entry? disk (nearest disk target)).any Entry.isFile = true then
        (nearest disk target).tail
      else nearest disk target :=
    rfl
  rw [start]
  constructor
  · rintro (⟨isNearest, notFile⟩ | ⟨isNearest, isFile⟩)
    · obtain rfl := isNearest_iff.mp isNearest
      rw [if_neg (mt holdsFile_iff.mp notFile)]
    · obtain rfl := isNearest_iff.mp isNearest
      rw [if_pos (holdsFile_iff.mpr isFile)]
  · rintro rfl
    split
    · next isFile =>
        exact .parent (isNearest_iff.mpr rfl) (holdsFile_iff.mp isFile)
    · next notFile =>
        exact .itself (isNearest_iff.mpr rfl) (mt holdsFile_iff.mpr notFile)

/-! ## The candidates -/

/-- The places where a settings file for a directory could be: those in the
directory, then those in its parent, and so on up to the root. -/
def candidates (directory : Place) : List Place :=
  directory.tails.flatMap fun above => fileNames.map fun name => name :: above

/-- The first of some places that is a file, with its content. -/
def IsFirstFile (disk : Disk) (places : List Place) (file : Place)
    (content : ByteArray) : Prop :=
  ∃ passed rest, places = passed ++ file :: rest ∧
    Place.entry? disk file = some (.file content) ∧
    ∀ other ∈ passed, ¬ HoldsFile disk other

/-- The file at a place, with its content. -/
def fileAt? (disk : Disk) (place : Place) : Option (Place × ByteArray) :=
  match Place.entry? disk place with
  | some (.file content) => some (place, content)
  | _ => none

theorem fileAt?_eq_some_iff {place file : Place} {content : ByteArray} :
    fileAt? disk place = some (file, content) ↔
      place = file ∧ Place.entry? disk file = some (.file content) := by
  rw [fileAt?]
  split
  · next found isFound =>
      rw [Option.some.injEq, Prod.mk.injEq]
      constructor
      · rintro ⟨rfl, rfl⟩
        exact ⟨rfl, isFound⟩
      · rintro ⟨rfl, again⟩
        rw [isFound, Option.some.injEq, Entry.file.injEq] at again
        exact ⟨rfl, again⟩
  · next other =>
      simp only [reduceCtorEq, false_iff, not_and]
      rintro rfl isFile
      exact other content isFile

theorem fileAt?_eq_none_iff {place : Place} :
    fileAt? disk place = none ↔ ¬ HoldsFile disk place := by
  rw [Option.eq_none_iff_forall_ne_some, HoldsFile, not_exists]
  constructor
  · intro absent content isFile
    exact absent (place, content) (fileAt?_eq_some_iff.mpr ⟨rfl, isFile⟩)
  · rintro notFile ⟨file, content⟩ found
    obtain ⟨rfl, isFile⟩ := fileAt?_eq_some_iff.mp found
    exact notFile content isFile

/-- The search upwards goes through the candidates in their order. -/
theorem search_eq_findSome? (directory : Place) :
    search disk directory = (candidates directory).findSome? (fileAt? disk) := by
  induction directory with
  | nil =>
      rfl
  | cons name above inductionHypothesis =>
      have inside : fileIn? disk (name :: above) =
          (fileNames.map fun file => file :: name :: above).findSome?
            (fileAt? disk) :=
        rfl
      have shape : candidates (name :: above) =
          (fileNames.map fun file => file :: name :: above) ++
            candidates above :=
        rfl
      rw [search, shape, List.findSome?_append, ← inside, inductionHypothesis]
      cases fileIn? disk (name :: above) with
      | none =>
          rfl
      | some found =>
          rfl

theorem search_eq_some_iff {directory file : Place} {content : ByteArray} :
    search disk directory = some (file, content) ↔
      IsFirstFile disk (candidates directory) file content := by
  rw [search_eq_findSome?, List.findSome?_eq_some_iff]
  simp only [fileAt?_eq_some_iff, fileAt?_eq_none_iff, IsFirstFile]
  constructor
  · rintro ⟨passed, _, rest, shape, ⟨rfl, isFile⟩, unmet⟩
    exact ⟨passed, rest, shape, isFile, unmet⟩
  · rintro ⟨passed, rest, shape, isFile, unmet⟩
    exact ⟨passed, file, rest, shape, ⟨rfl, isFile⟩, unmet⟩

theorem search_eq_none_iff {directory : Place} :
    search disk directory = none ↔
      ∀ candidate ∈ candidates directory, ¬ HoldsFile disk candidate := by
  rw [search_eq_findSome?, List.findSome?_eq_none_iff]
  simp only [fileAt?_eq_none_iff]

/-! ## The rounds of the searches -/

theorem nearest_of_climbs {target last : Place} {rounds : Nat}
    (climbs : Climbs (fun place => (Place.entry? disk place).isSome = true)
      target rounds last) :
    nearest disk target = last := by
  induction climbs with
  | @met place there =>
      cases place with
      | nil =>
          rfl
      | cons name above =>
          rw [nearest, if_pos there]
  | top _ isTop =>
      obtain rfl := Place.tail_eq_self_iff.mp isTop
      rfl
  | @up place last rounds absent goesOn _ inductionHypothesis =>
      cases place with
      | nil =>
          exact absurd rfl goesOn
      | cons name above =>
          rw [nearest, if_neg absent]
          exact inductionHypothesis

theorem search_of_climbs {directory last : Place} {rounds : Nat}
    (climbs : Climbs (fun place => (fileIn? disk place).isSome = true)
      directory rounds last) :
    search disk directory = fileIn? disk last := by
  induction climbs with
  | @met place present =>
      obtain ⟨found, isFound⟩ := Option.isSome_iff_exists.mp present
      cases place with
      | nil =>
          rfl
      | cons name above =>
          rw [search, isFound]
  | top _ isTop =>
      obtain rfl := Place.tail_eq_self_iff.mp isTop
      rfl
  | @up place last rounds absent goesOn _ inductionHypothesis =>
      cases place with
      | nil =>
          exact absurd rfl goesOn
      | cons name above =>
          rw [Option.not_isSome_iff_eq_none] at absent
          rw [search, absent]
          exact inductionHypothesis

/-! ## Places that are asked about -/

theorem IsNearest.suffix {target found : Place}
    (isNearest : IsNearest disk target found) : found <:+ target := by
  obtain ⟨passed, rest, shape, _⟩ := isNearest
  rw [← List.mem_tails, shape]
  exact List.mem_append_right passed List.mem_cons_self

theorem StartsIn.suffix {target directory : Place}
    (starts : StartsIn disk target directory) : directory <:+ target := by
  cases starts with
  | itself isNearest _ =>
      exact isNearest.suffix
  | @parent found isNearest _ =>
      exact (List.tail_suffix found).trans isNearest.suffix

theorem isPlain_of_mem_candidates {directory candidate : Place}
    (plain : ∀ name ∈ directory, IsPlain name)
    (listed : candidate ∈ candidates directory) :
    ∀ name ∈ candidate, IsPlain name := by
  obtain ⟨above, isAbove, listed⟩ := List.mem_flatMap.mp listed
  obtain ⟨file, isFile, rfl⟩ := List.mem_map.mp listed
  have plainFile : ∀ name ∈ fileNames, IsPlain name := by
    intro name isName
    simp only [fileNames, List.mem_cons, List.not_mem_nil, or_false] at isName
    rcases isName with rfl | rfl
    · exact ⟨⟨by decide, by decide⟩, by decide, by decide⟩
    · exact ⟨⟨by decide, by decide⟩, by decide, by decide⟩
  intro name isListed
  rcases List.mem_cons.mp isListed with rfl | earlier
  · exact plainFile name isFile
  · exact plain name (((List.mem_tails _ _).mp isAbove).subset earlier)

/-! ## Settings without a named file -/

/-- Without a named file, the settings are those in the first candidate that is a
file, starting in the directory of the nearest place where there is anything, and
there are none exactly when no candidate is a file.  Both searches end after no
more rounds than there are names above their start, and what they ask about a
place is what its path leads to. -/
theorem load_takes_nearest_file
    {read : ValueReader} {disk : Disk} {target : String} {path : Option String}
    {place : Place}
    (unnamed : path = none ∨ path = some "")
    (isTarget : place = Place.ofPath disk.workDir target) :
    ∃ directory : Place,
      (∀ other, StartsIn disk place other ↔ other = directory) ∧
        (∀ file content,
          IsFirstFile disk (candidates directory) file content →
            load read disk target path =
              (ofContent read (file.path (Root.ofPath target)) content).map
                some) ∧
        (load read disk target path = .ok none ↔
          ∀ candidate ∈ candidates directory, ¬ HoldsFile disk candidate) ∧
        (∃ rounds ≤ place.length,
          Climbs (fun asked => (Place.entry? disk asked).isSome = true)
            place rounds (nearest disk place)) ∧
        (∃ rounds ≤ directory.length, ∃ last,
          Climbs (fun asked => (fileIn? disk asked).isSome = true)
            directory rounds last ∧
          search disk directory = fileIn? disk last) ∧
        ((∀ name ∈ disk.workDir, IsPlain name) →
          ∀ asked : Place, asked ∈ place.tails ∨ asked ∈ candidates directory →
            disk.find? (asked.path (Root.ofPath target)) =
              Place.entry? disk asked) := by
  have searched : load read disk target path = discovered read disk target :=
    load_of_unnamed unnamed
  refine ⟨searchStart disk place, fun _ => startsIn_iff, ?_, ?_, ?_, ?_, ?_⟩
  · intro file content isFirst
    rw [searched, discovered, ← isTarget, search_eq_some_iff.mpr isFirst]
  · rw [← search_eq_none_iff, searched, discovered, ← isTarget]
    cases search disk (searchStart disk place) with
    | none =>
        simp
    | some first =>
        simp [Outcome.map_eq_ok_iff]
  · obtain ⟨rounds, last, bound, climbs⟩ := Place.exists_climbs place
    refine ⟨rounds, bound, ?_⟩
    rw [nearest_of_climbs climbs]
    exact climbs
  · obtain ⟨rounds, last, bound, climbs⟩ :=
      Place.exists_climbs (searchStart disk place)
    exact ⟨rounds, bound, last, climbs, search_of_climbs climbs⟩
  · intro plainWorkDir asked isAsked
    have plain := Place.ofPath_isPlain plainWorkDir target
    rw [← isTarget] at plain
    refine Place.find?_path disk ?_ (Root.ofPath target)
    rcases isAsked with isAbove | isCandidate
    · intro name listed
      exact plain name (((List.mem_tails _ _).mp isAbove).subset listed)
    · refine isPlain_of_mem_candidates ?_ isCandidate
      intro name listed
      exact plain name ((startsIn_iff.mpr rfl).suffix.subset listed)

/-- A disk whose only settings file is at the top, and where a directory in
`shop` has the name of one. -/
def shelvedDisk : Disk where
  root :=
    .put "shop"
      (.directory
        (.put ".decimalguard.yml" (.directory .empty)
          (.put "fee.js" (.file .empty) .empty)))
      (.put ".decimalguard.yaml" (.file .empty) .empty)
  workDir := []

/-- A reader for which every file is without content. -/
def blankReader : ValueReader :=
  fun _ _ => .ok .null

/-- For a target that would lie below a file, the search starts in the directory
of that file, passes over the directory with the name of a settings file and
takes the file at the top.  Its path starts with as many slashes as that of the
target. -/
theorem load_takes_file_at_top :
    StartsIn shelvedDisk ["rate", "old", "fee.js", "shop"] ["shop"] ∧
      load blankReader shelvedDisk "//shop/fee.js/old/rate" none =
        .ok (some { standard with configPath := some "//.decimalguard.yaml" }) := by
  obtain ⟨directory, starts, first, _⟩ :=
    @load_takes_nearest_file blankReader shelvedDisk "//shop/fee.js/old/rate"
      none ["rate", "old", "fee.js", "shop"] (Or.inl rfl) rfl
  have nearestFile : IsNearest shelvedDisk ["rate", "old", "fee.js", "shop"]
      ["fee.js", "shop"] :=
    ⟨[["rate", "old", "fee.js", "shop"], ["old", "fee.js", "shop"]],
      [["shop"], []], rfl, rfl, by decide⟩
  have inShop := StartsIn.parent nearestFile ⟨.empty, rfl⟩
  obtain rfl := (starts ["shop"]).mp inShop
  have passedOver : ∀ other ∈
      [[".decimalguard.yml", "shop"], [".decimalguard.yaml", "shop"],
        [".decimalguard.yml"]],
      ¬ HoldsFile shelvedDisk other := by
    simp only [← holdsFile_iff]
    decide
  have shape : candidates ["shop"] =
      [[".decimalguard.yml", "shop"], [".decimalguard.yaml", "shop"],
        [".decimalguard.yml"]] ++ [".decimalguard.yaml"] :: [] :=
    rfl
  have isFile : Place.entry? shelvedDisk [".decimalguard.yaml"] =
      some (.file .empty) :=
    rfl
  have found := first _ _ ⟨_, _, shape, isFile, passedOver⟩
  have atTop : Place.path [".decimalguard.yaml"]
      (Root.ofPath "//shop/fee.js/old/rate") = "//.decimalguard.yaml" := by
    decide +kernel
  rw [atTop] at found
  exact ⟨inShop, found⟩

end CallAudit.Settings
