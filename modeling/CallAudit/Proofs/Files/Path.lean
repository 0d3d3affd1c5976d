import CallAudit.Files.Discover
import CallAudit.Files.Name
import Mathlib.Data.String.Basic

/-!
# Paths and their parts

A path is put together from names with slashes between them, and taken apart
again.  Appending the names of a chain to a directory one by one gives the same
path as appending the whole chain, and different chains give different paths.
-/

namespace CallAudit

/-! ## Taking texts apart -/

namespace Text

theorem splitChars_eq_splitOn (separator : Char) (text : List Char) :
    splitChars separator text = text.splitOn separator := by
  induction text with
  | nil =>
      rfl
  | cons c rest inductionHypothesis =>
      rw [splitChars] at inductionHypothesis
      rw [splitChars, List.foldr_cons, inductionHypothesis,
        List.splitOn_cons_eq_if_modifyHead]
      cases parts : rest.splitOn separator with
      | nil =>
          exact absurd parts (List.splitOn_ne_nil separator rest)
      | cons part others =>
          simp [splitStep]

theorem not_mem_of_mem_splitChars
    {separator : Char} {text : List Char} :
    ∀ part ∈ splitChars separator text, separator ∉ part := by
  induction text with
  | nil =>
      simp [splitChars]
  | cons c rest inductionHypothesis =>
      rw [splitChars] at inductionHypothesis
      rw [splitChars, List.foldr_cons]
      cases parts : rest.foldr (splitStep separator) [[]] with
      | nil =>
          rw [← splitChars, splitChars_eq_splitOn] at parts
          exact absurd parts (List.splitOn_ne_nil separator rest)
      | cons first others =>
          rw [parts] at inductionHypothesis
          simp only [List.forall_mem_cons] at inductionHypothesis
          rw [splitStep]
          split
          · simpa using inductionHypothesis
          · next different =>
              refine List.forall_mem_cons.mpr ⟨?_, inductionHypothesis.2⟩
              rw [List.mem_cons, not_or]
              exact ⟨fun same => different same.symm, inductionHypothesis.1⟩

theorem split_eq (separator : Char) (text : String) :
    split separator text =
      (text.toList.splitOn separator).map String.ofList := by
  rw [split, splitChars_eq_splitOn]

/-- Putting parts together and splitting them again changes nothing. -/
theorem split_joinWith_of_mark {separator : Char} {mark : String}
    (isMark : mark.toList = [separator]) {parts : List String}
    (some : parts ≠ []) (clean : ∀ part ∈ parts, separator ∉ part.toList) :
    split separator (joinWith mark parts) = parts := by
  have restored :
      ([separator].intercalate (parts.map String.toList)).splitOn separator =
        parts.map String.toList :=
    List.splitOn_intercalate separator (by simpa using clean)
      (by simpa using some)
  rw [split_eq, joinWith, String.toList_intercalate, isMark, restored,
    List.map_map]
  simp [Function.comp_def]

theorem split_joinWith {parts : List String}
    (some : parts ≠ []) (clean : ∀ part ∈ parts, '/' ∉ part.toList) :
    split '/' (joinWith "/" parts) = parts :=
  split_joinWith_of_mark rfl some clean

/-- Parts around a separator are split apart from each other. -/
theorem split_append_mark {separator : Char} {mark : String}
    (isMark : mark.toList = [separator]) (left right : String) :
    split separator (left ++ mark ++ right) =
      split separator left ++ split separator right := by
  have marked : (left ++ mark ++ right).toList =
      left.toList ++ separator :: right.toList := by
    simp [isMark]
  rw [split_eq, split_eq, split_eq, marked, List.splitOn_append_cons_self,
    List.map_append]

theorem split_append_slash (left right : String) :
    split '/' (left ++ "/" ++ right) = split '/' left ++ split '/' right :=
  split_append_mark rfl left right

/-- Texts that were put together are split as each of them is. -/
theorem split_joinWith_eq_flatMap {separator : Char} {mark : String}
    (isMark : mark.toList = [separator]) :
    ∀ {texts : List String}, texts ≠ [] →
      split separator (joinWith mark texts) = texts.flatMap (split separator)
  | [], filled => absurd rfl filled
  | [text], _ => by
      rw [joinWith, String.intercalate_singleton, List.flatMap_singleton]
  | text :: next :: rest, _ => by
      have later := split_joinWith_eq_flatMap isMark
        (List.cons_ne_nil next rest)
      rw [joinWith] at later
      rw [List.flatMap_cons, ← later, joinWith, String.intercalate_cons_cons,
        split_append_mark isMark]

theorem split_slash_append (text : String) :
    split '/' ("/" ++ text) = "" :: split '/' text := by
  have slash : ("/" ++ text).toList = [] ++ '/' :: text.toList := by
    simp
  rw [split_eq, split_eq, slash, List.splitOn_append_cons_self]
  rfl

end Text

namespace Files

/-- A text that can be the name of an entry: it is filled and holds no
slash. -/
def IsName (name : String) : Prop :=
  name ≠ "" ∧ '/' ∉ name.toList

theorem clean_of_mem_components {path part : String}
    (listed : part ∈ components path) : IsName part := by
  obtain ⟨isPart, leads⟩ := List.mem_filter.mp listed
  obtain ⟨chars, isChars, rfl⟩ := List.mem_map.mp isPart
  refine ⟨?_, ?_⟩
  · intro empty
    simp [empty] at leads
  · rw [String.toList_ofList]
    exact Text.not_mem_of_mem_splitChars chars isChars

/-! ## Appending names -/

/-- A path that is followed by a slash before a name is appended. -/
def TakesSlash (directory : String) : Prop :=
  directory ≠ "" ∧ directory.toList.getLast? ≠ some '/'

theorem joinPath_of_takesSlash {directory : String}
    (takes : TakesSlash directory) (name : String) :
    joinPath directory name = directory ++ "/" ++ name := by
  rw [joinPath, if_neg]
  simpa [TakesSlash] using takes

/-- Names are appended to something that does not depend on them. -/
theorem exists_joinPath_eq (directory : String) :
    ∃ front, ∀ name, joinPath directory name = front ++ name := by
  by_cases takes : TakesSlash directory
  · exact ⟨directory ++ "/", joinPath_of_takesSlash takes⟩
  · refine ⟨directory, fun name => ?_⟩
    rw [joinPath, if_pos]
    rw [TakesSlash, Decidable.not_and_iff_or_not] at takes
    simpa using takes

theorem joinPath_injective (directory : String) :
    Function.Injective (joinPath directory) := by
  intro left right same
  obtain ⟨front, isFront⟩ := exists_joinPath_eq directory
  rw [isFront, isFront, String.append_right_inj] at same
  exact same

theorem takesSlash_append {text : String} (front : String)
    (takes : TakesSlash text) : TakesSlash (front ++ text) := by
  obtain ⟨filled, unslashed⟩ := takes
  refine ⟨?_, ?_⟩
  · simp [filled]
  · rw [String.toList_append, List.getLast?_append_of_ne_nil]
    · exact unslashed
    · simpa using filled

theorem takesSlash_of_isName {name : String} (isName : IsName name) :
    TakesSlash name := by
  refine ⟨isName.1, ?_⟩
  intro slashed
  exact isName.2 (List.mem_of_getLast? slashed)

/-- Appending to an appended path is appending the appended rest. -/
theorem joinPath_joinPath {inner : String} (takes : TakesSlash inner)
    (directory name : String) :
    joinPath (joinPath directory inner) name =
      joinPath directory (joinPath inner name) := by
  obtain ⟨front, isFront⟩ := exists_joinPath_eq directory
  rw [isFront, isFront, joinPath_of_takesSlash (takesSlash_append front takes),
    joinPath_of_takesSlash takes]
  simp only [String.append_assoc]

/-! ## Chains of names -/

section Chains

variable {names : List String} (areNames : ∀ name ∈ names, IsName name)

include areNames

theorem takesSlash_joinWith (filled : names ≠ []) :
    TakesSlash (Text.joinWith "/" names) := by
  obtain ⟨front, last, rfl⟩ :=
    (List.eq_nil_or_concat' names).resolve_left filled
  have ends := takesSlash_of_isName
    (areNames last (List.mem_append_right front List.mem_cons_self))
  by_cases alone : front = []
  · subst alone
    rw [Text.joinWith, List.nil_append, String.intercalate_singleton]
    exact ends
  · rw [Text.joinWith, String.intercalate_append_of_ne_nil alone
      (List.cons_ne_nil last []), String.intercalate_singleton]
    exact takesSlash_append _ ends

/-- A name goes to the end of a chain. -/
theorem joinPath_joinWith (name : String) :
    joinPath (Text.joinWith "/" names) name =
      Text.joinWith "/" (names ++ [name]) := by
  by_cases none : names = []
  · subst none
    rfl
  · rw [joinPath_of_takesSlash (takesSlash_joinWith areNames none)]
    exact (String.intercalate_append_of_ne_nil none
      (List.cons_ne_nil name [])).symm

theorem joinPath_joinPath_joinWith (filled : names ≠ [])
    (directory name : String) :
    joinPath (joinPath directory (Text.joinWith "/" names)) name =
      joinPath directory (Text.joinWith "/" (names ++ [name])) := by
  rw [joinPath_joinPath (takesSlash_joinWith areNames filled),
    joinPath_joinWith areNames]

end Chains

/-- Different chains of names give different paths. -/
theorem eq_of_joinPath_joinWith_eq {left right : List String}
    (areLeft : ∀ name ∈ left, IsName name)
    (areRight : ∀ name ∈ right, IsName name)
    (filledLeft : left ≠ []) (filledRight : right ≠ []) {directory : String}
    (same : joinPath directory (Text.joinWith "/" left) =
      joinPath directory (Text.joinWith "/" right)) :
    left = right := by
  have joined := joinPath_injective directory same
  have parts := congrArg (Text.split '/') joined
  rw [Text.split_joinWith filledLeft fun name listed => (areLeft name listed).2,
    Text.split_joinWith filledRight fun name listed =>
      (areRight name listed).2] at parts
  exact parts

end Files

namespace Settings

/-- Slashes of either direction divide a path. -/
theorem pathParts_append_slash (left right : String) :
    pathParts (left ++ "/" ++ right) = pathParts left ++ pathParts right := by
  have mapped :
      (left ++ "/" ++ right).map (fun c => if c = '\\' then '/' else c) =
        left.map (fun c => if c = '\\' then '/' else c) ++ "/" ++
          right.map fun c => if c = '\\' then '/' else c := by
    rw [← String.toList_inj]
    simp
  rw [pathParts, mapped, Text.split_append_slash, pathParts, pathParts]

/-- The components of a chain of names are those of each of them. -/
theorem pathParts_joinWith :
    ∀ {names : List String}, names ≠ [] →
      pathParts (Text.joinWith "/" names) = names.flatMap pathParts
  | [], filled => absurd rfl filled
  | [name], _ => by
      rw [Text.joinWith, String.intercalate_singleton, List.flatMap_singleton]
  | name :: next :: rest, _ => by
      have later := pathParts_joinWith (List.cons_ne_nil next rest)
      rw [Text.joinWith] at later
      rw [List.flatMap_cons, ← later, Text.joinWith,
        String.intercalate_cons_cons, pathParts_append_slash]

theorem pathParts_of_clean {name : String} (slashless : '/' ∉ name.toList)
    (backslashless : '\\' ∉ name.toList) : pathParts name = [name] := by
  have unchanged :
      name.map (fun c => if c = '\\' then '/' else c) = name := by
    rw [← String.toList_inj, String.toList_map]
    refine (List.map_congr_left ?_).trans (List.map_id' name.toList)
    intro c listed
    rw [if_neg]
    rintro rfl
    exact backslashless listed
  have whole := Text.split_joinWith (List.cons_ne_nil name [])
    (by simpa using slashless)
  rw [Text.joinWith, String.intercalate_singleton] at whole
  rw [pathParts, unchanged, whole]

theorem pathParts_joinWith_of_clean {names : List String} (filled : names ≠ [])
    (clean : ∀ name ∈ names, '/' ∉ name.toList ∧ '\\' ∉ name.toList) :
    pathParts (Text.joinWith "/" names) = names := by
  have each : ∀ name ∈ names, pathParts name = [name] := fun name listed =>
    pathParts_of_clean (clean name listed).1 (clean name listed).2
  rw [pathParts_joinWith filled, List.flatMap_congr each]
  simp

/-- A path with a component that is never entered is left out. -/
theorem excludes_of_mem_skipped (settings : Settings) {names : List String}
    {name : String} (listed : name ∈ names)
    (skipped : name ∈ skippedDirectories) :
    settings.excludes (Text.joinWith "/" names) = true := by
  have clean : ∀ name ∈ skippedDirectories,
      '/' ∉ name.toList ∧ '\\' ∉ name.toList := by
    decide
  have itself := pathParts_of_clean (clean name skipped).1
    (clean name skipped).2
  have inside : name ∈ pathParts (Text.joinWith "/" names) := by
    rw [pathParts_joinWith (List.ne_nil_of_mem listed)]
    exact List.mem_flatMap.mpr ⟨name, listed, by simp [itself]⟩
  rw [excludes, Bool.or_eq_true]
  exact Or.inl (List.any_eq_true.mpr
    ⟨name, inside, List.contains_iff_mem.mpr skipped⟩)

/-- Without patterns, only components that are never entered leave out a
path. -/
theorem excludes_eq_false_of_clean {settings : Settings}
    (noPattern : settings.excludeGlobs = []) {names : List String}
    (filled : names ≠ [])
    (clean : ∀ name ∈ names, '/' ∉ name.toList ∧ '\\' ∉ name.toList)
    (entered : ∀ name ∈ names, name ∉ skippedDirectories) :
    settings.excludes (Text.joinWith "/" names) = false := by
  rw [excludes, pathParts_joinWith_of_clean filled clean, noPattern,
    List.any_nil, Bool.or_false, List.any_eq_false]
  intro name listed
  rw [List.contains_iff_mem]
  exact entered name listed

end Settings

end CallAudit
