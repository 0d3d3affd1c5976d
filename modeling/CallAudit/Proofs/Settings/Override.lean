import CallAudit.Cli.Request
import CallAudit.Proofs.Text.Position
import Mathlib.Data.List.Sort

/-!
# Names on the command line

An option for names can be given several times, and each of its values can hold
several names with commas between them.  How the names are spread over the
values makes no difference, and neither do empty parts, white space around a
name and names that come up again.

A set of names is an ordered list, so sets with the same names are equal
(`Names.ofList_eq_iff`).
-/

namespace CallAudit

/-! ## Sets of names -/

namespace Names

theorem mem_insert {name other : String} {names : Names} :
    other ∈ insert name names ↔ other = name ∨ other ∈ names := by
  fun_induction insert name names with
  | case1 =>
      simp
  | case2 head rest before =>
      rw [List.mem_cons]
  | case3 rest before =>
      rw [List.mem_cons, or_self_left]
  | case4 head rest before different inductionHypothesis =>
      rw [List.mem_cons, inductionHypothesis, List.mem_cons, or_left_comm]

theorem pairwise_insert {names : Names} (ordered : names.Pairwise (· < ·))
    (name : String) : (insert name names).Pairwise (· < ·) := by
  fun_induction insert name names with
  | case1 =>
      exact List.pairwise_singleton _ name
  | case2 head rest before =>
      have later := (List.pairwise_cons.mp ordered).1
      refine List.pairwise_cons.mpr ⟨?_, ordered⟩
      rw [List.forall_mem_cons]
      exact ⟨before, fun other listed => before.trans (later other listed)⟩
  | case3 rest before =>
      exact ordered
  | case4 head rest before different inductionHypothesis =>
      obtain ⟨later, restOrdered⟩ := List.pairwise_cons.mp ordered
      refine List.pairwise_cons.mpr ⟨?_, inductionHypothesis restOrdered⟩
      -- Behind the head come the new name, which is greater, and the old ones.
      intro other listed
      rcases mem_insert.mp listed with rfl | listed
      · exact lt_of_le_of_ne (not_lt.mp before) (Ne.symm different)
      · exact later other listed

theorem mem_foldl_insert {name : String} (listed start : List String) :
    name ∈ listed.foldl (fun set other => insert other set) start ↔
      name ∈ listed ∨ name ∈ start := by
  induction listed generalizing start with
  | nil =>
      simp
  | cons head rest inductionHypothesis =>
      rw [List.foldl_cons, inductionHypothesis, mem_insert, List.mem_cons,
        or_left_comm, or_assoc]

theorem pairwise_foldl_insert (listed : List String) {start : Names}
    (ordered : start.Pairwise (· < ·)) :
    (listed.foldl (fun set other => insert other set) start).Pairwise
      (· < ·) := by
  induction listed generalizing start with
  | nil =>
      exact ordered
  | cons head rest inductionHypothesis =>
      exact inductionHypothesis (pairwise_insert ordered head)

theorem mem_ofList {name : String} {listed : List String} :
    name ∈ ofList listed ↔ name ∈ listed := by
  rw [ofList, mem_foldl_insert, or_iff_left List.not_mem_nil]

theorem pairwise_ofList (listed : List String) :
    (ofList listed).Pairwise (· < ·) :=
  pairwise_foldl_insert listed List.Pairwise.nil

/-- The set of the names in a list is the only ordered list with these
names. -/
theorem ofList_eq_iff {listed : List String} {names : Names}
    (ordered : names.Pairwise (· < ·)) :
    ofList listed = names ↔ ∀ name, name ∈ listed ↔ name ∈ names := by
  constructor
  · rintro rfl name
    exact mem_ofList.symm
  · intro same
    apply (pairwise_ofList listed).eq_of_mem_iff ordered
    intro name
    rw [mem_ofList, same]

end Names

namespace Overrides

/-! ## Names in a value -/

/-- A name that can stand among others with commas between them: it is filled, it
has no comma, and it neither begins nor ends with white space. -/
structure IsBare (name : String) : Prop where
  filled : name ≠ ""
  commaless : ',' ∉ name.toList
  opens : ∀ c, name.toList.head? = some c → Text.isBlank c = false
  closes : ∀ c, name.toList.getLast? = some c → Text.isBlank c = false

/-- A value holds a name when that is what is left of a part of it between
commas without the white space around it. -/
def Holds (value name : String) : Prop :=
  name ≠ "" ∧ ∃ part ∈ value.toList.splitOn ',',
    Text.IsStripped (String.ofList part) name

theorem mem_namesIn_iff {value name : String} :
    name ∈ namesIn value ↔ Holds value name := by
  rw [namesIn, Text.split_eq, List.map_map, List.mem_filter, List.mem_map,
    bne_iff_ne, and_comm, Holds]
  simp only [Function.comp_apply, Text.trim_eq_iff]

theorem IsBare.isStripped {name : String} (bare : IsBare name) :
    Text.IsStripped name name :=
  ⟨⟨[], [], by simp, by simp, by simp⟩, bare.opens, bare.closes⟩

theorem Holds.isBare {value name : String} (holds : Holds value name) :
    IsBare name := by
  obtain ⟨filled, part, listed, stripped⟩ := holds
  refine ⟨filled, ?_, stripped.opens, stripped.closes⟩
  intro inside
  obtain ⟨before, after, shape, _, _⟩ := stripped.inside
  rw [String.toList_ofList] at shape
  rw [← Text.splitChars_eq_splitOn] at listed
  apply Text.not_mem_of_mem_splitChars part listed
  rw [shape]
  simp [inside]

theorem namesIn_joinWith {values : List String} (given : values ≠ []) :
    namesIn (Text.joinWith "," values) = values.flatMap namesIn := by
  rw [namesIn, Text.split_joinWith_eq_flatMap rfl given, List.map_flatMap,
    List.filter_flatMap]
  rfl

/-- Names that were put together are told apart again. -/
theorem namesIn_joinWith_of_bare {names : List String} (filled : names ≠ [])
    (bare : ∀ name ∈ names, IsBare name) :
    namesIn (Text.joinWith "," names) = names := by
  have parts : Text.split ',' (Text.joinWith "," names) = names :=
    Text.split_joinWith_of_mark rfl filled fun name listed =>
      (bare name listed).commaless
  have trimmed : names.map Text.trim = names := by
    refine (List.map_congr_left ?_).trans (List.map_id' names)
    intro name listed
    exact Text.trim_eq_iff.mpr (bare name listed).isStripped
  rw [namesIn, parts, trimmed, List.filter_eq_self]
  intro name listed
  exact bne_iff_ne.mpr (bare name listed).filled

/-! ## Names of an option -/

theorem names?_of_given {values : List String} (given : values ≠ []) :
    names? values = some (.ofList (values.flatMap namesIn)) := by
  rw [names?, if_neg]
  rwa [List.isEmpty_iff]

theorem names?_singleton (value : String) :
    names? [value] = some (.ofList (namesIn value)) := by
  rw [names?_of_given (List.cons_ne_nil value []), List.flatMap_singleton]

theorem names?_joinWith {values : List String} (given : values ≠ []) :
    names? [Text.joinWith "," values] = names? values := by
  rw [names?_singleton, namesIn_joinWith given, names?_of_given given]

/-- Names in any order, also repeated, with commas between them give the set of
these names. -/
theorem names?_joinWith_of_bare {names : Names} {order : List String}
    (ordered : names.Pairwise (· < ·)) (bare : ∀ name ∈ names, IsBare name)
    (filled : names ≠ []) (same : ∀ name, name ∈ order ↔ name ∈ names) :
    names? [Text.joinWith "," order] = some names := by
  have orderFilled : order ≠ [] := by
    rintro rfl
    exact filled (List.eq_nil_iff_forall_not_mem.mpr fun name listed =>
      List.not_mem_nil ((same name).mpr listed))
  have orderBare : ∀ name ∈ order, IsBare name := fun name listed =>
    bare name ((same name).mp listed)
  rw [names?_singleton, namesIn_joinWith_of_bare orderFilled orderBare,
    (Names.ofList_eq_iff ordered).mpr same]

/-- The values of an option give the same set of names as one value with all of
them.  The set has the names that the values hold, all of them bare, and it is
given again by its names with commas between them, in whatever order.  So it
makes no difference to the settings in which of these ways the option was
given. -/
theorem names_same_however_spread
    {values : List String} (given : values ≠ []) :
    (∃ names,
      names? values = some names ∧
        names? [Text.joinWith "," values] = some names ∧
        names.Pairwise (· < ·) ∧
        (∀ name, name ∈ names ↔ ∃ value ∈ values, Holds value name) ∧
        (∀ name ∈ names, IsBare name) ∧
        (names ≠ [] → ∀ order : List String,
          (∀ name, name ∈ order ↔ name ∈ names) →
            names? [Text.joinWith "," order] = some names)) ∧
      ∀ (overrides : Overrides) (settings : Settings),
        { overrides with watch := [Text.joinWith "," values] }.apply settings =
            { overrides with watch := values }.apply settings ∧
          { overrides with safe := [Text.joinWith "," values] }.apply
              settings =
            { overrides with safe := values }.apply settings := by
  have joined := names?_joinWith given
  have isSet := names?_of_given given
  have ordered := Names.pairwise_ofList (values.flatMap namesIn)
  have members : ∀ name, name ∈ Names.ofList (values.flatMap namesIn) ↔
      ∃ value ∈ values, Holds value name := by
    intro name
    rw [Names.mem_ofList, List.mem_flatMap]
    simp only [mem_namesIn_iff]
  have bare : ∀ name ∈ Names.ofList (values.flatMap namesIn),
      IsBare name := by
    intro name listed
    obtain ⟨value, _, holds⟩ := (members name).mp listed
    exact holds.isBare
  constructor
  · refine ⟨_, isSet, joined.trans isSet, ordered, members, bare, ?_⟩
    intro filled order same
    exact names?_joinWith_of_bare ordered bare filled same
  · intro overrides settings
    constructor
    · simp only [apply, layer, joined]
    · simp only [apply, layer, joined]

/-- Two command lines that watch the same two names: in two values, and in one
value with an empty part and a name that comes up again. -/
theorem names_same_of_fee_and_rate :
    names? ["fee", " rate,,\tfee"] = some ["fee", "rate"] ∧
      names? ["fee, rate,,\tfee"] = some ["fee", "rate"] ∧
      names? ["rate,fee"] = some ["fee", "rate"] ∧
      ∃ spread joined : Cli.Options,
        Cli.Request.ofArguments
            ["--watch", "fee", "--watch", " rate,,\tfee"] =
          .ok (.audit spread) ∧
        Cli.Request.ofArguments ["--watch", "fee, rate,,\tfee"] =
          .ok (.audit joined) ∧
        joined.overrides.apply .standard =
          spread.overrides.apply .standard := by
  have given : ["fee", " rate,,\tfee"] ≠ [] := List.cons_ne_nil _ _
  obtain ⟨⟨names, isSet, joined, _, _, _, again⟩, alike⟩ :=
    names_same_however_spread given
  have both : names? ["fee", " rate,,\tfee"] = some ["fee", "rate"] := by
    decide +kernel
  obtain rfl := Option.some.inj (isSet.symm.trans both)
  have turned := again (by decide) ["rate", "fee"] (by
    intro name
    simp [or_comm])
  exact ⟨isSet, joined, turned, _, _, rfl, rfl, (alike {} .standard).1⟩

end Overrides

end CallAudit
