import CallAudit.Files.Place
import CallAudit.Proofs.Scan.Target

/-!
# Going up from a place

Two facts about places that a search upwards rests on.

* `Place.Climbs` is such a search, round by round: it ends where a test is met,
  and otherwise goes on to the parent until a place is its own parent.  From
  every place it comes to an end, after no more rounds than the place has names
  (`Place.exists_climbs`).
* The names of a place that a path leads to are plain, and what is at a place of
  plain names is what its path leads to (`Place.find?_path`).
-/

namespace CallAudit

namespace Place

/-! ## Rounds of a search -/

/-- A search upwards from a place for one that meets a test comes to its last
place after a number of rounds. -/
inductive Climbs (meets : Place → Prop) : Place → Nat → Place → Prop
  | met {place : Place} :
      meets place →
      Climbs meets place 0 place
  /-- Only the root is its own parent. -/
  | top {place : Place} :
      ¬ meets place →
      place.tail = place →
      Climbs meets place 0 place
  | up {place last : Place} {rounds : Nat} :
      ¬ meets place →
      place.tail ≠ place →
      Climbs meets place.tail rounds last →
      Climbs meets place (rounds + 1) last

theorem tail_eq_self_iff {place : Place} : place.tail = place ↔ place = [] := by
  cases place with
  | nil =>
      simp
  | cons name above =>
      simp only [List.tail_cons, reduceCtorEq, iff_false]
      exact (List.cons_ne_self name above).symm

variable {meets : Place → Prop}

theorem exists_climbs (place : Place) :
    ∃ rounds last, rounds ≤ place.length ∧ Climbs meets place rounds last := by
  induction place with
  | nil =>
      by_cases met : meets []
      · exact ⟨0, [], Nat.le_refl 0, .met met⟩
      · exact ⟨0, [], Nat.le_refl 0, .top met rfl⟩
  | cons name above inductionHypothesis =>
      by_cases met : meets (name :: above)
      · exact ⟨0, name :: above, Nat.zero_le _, .met met⟩
      · obtain ⟨rounds, last, bound, climbs⟩ := inductionHypothesis
        have goesOn : (name :: above).tail ≠ name :: above := by
          rw [Ne, tail_eq_self_iff]
          exact List.cons_ne_nil name above
        refine ⟨rounds + 1, last, ?_, .up met goesOn climbs⟩
        rw [List.length_cons]
        omega

/-! ## Plain names -/

/-- A name that stands for an entry, and not for a step in place or upwards. -/
structure IsPlain (name : String) : Prop where
  isName : Files.IsName name
  notHere : name ≠ "."
  notUp : name ≠ ".."

theorem step_isPlain {place : Place} {part : String}
    (slashless : '/' ∉ part.toList)
    (plain : ∀ name ∈ place, IsPlain name) :
    ∀ name ∈ place.step part, IsPlain name := by
  intro name listed
  rw [step] at listed
  split at listed
  · exact plain name listed
  next filled =>
  split at listed
  · exact plain name (List.mem_of_mem_tail listed)
  next notUp =>
  rcases List.mem_cons.mp listed with rfl | earlier
  · simp only [Bool.or_eq_true, decide_eq_true_eq, not_or] at filled
    exact ⟨⟨filled.1, slashless⟩, filled.2, notUp⟩
  · exact plain name earlier

theorem foldl_step_isPlain {parts : List String}
    (slashless : ∀ part ∈ parts, '/' ∉ part.toList) :
    ∀ {place : Place}, (∀ name ∈ place, IsPlain name) →
      ∀ name ∈ parts.foldl step place, IsPlain name := by
  induction parts with
  | nil =>
      intro place plain
      exact plain
  | cons part rest inductionHypothesis =>
      intro place plain
      obtain ⟨first, later⟩ := List.forall_mem_cons.mp slashless
      rw [List.foldl_cons]
      exact inductionHypothesis later (step_isPlain first plain)

/-- A path leads to a place of plain names from a working directory of plain
names. -/
theorem ofPath_isPlain {workDir : List String}
    (plain : ∀ name ∈ workDir, IsPlain name) (path : String) :
    ∀ name ∈ ofPath workDir path, IsPlain name := by
  have slashless : ∀ part ∈ Text.split '/' path, '/' ∉ part.toList := by
    intro part listed
    obtain ⟨chars, isChars, rfl⟩ := List.mem_map.mp listed
    rw [String.toList_ofList]
    exact Text.not_mem_of_mem_splitChars chars isChars
  rw [ofPath]
  apply foldl_step_isPlain slashless
  intro name listed
  split at listed
  · exact absurd listed List.not_mem_nil
  · exact plain name (List.mem_reverse.mp listed)

/-! ## Places and their paths -/

/-- Following plain names is descending through the folders they stand for. -/
theorem follow_plain {names : List String}
    (plain : ∀ name ∈ names, IsPlain name) :
    ∀ spot : Spot, (spot.follow names).toOption.map Spot.entry =
      spot.entry.descend? names := by
  induction names with
  | nil =>
      intro spot
      rw [Entry.descend?]
      rfl
  | cons name rest inductionHypothesis =>
      intro spot
      obtain ⟨first, later⟩ := List.forall_mem_cons.mp plain
      rw [Spot.follow_cons, Spot.step]
      cases spot.entry with
      | file content =>
          simp [Entry.descend?, Except.bind, Except.toOption]
      | broken =>
          simp [Entry.descend?, Except.bind, Except.toOption]
      | directory folder =>
          rw [Entry.descend?]
          cases found : folder.get? name with
          | none =>
              simp [first.isName.1, first.notHere, first.notUp, found,
                Except.bind, Except.toOption]
          | some entry =>
              simpa [first.isName.1, first.notHere, first.notUp, found,
                Except.bind] using inductionHypothesis later
                  ⟨entry, spot.names ++ [name], folder :: spot.above⟩

theorem head?_mark_append (root : Root) (text : String) :
    (root.mark ++ text).toList.head? = some '/' := by
  cases root <;> simp [Root.mark]

/-- The steps of an absolute path stay at the top until the first name. -/
theorem follow_top_mark_append (disk : Disk) (root : Root) (text : String) :
    disk.top.follow (Text.split '/' (root.mark ++ text)) =
      disk.top.follow (Text.split '/' text) := by
  have atTop : disk.top.entry.isDirectory = true := rfl
  cases root with
  | single =>
      rw [Root.mark, Text.split_slash_append,
        Spot.follow_cons_of_blank atTop (Or.inl rfl)]
  | double =>
      have slashes : Root.double.mark ++ text = "/" ++ ("/" ++ text) := by
        rw [← String.append_assoc]
        rfl
      rw [slashes, Text.split_slash_append, Text.split_slash_append,
        Spot.follow_cons_of_blank atTop (Or.inl rfl),
        Spot.follow_cons_of_blank atTop (Or.inl rfl)]

theorem spot_path {disk : Disk} {place : Place}
    (plain : ∀ name ∈ place, IsPlain name) (root : Root) :
    disk.spot (place.path root) = disk.top.follow place.reverse := by
  have slash := head?_mark_append root (Text.joinWith "/" place.reverse)
  rw [← path] at slash
  have filled : place.path root ≠ "" := by
    intro empty
    simp [empty] at slash
  have begun : disk.start (place.path root) = .ok disk.top := by
    rw [Disk.start, if_pos slash]
  rw [Disk.spot_eq_follow filled begun, path, follow_top_mark_append,
    Spot.follow_split_joinWith rfl]
  intro name listed
  exact (plain name (List.mem_reverse.mp listed)).isName.2

/-- What is at a place of plain names is what its path leads to, from either
root. -/
theorem find?_path (disk : Disk) {place : Place}
    (plain : ∀ name ∈ place, IsPlain name) (root : Root) :
    disk.find? (place.path root) = entry? disk place := by
  have plainReversed : ∀ name ∈ place.reverse, IsPlain name := by
    intro name listed
    exact plain name (List.mem_reverse.mp listed)
  have reached := follow_plain plainReversed disk.top
  have top : disk.top.entry = .directory disk.root := rfl
  rw [top] at reached
  rw [Disk.find?, spot_path plain root, entry?, ← reached]
  cases disk.top.follow place.reverse with
  | error fault =>
      rfl
  | ok spot =>
      simp [Except.toOption, Option.filter]

end Place

end CallAudit
