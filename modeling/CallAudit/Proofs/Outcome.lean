import Mathlib.Data.List.Forall2

/-!
# Computations that may fail

When a computation made of smaller ones has a result, and what it then is.
-/

namespace CallAudit

namespace Outcome

variable {ε δ α β : Type} {computation : Except ε α}

theorem map_eq_ok_iff {f : α → β} {result : β} :
    computation.map f = .ok result ↔
      ∃ value, computation = .ok value ∧ f value = result := by
  cases computation <;> simp [Except.map]

theorem map_eq_error_iff {f : α → β} {fault : ε} :
    computation.map f = .error fault ↔ computation = .error fault := by
  cases computation <;> simp [Except.map]

theorem mapError_ok (f : ε → δ) (result : α) :
    (Except.ok result : Except ε α).mapError f = .ok result :=
  rfl

theorem mapError_error (f : ε → δ) (fault : ε) :
    (Except.error fault : Except ε α).mapError f = .error (f fault) :=
  rfl

theorem mapError_eq_ok_iff {f : ε → δ} {result : α} :
    computation.mapError f = .ok result ↔ computation = .ok result := by
  cases computation with
  | error fault =>
      simp [mapError_error]
  | ok value =>
      rw [mapError_ok, Except.ok.injEq, Except.ok.injEq]

theorem bind_eq_ok_iff {f : α → Except ε β} {result : β} :
    computation.bind f = .ok result ↔
      ∃ value, computation = .ok value ∧ f value = .ok result := by
  cases computation <;> simp [Except.bind]

theorem mapM_eq_ok {f : α → Except ε β} {g : α → β} {items : List α}
    (each : ∀ item ∈ items, f item = .ok (g item)) :
    items.mapM f = .ok (items.map g) := by
  induction items with
  | nil =>
      rfl
  | cons item rest inductionHypothesis =>
      have others := inductionHypothesis fun other listed =>
        each other (List.mem_cons_of_mem item listed)
      rw [List.mapM_cons, each item List.mem_cons_self, others]
      rfl

theorem forall₂_of_mapM {f : α → Except ε β} {relates : α → β → Prop}
    (each : ∀ item result, f item = .ok result → relates item result) :
    ∀ {items : List α} {results : List β}, items.mapM f = .ok results →
      List.Forall₂ relates items results
  | [], results, went => by
      cases went
      exact .nil
  | item :: rest, results, went => by
      rw [List.mapM_cons] at went
      obtain ⟨first, isFirst, went⟩ := bind_eq_ok_iff.mp went
      obtain ⟨others, areOthers, went⟩ := bind_eq_ok_iff.mp went
      cases went
      exact .cons (each item first isFirst) (forall₂_of_mapM each areOthers)

/-- The result of a computation, or a stand-in when it has none. -/
def result [Inhabited α] : Except ε α → α
  | .ok value => value
  | .error _ => default

end Outcome

/-- A computation that does not fail. -/
def Succeeds {ε α : Type} (computation : Except ε α) : Prop :=
  ∃ result, computation = .ok result

namespace Succeeds

variable {ε δ α β : Type} {computation : Except ε α}

theorem map (succeeds : Succeeds computation) (f : α → β) :
    Succeeds (computation.map f) := by
  obtain ⟨result, rfl⟩ := succeeds
  exact ⟨f result, rfl⟩

theorem mapError (succeeds : Succeeds computation) (f : ε → δ) :
    Succeeds (computation.mapError f) := by
  obtain ⟨result, rfl⟩ := succeeds
  exact ⟨result, rfl⟩

/-- Going through a list does not fail when no item makes it fail. -/
theorem mapM {f : α → Except ε β} :
    ∀ items : List α, (∀ item ∈ items, Succeeds (f item)) →
      Succeeds (items.mapM f)
  | [], _ => ⟨[], rfl⟩
  | item :: rest, each => by
      obtain ⟨result, first⟩ := each item List.mem_cons_self
      obtain ⟨results, others⟩ := mapM rest fun other listed =>
        each other (List.mem_cons_of_mem item listed)
      refine ⟨result :: results, ?_⟩
      rw [List.mapM_cons, first, others]
      rfl

theorem eq_ok [Inhabited α] (succeeds : Succeeds computation) :
    computation = .ok (Outcome.result computation) := by
  obtain ⟨result, rfl⟩ := succeeds
  rfl

/-- Going through a list fails when some item makes it fail. -/
theorem of_mapM {f : α → Except ε β} :
    ∀ {items : List α}, Succeeds (items.mapM f) →
      ∀ item ∈ items, Succeeds (f item)
  | [], _, item, listed => absurd listed List.not_mem_nil
  | head :: rest, succeeds, item, listed => by
      obtain ⟨results, went⟩ := succeeds
      rw [List.mapM_cons] at went
      obtain ⟨first, isFirst, went⟩ := Outcome.bind_eq_ok_iff.mp went
      obtain ⟨others, areOthers, _⟩ := Outcome.bind_eq_ok_iff.mp went
      rcases List.mem_cons.mp listed with rfl | later
      · exact ⟨first, isFirst⟩
      · exact of_mapM ⟨others, areOthers⟩ item later

theorem of_map {f : α → β} (succeeds : Succeeds (computation.map f)) :
    Succeeds computation := by
  obtain ⟨_, went⟩ := succeeds
  obtain ⟨result, isResult, _⟩ := Outcome.map_eq_ok_iff.mp went
  exact ⟨result, isResult⟩

theorem of_bind {f : α → Except ε β} (succeeds : Succeeds (computation.bind f)) :
    Succeeds computation := by
  obtain ⟨result, went⟩ := succeeds
  obtain ⟨value, isValue, _⟩ := Outcome.bind_eq_ok_iff.mp went
  exact ⟨value, isValue⟩

theorem rest_of_bind {f : α → Except ε β} {value : α}
    (succeeds : Succeeds (computation.bind f))
    (first : computation = .ok value) : Succeeds (f value) := by
  rw [first] at succeeds
  exact succeeds

end Succeeds

end CallAudit
