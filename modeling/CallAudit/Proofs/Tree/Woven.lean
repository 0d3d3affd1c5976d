/-!
# Lists with extra items

`Woven extra items woven` says that the second list is the first one with extra
items between its own.  A computation over a list that takes no notice of extra
items has the same result for both.
-/

namespace CallAudit

/-- A list in which extra items stand between the items of another one. -/
inductive Woven {α : Type} (extra : α → Prop) : List α → List α → Prop
  | nil : Woven extra [] []
  | keep (item : α) {items woven : List α} :
      Woven extra items woven → Woven extra (item :: items) (item :: woven)
  | weave {item : α} {items woven : List α} :
      extra item → Woven extra items woven → Woven extra items (item :: woven)

namespace Woven

variable {α β : Type} {extra : α → Prop} {items woven : List α}

theorem refl (items : List α) : Woven extra items items := by
  induction items with
  | nil =>
      exact .nil
  | cons item rest inductionHypothesis =>
      exact .keep item inductionHypothesis

theorem imp {other : α → Prop} (holds : Woven extra items woven)
    (weaker : ∀ item, extra item → other item) : Woven other items woven := by
  induction holds with
  | nil =>
      exact .nil
  | keep item _ inductionHypothesis =>
      exact .keep item inductionHypothesis
  | weave isExtra _ inductionHypothesis =>
      exact .weave (weaker _ isExtra) inductionHypothesis

theorem append {others othersWoven : List α}
    (first : Woven extra items woven)
    (second : Woven extra others othersWoven) :
    Woven extra (items ++ others) (woven ++ othersWoven) := by
  induction first with
  | nil =>
      exact second
  | keep item _ inductionHypothesis =>
      exact .keep item inductionHypothesis
  | weave isExtra _ inductionHypothesis =>
      exact .weave isExtra inductionHypothesis

theorem sublist (holds : Woven extra items woven) : items.Sublist woven := by
  induction holds with
  | nil =>
      exact List.Sublist.refl []
  | keep item _ inductionHypothesis =>
      exact inductionHypothesis.cons_cons item
  | weave _ _ inductionHypothesis =>
      exact inductionHypothesis.cons _

/-- Collecting from the images of some items, with extra items between them,
leaves extra items between what is collected. -/
theorem flatMap {γ : Type} {sources : List γ} {image : γ → α}
    {collect : α → List β} {kept : γ → List β} {collected : β → Prop}
    (holds : Woven extra (sources.map image) woven)
    (each : ∀ source ∈ sources,
      Woven collected (kept source) (collect (image source)))
    (extraEach : ∀ item, extra item → Woven collected [] (collect item)) :
    Woven collected (sources.flatMap kept) (woven.flatMap collect) := by
  generalize shape : sources.map image = items at holds
  induction holds generalizing sources with
  | nil =>
      rw [List.map_eq_nil_iff.mp shape]
      exact .nil
  | keep item _ inductionHypothesis =>
      obtain ⟨source, rest, rfl, rfl, restShape⟩ := List.map_eq_cons_iff.mp shape
      rw [List.forall_mem_cons] at each
      rw [List.flatMap_cons, List.flatMap_cons]
      exact each.1.append (inductionHypothesis each.2 restShape)
  | weave isExtra _ inductionHypothesis =>
      rw [List.flatMap_cons]
      exact (extraEach _ isExtra).append (inductionHypothesis each shape)

theorem filter (holds : Woven extra items woven) (test : α → Bool) :
    Woven extra (items.filter test) (woven.filter test) := by
  induction holds with
  | nil =>
      exact .nil
  | keep item _ inductionHypothesis =>
      rw [List.filter_cons, List.filter_cons]
      split
      · exact .keep item inductionHypothesis
      · exact inductionHypothesis
  | weave isExtra _ inductionHypothesis =>
      rw [List.filter_cons]
      split
      · exact .weave isExtra inductionHypothesis
      · exact inductionHypothesis

/-! ## What takes no notice of extra items -/

theorem flatMap_eq (holds : Woven extra items woven) {collect : α → List β}
    (silent : ∀ item, extra item → collect item = []) :
    woven.flatMap collect = items.flatMap collect := by
  induction holds with
  | nil =>
      rfl
  | keep item _ inductionHypothesis =>
      rw [List.flatMap_cons, List.flatMap_cons, inductionHypothesis]
  | weave isExtra _ inductionHypothesis =>
      rw [List.flatMap_cons, silent _ isExtra, List.nil_append,
        inductionHypothesis]

theorem filterMap_eq (holds : Woven extra items woven)
    {collect : α → Option β} (silent : ∀ item, extra item → collect item = none) :
    woven.filterMap collect = items.filterMap collect := by
  induction holds with
  | nil =>
      rfl
  | keep item _ inductionHypothesis =>
      rw [List.filterMap_cons, List.filterMap_cons, inductionHypothesis]
  | weave isExtra _ inductionHypothesis =>
      rw [List.filterMap_cons_none (silent _ isExtra), inductionHypothesis]

theorem findSome?_eq (holds : Woven extra items woven)
    {search : α → Option β} (silent : ∀ item, extra item → search item = none) :
    woven.findSome? search = items.findSome? search := by
  rw [← List.head?_filterMap, ← List.head?_filterMap,
    holds.filterMap_eq silent]

theorem filter_eq (holds : Woven extra items woven) {test : α → Bool}
    (silent : ∀ item, extra item → test item = false) :
    woven.filter test = items.filter test := by
  induction holds with
  | nil =>
      rfl
  | keep item _ inductionHypothesis =>
      rw [List.filter_cons, List.filter_cons, inductionHypothesis]
  | weave isExtra _ inductionHypothesis =>
      rw [List.filter_cons, silent _ isExtra, inductionHypothesis]
      rfl

theorem find?_eq (holds : Woven extra items woven) {test : α → Bool}
    (silent : ∀ item, extra item → test item = false) :
    woven.find? test = items.find? test := by
  rw [← List.head?_filter, ← List.head?_filter, holds.filter_eq silent]

theorem any_eq (holds : Woven extra items woven) {test : α → Bool}
    (silent : ∀ item, extra item → test item = false) :
    woven.any test = items.any test := by
  rw [← List.isSome_find?, ← List.isSome_find?, holds.find?_eq silent]

end Woven

end CallAudit
