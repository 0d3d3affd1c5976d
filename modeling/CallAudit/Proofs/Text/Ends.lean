import CallAudit.Text.Blank
import Mathlib.Data.List.DropRight
import Mathlib.Data.String.Basic

/-!
# The ends of a text

What is left of a text when the characters of a class are taken off its two
ends: a part of the text that neither begins nor ends with such a character,
with nothing but such characters around it.
-/

namespace CallAudit.Text

section Runs

variable {p : Char → Bool} {text key : List Char}

theorem head?_dropWhile_eq_false :
    ∀ c ∈ (text.dropWhile p).head?, p c = false := by
  intro c first
  have rest := List.head?_dropWhile_not p text
  rw [Option.mem_def.mp first] at rest
  exact rest

theorem dropWhile_of_head? (first : ∀ c ∈ key.head?, p c = false) :
    key.dropWhile p = key := by
  cases key with
  | nil =>
      rfl
  | cons head rest =>
      have kept : p head = false := first head rfl
      simp [kept]

/-- What dropping from the front leaves is the rest after a part that is
dropped. -/
theorem dropWhile_eq_iff :
    text.dropWhile p = key ↔
      ∃ opening, text = opening ++ key ∧ (∀ c ∈ opening, p c = true) ∧
        ∀ c ∈ key.head?, p c = false := by
  constructor
  · rintro rfl
    exact ⟨text.takeWhile p, List.takeWhile_append_dropWhile.symm,
      fun c dropped => List.mem_takeWhile_imp dropped,
      head?_dropWhile_eq_false⟩
  · rintro ⟨opening, rfl, dropped, first⟩
    rw [List.dropWhile_append_of_pos dropped, dropWhile_of_head? first]

theorem rdropWhile_eq_iff :
    text.rdropWhile p = key ↔
      ∃ closing, text = key ++ closing ∧ (∀ c ∈ closing, p c = true) ∧
        ∀ c ∈ key.getLast?, p c = false := by
  rw [List.rdropWhile, List.reverse_eq_iff, dropWhile_eq_iff]
  constructor
  · rintro ⟨dropped, shape, all, last⟩
    refine ⟨dropped.reverse, ?_, ?_, ?_⟩
    · rw [List.reverse_eq_iff] at shape
      simpa using shape
    · simpa using all
    · simpa using last
  · rintro ⟨closing, rfl, all, last⟩
    exact ⟨closing.reverse, by simp, by simpa using all, by simpa using last⟩

theorem rdropWhile_dropWhile_eq_iff :
    (text.dropWhile p).rdropWhile p = key ↔
      ∃ opening closing,
        text = opening ++ key ++ closing ∧
          (∀ c ∈ opening, p c = true) ∧ (∀ c ∈ closing, p c = true) ∧
          (∀ c ∈ key.head?, p c = false) ∧
          (∀ c ∈ key.getLast?, p c = false) := by
  rw [rdropWhile_eq_iff]
  constructor
  · rintro ⟨closing, shape, trailing, last⟩
    obtain ⟨opening, whole, leading, first⟩ := dropWhile_eq_iff.mp shape
    refine ⟨opening, closing, ?_, leading, trailing, ?_, last⟩
    · rw [whole, List.append_assoc]
    · intro c isFirst
      apply first c
      rw [Option.mem_def] at isFirst ⊢
      rw [List.head?_append, isFirst]
      rfl
  · rintro ⟨opening, closing, rfl, leading, trailing, first, last⟩
    rw [List.append_assoc, List.dropWhile_append_of_pos leading]
    cases key with
    | nil =>
        -- Nothing is left, and all of it goes from the front.
        exact ⟨[], by simpa using trailing, by simp, last⟩
    | cons head rest =>
        have kept : p head = false := first head rfl
        exact ⟨closing, by simp [kept], trailing, last⟩

end Runs

/-- What trimming leaves is the part between two runs of dropped characters that
has none of them at its own ends. -/
theorem ofList_trimChars_eq_iff {drop : Char → Bool} {text key : String} :
    String.ofList (trimChars drop text.toList) = key ↔
      ∃ opening closing,
        text.toList = opening ++ key.toList ++ closing ∧
          (∀ c ∈ opening, drop c = true) ∧ (∀ c ∈ closing, drop c = true) ∧
          (∀ c ∈ key.toList.head?, drop c = false) ∧
          (∀ c ∈ key.toList.getLast?, drop c = false) := by
  rw [String.ofList_eq]
  exact rdropWhile_dropWhile_eq_iff

end CallAudit.Text
