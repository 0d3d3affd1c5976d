import CallAudit.Proofs.Files.Path
import CallAudit.Settings.Select

/-!
# Literal patterns

A pattern without special characters matches its own text and nothing else.  As
a pattern for paths to leave out it therefore has two uses: it leaves out the
path that it spells, and, when no slash is left in it after those at its end are
gone, every path with the rest as a component (`patternExcludes_literal_iff`).
-/

namespace CallAudit

namespace Glob

/-- A text of characters that stand for themselves wherever they are in a
pattern. -/
def IsLiteral (text : List Char) : Prop :=
  ∀ c ∈ text, c ∉ ['*', '?', '[']

instance (text : List Char) : Decidable (IsLiteral text) :=
  List.decidableBAll (fun c => c ∉ ['*', '?', '[']) text

theorem readWithin_of_literal {bound : Nat} {text : List Char}
    (enough : text.length ≤ bound) (literal : IsLiteral text) :
    readWithin bound text = text.map .literal := by
  induction text generalizing bound with
  | nil =>
      cases bound with
      | zero =>
          rfl
      | succ bound =>
          rfl
  | cons c rest inductionHypothesis =>
      obtain ⟨plain, literal⟩ := List.forall_mem_cons.mp literal
      simp only [List.mem_cons, List.not_mem_nil, or_false, not_or] at plain
      obtain ⟨notStar, notAny, notSet⟩ := plain
      cases bound with
      | zero =>
          simp at enough
      | succ bound =>
          have later := inductionHypothesis (Nat.le_of_succ_le_succ enough)
            literal
          rw [readWithin, later, List.map_cons]
          · exact notStar
          · exact notAny
          · exact notSet

theorem accepts_literal_iff {expected text : List Char} :
    accepts (expected.map .literal) text = true ↔ text = expected := by
  induction expected generalizing text with
  | nil =>
      rw [List.map_nil, accepts, List.isEmpty_iff]
  | cons c rest inductionHypothesis =>
      cases text with
      | nil =>
          simp [accepts]
      | cons d text =>
          simp [accepts, GlobPiece.hasChar, inductionHypothesis]

end Glob

theorem globMatches_literal_iff {pattern text : String}
    (literal : Glob.IsLiteral pattern.toList) :
    globMatches pattern text = true ↔ text = pattern := by
  rw [globMatches, Glob.ofChars,
    Glob.readWithin_of_literal (Nat.le_refl _) literal,
    Glob.accepts_literal_iff, String.toList_inj]

/-! ## Slashes at the end -/

namespace Text

theorem trimEnd_slash_of_closed {text : String}
    (closed : text.toList.getLast? ≠ some '/') :
    trimEnd (· = '/') text = text := by
  have unchanged : text.toList.reverse.dropWhile (· = '/') =
      text.toList.reverse := by
    cases shape : text.toList.reverse with
    | nil =>
        rfl
    | cons c rest =>
        rw [← List.head?_reverse, shape, List.head?_cons] at closed
        have other : c ≠ '/' := fun same => closed (same ▸ rfl)
        rw [List.dropWhile_cons_of_neg (by simpa using other)]
  rw [trimEnd, unchanged, List.reverse_reverse, String.ofList_toList]

theorem trimEnd_append_slash {text : String}
    (closed : text.toList.getLast? ≠ some '/') :
    trimEnd (· = '/') (text ++ "/") = text := by
  have oneMore : (text ++ "/").toList.reverse =
      '/' :: text.toList.reverse := by
    simp
  have first : (text ++ "/").toList.reverse.dropWhile (· = '/') =
      text.toList.reverse.dropWhile (· = '/') := by
    rw [oneMore, List.dropWhile_cons_of_pos (by decide)]
  rw [trimEnd, first]
  exact trimEnd_slash_of_closed closed

end Text

/-! ## Leaving out -/

namespace Settings

/-- A relative path that can be a literal pattern for paths to leave out. -/
structure IsPlainPath (pattern : String) : Prop where
  filled : pattern ≠ ""
  literal : Glob.IsLiteral pattern.toList
  noBackslash : '\\' ∉ pattern.toList
  opens : pattern.toList.head? ≠ some '/'
  closes : pattern.toList.getLast? ≠ some '/'

theorem patternExcludes_literal_iff {pattern bare path : String}
    (literal : Glob.IsLiteral pattern.toList)
    (literalBare : Glob.IsLiteral bare.toList)
    (trimmed : Text.trimEnd (· = '/') pattern = bare) :
    patternExcludes path pattern = true ↔
      path = pattern ∨ ('/' ∉ bare.toList ∧ bare ∈ pathParts path) := by
  simp only [patternExcludes, trimmed, Bool.or_eq_true, Bool.and_eq_true,
    Bool.not_eq_true', List.any_eq_true, globMatches_literal_iff literal,
    globMatches_literal_iff literalBare, exists_eq_right]
  simp

variable {pattern : String} (plain : IsPlainPath pattern)

include plain

theorem IsPlainPath.excludes_iff {path : String} :
    patternExcludes path pattern = true ↔
      path = pattern ∨ ('/' ∉ pattern.toList ∧ pattern ∈ pathParts path) :=
  patternExcludes_literal_iff plain.literal plain.literal
    (Text.trimEnd_slash_of_closed plain.closes)

theorem IsPlainPath.excludes_slash_iff {path : String} :
    patternExcludes path (pattern ++ "/") = true ↔
      path = pattern ++ "/" ∨
        ('/' ∉ pattern.toList ∧ pattern ∈ pathParts path) := by
  have literal : Glob.IsLiteral (pattern ++ "/").toList := by
    intro c listed
    rw [String.toList_append, List.mem_append] at listed
    rcases listed with inside | slash
    · exact plain.literal c inside
    · rw [List.mem_singleton.mp slash]
      decide
  exact patternExcludes_literal_iff literal plain.literal
    (Text.trimEnd_append_slash plain.closes)

end Settings

end CallAudit
