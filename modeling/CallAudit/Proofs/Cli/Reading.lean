import CallAudit.Cli.Request
import CallAudit.Proofs.Outcome

/-!
# Reading a command line

Every word changes the options in one of four ways: it is left over, it is the
target, it switches something on, or it gives an option a value that the option
admits.  So a least level that comes out of a command line is a known one.
-/

namespace CallAudit.Cli

namespace Reading

/-- A property of options that every word of a command line keeps. -/
structure IsKept (holds : Options → Prop) : Prop where
  takeTarget : ∀ {options : Options} (target : Option String),
    holds options → holds { options with target := target }
  switchOn : ∀ {options : Options} (flag : Flag),
    holds options → holds (options.switchOn flag)
  assign : ∀ {options assigned : Options} {flag : Flag} {value : String},
    holds options → options.assign flag value = .ok assigned → holds assigned

theorem helpCluster_ne_audit
    (next : Option Word) (letters : List Char) (options : Options) :
    helpCluster next letters ≠ .ok (.audit options) := by
  fun_induction helpCluster next letters with
  | case8 letter _ flag rest _ _ _ _ inductionHypothesis =>
      exact inductionHypothesis
  | _ =>
      simp

variable {holds : Options → Prop} (kept : IsKept holds)

include kept

theorem IsKept.targetOrLeave {reading : Reading} (target : Option String)
    (start : holds reading.options) :
    holds (if reading.targetTaken then reading.leave
      else reading.takeTarget target).options := by
  split
  · exact start
  · exact kept.takeTarget target start

/-- What every word keeps holds of the options that a command line asks for. -/
theorem IsKept.through {options : Options}
    (words : List Word) (reading : Reading) (start : holds reading.options)
    (asked : Reading.through words reading = .ok (.audit options)) :
    holds options := by
  fun_induction Reading.through words reading with
  | case1 reading =>
      rw [finish] at asked
      split at asked
      · simp at asked
      · simp only [Except.ok.injEq, Request.audit.injEq] at asked
        exact asked ▸ start
  | case2 rest reading inductionHypothesis =>
      exact inductionHypothesis start asked
  | case3 text rest reading taken inductionHypothesis =>
      exact inductionHypothesis start asked
  | case4 text rest reading free inductionHypothesis =>
      exact inductionHypothesis (kept.takeTarget _ start) asked
  | case5 rest reading _ inductionHypothesis =>
      exact inductionHypothesis (kept.targetOrLeave none start) asked
  | case6 text rest reading taken inductionHypothesis =>
      exact inductionHypothesis start asked
  | case7 text rest reading free inductionHypothesis =>
      exact inductionHypothesis (kept.takeTarget _ start) asked
  | case8 text rest reading _ inductionHypothesis =>
      exact inductionHypothesis (kept.targetOrLeave (some text) start) asked
  | case9 flag joined value rest reading _ inductionHypothesis =>
      obtain ⟨assigned, assigns, asked⟩ := Outcome.bind_eq_ok_iff.mp asked
      exact inductionHypothesis assigned (kept.assign start assigns) asked
  | case10 flag joined value rest reading _ =>
      rw [clusterOf] at asked
      split at asked
      · exact absurd asked (helpCluster_ne_audit _ _ _)
      · simp at asked
  | case11 joined text rest reading =>
      simp at asked
  | case12 flag joined text rest reading _ _ inductionHypothesis =>
      obtain ⟨assigned, assigns, asked⟩ := Outcome.bind_eq_ok_iff.mp asked
      exact inductionHypothesis assigned (kept.assign start assigns) asked
  | case13 flag joined text rest reading _ _ inductionHypothesis =>
      exact inductionHypothesis (kept.switchOn flag start) asked
  | case14 joined rest reading _ =>
      simp at asked
  | case15 flag joined rest reading _ _ _ =>
      simp at asked
  | case16 flag joined rest reading _ _ _ inductionHypothesis =>
      exact inductionHypothesis (kept.switchOn flag start) asked

theorem IsKept.ofArguments {arguments : List String} {options : Options}
    (start : holds {})
    (asked : Request.ofArguments arguments = .ok (.audit options)) :
    holds options := by
  obtain ⟨words, _, asked⟩ := Outcome.bind_eq_ok_iff.mp asked
  exact kept.through words {} start asked

end Reading

/-! ## The least level -/

/-- Options whose least level, if they give one, is a known one. -/
def Options.KnowsLevel (options : Options) : Prop :=
  ∀ level, options.overrides.minLevel = some level →
    level ∈ Settings.levelNames

theorem Reading.isKept_knowsLevel : IsKept Options.KnowsLevel where
  takeTarget _ knows := knows
  switchOn flag knows := by
    cases flag <;> exact knows
  assign knows assigns := by
    rw [Options.assign] at assigns
    split at assigns
    · next flag value admitted =>
        rw [Except.ok.injEq] at assigns
        subst assigns
        cases flag with
        | minLevel =>
            intro level given
            obtain rfl : value = level := by
              simpa [Options.withValue] using given
            have listed : value ∈ ["HIGH", "MEDIUM", "LOW"] := by
              simpa [Flag.admits, Flag.choices?] using admitted
            exact listed
        | _ =>
            exact knows
    · simp at assigns

/-- A least level on an accepted command line is a known one. -/
theorem Request.knowsLevel_of_ofArguments
    {arguments : List String} {options : Options}
    (asked : Request.ofArguments arguments = .ok (.audit options)) :
    options.KnowsLevel := by
  refine Reading.isKept_knowsLevel.ofArguments ?_ asked
  intro level given
  simp at given

end CallAudit.Cli
