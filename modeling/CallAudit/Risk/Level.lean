/-!
# Risk levels

The four grades of a verdict, their order and their names.
-/

namespace CallAudit

/-- How likely an argument is to arrive without a usable value. -/
inductive Level where
  | none
  | low
  | medium
  | high
  deriving DecidableEq, Repr, Inhabited

namespace Level

/-- The place of a level in the order from harmless to grave. -/
def rank : Level → Nat
  | .none => 0
  | .low => 1
  | .medium => 2
  | .high => 3

instance : LE Level :=
  ⟨fun left right => left.rank ≤ right.rank⟩

instance (left right : Level) : Decidable (left ≤ right) :=
  inferInstanceAs (Decidable (left.rank ≤ right.rank))

def join (left right : Level) : Level :=
  if left ≤ right then right else left

/-- The gravest level of a list; nothing at all is harmless. -/
def joinAll (levels : List Level) : Level :=
  levels.foldl join .none

def name : Level → String
  | .none => "NONE"
  | .low => "LOW"
  | .medium => "MEDIUM"
  | .high => "HIGH"

def ofName? : String → Option Level
  | "NONE" => some .none
  | "LOW" => some .low
  | "MEDIUM" => some .medium
  | "HIGH" => some .high
  | _ => Option.none

def reported : List Level :=
  [.high, .medium, .low]

/-- Reading back the name of a level gives the level. -/
@[simp]
theorem ofName?_name (level : Level) : ofName? level.name = some level := by
  cases level <;> rfl

end Level

end CallAudit
