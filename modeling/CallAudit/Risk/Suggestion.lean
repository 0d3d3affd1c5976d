/-!
# Suggestions

A suggestion is kept as the identifier of a template and the parameters to put
into it, and becomes text only when it is shown.  An identifier without a
template stands for its own text.
-/

namespace CallAudit

/-- A piece of a template: fixed text, or a slot for a parameter. -/
inductive TemplatePiece where
  | fixed (text : String)
  | slot (parameter : String)
  deriving DecidableEq, Repr

/-- A remediation hint. -/
structure Suggestion where
  template : String
  params : List (String × String) := []
  deriving DecidableEq, Repr, Inhabited

/-- A slot of a template has no parameter. -/
structure MissingParameter where
  parameter : String
  deriving DecidableEq, Repr

namespace Suggestion

def pieces? : String → Option (List TemplatePiece)
  | "verify-declaration" =>
      some [.fixed "Check that '", .slot "name",
        .fixed "' is imported or declared before use"]
  | "add-initializer" =>
      some [.fixed "Initialize '", .slot "name",
        .fixed "' where it is declared, e.g. let ", .slot "name",
        .fixed " = 0"]
  | "add-parameter-default" =>
      some [.fixed "Give parameter '", .slot "name",
        .fixed "' a default value, e.g. ", .slot "name", .fixed " = 0"]
  | "optional-chaining" =>
      some [.fixed "Use optional chaining: ", .slot "object", .fixed "?.",
        .slot "property"]
  | "coalesce-fallback" =>
      some [.fixed "Fall back to a default value: (", .slot "expression",
        .fixed " || 0)"]
  | "verify-nested-call" =>
      some [.fixed "Check that the nested ", .slot "function",
        .fixed "() call cannot produce undefined"]
  | _ => none

/-- Set a parameter: a new one goes to the end, a known one keeps its place. -/
def setParam (params : List (String × String)) (entry : String × String) :
    List (String × String) :=
  if params.any fun known => known.1 == entry.1 then
    params.map fun known => if known.1 == entry.1 then entry else known
  else
    params ++ [entry]

/-- The parameters with each name once: the place of its first mention and
the value of its last. -/
def settledParams (suggestion : Suggestion) : List (String × String) :=
  suggestion.params.foldl setParam []

def renderPiece (params : List (String × String)) :
    TemplatePiece → Except MissingParameter String
  | .fixed text => .ok text
  | .slot parameter =>
      match params.lookup parameter with
      | some value => .ok value
      | none => .error ⟨parameter⟩

def render (suggestion : Suggestion) : Except MissingParameter String :=
  match pieces? suggestion.template with
  | none => .ok suggestion.template
  | some pieces =>
      (pieces.mapM (renderPiece suggestion.settledParams)).map String.join

end Suggestion

end CallAudit
