/-!
# Tokens

The marks and texts that a settings file is made of.  The start and end of a
block are tokens of their own, made from the indentation.
-/

namespace CallAudit.Yaml

/-- A token of a settings file. -/
inductive Token where
  | version (major : Nat)
  | tagShorthand (handle stem : String)
  | otherDirective
  | documentStart
  | documentEnd
  | blockSequence
  | blockMapping
  | blockEnd
  | flowSequence
  | flowSequenceEnd
  | flowMapping
  | flowMappingEnd
  | entry
  | flowEntry
  | key
  | value
  | alias (name : String)
  | anchor (name : String)
  | tag (handle : Option String) (suffix : String)
  | scalar (plain : Bool) (text : String)
  | textEnd
  deriving DecidableEq, Repr, Inhabited

end CallAudit.Yaml
