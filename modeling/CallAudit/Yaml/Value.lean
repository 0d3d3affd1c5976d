import CallAudit.Number.Binary
import CallAudit.Time.Moment

/-!
# Values

The values that settings files can hold.  A mapping keeps its entries in the
order in which their keys first came up.
-/

namespace CallAudit.Yaml

/-- A value of a settings file. -/
inductive Value where
  | null
  | switch (on : Bool)
  | whole (number : Int)
  | real (number : Binary)
  | text (content : String)
  | bytes (content : List UInt8)
  | date (day : Moment)
  /-- A moment with its distance from universal time in minutes. -/
  | moment (point : Moment) (offset : Option Int)
  | list (items : List Value)
  | pairs (items : List (Value × Value))
  | set (items : List Value)
  | mapping (entries : List (Value × Value))
  /-- A collection inside itself: a mapping, or else a list. -/
  | itself (isMapping : Bool)

namespace Value

def isKey : Value → Bool
  | .list _ => false
  | .pairs _ => false
  | .set _ => false
  | .mapping _ => false
  | .itself _ => false
  | _ => true

def keyNumber? : Value → Option (Int ⊕ Binary)
  | .switch on => some (.inl (if on then 1 else 0))
  | .whole number => some (.inl number)
  | .real number => some (.inr number)
  | _ => none

def sameNumber : Int ⊕ Binary → Int ⊕ Binary → Bool
  | .inl left, .inl right => left = right
  | .inl left, .inr right => right.isInt left
  | .inr left, .inl right => left.isInt right
  | .inr left, .inr right => left.sameValue right

/-- Are two values the same key?  Numbers of different kinds are compared by
their value, and a switch counts as one or zero. -/
def sameKey (left right : Value) : Bool :=
  match left.keyNumber?, right.keyNumber? with
  | some left, some right => sameNumber left right
  | none, none =>
      match left, right with
      | .null, .null => true
      | .text left, .text right => left = right
      | .bytes left, .bytes right => left = right
      | .date left, .date right => left = right
      | .moment left leftOffset, .moment right rightOffset =>
          left = right && leftOffset = rightOffset
      | _, _ => false
  | _, _ => false

/-- Give a key a value: a known key keeps its place and its spelling. -/
def put (entries : List (Value × Value)) (key value : Value) :
    List (Value × Value) :=
  if entries.any fun entry => entry.1.sameKey key then
    entries.map fun entry =>
      if entry.1.sameKey key then (entry.1, value) else entry
  else
    entries ++ [(key, value)]

/-- Does a value stand for nothing: no value, a switch that is off, zero, or
something without content? -/
def isVoid : Value → Bool
  | .null => true
  | .switch on => !on
  | .whole number => number = 0
  | .real number => number.isZero
  | .text content => content = ""
  | .bytes content => content.isEmpty
  | .date _ => false
  | .moment _ _ => false
  | .list items => items.isEmpty
  | .pairs items => items.isEmpty
  | .set items => items.isEmpty
  | .mapping entries => entries.isEmpty
  | .itself _ => false

end Value

end CallAudit.Yaml
