import CallAudit.Yaml.Number
import CallAudit.Yaml.Timestamp

/-!
# Nodes

The tree of a settings file before its values are worked out.  Every node has a
tag that says what kind of value it is; a plain text without a tag gets one from
its spelling.
-/

namespace CallAudit.Yaml

/-- The kinds of values. -/
inductive Tag where
  | null
  | switch
  | whole
  | real
  | binary
  | timestamp
  | orderedMap
  | pairs
  | set
  | text
  | sequence
  | mapping
  | merge
  | value
  | other (name : String)
  deriving DecidableEq, Repr

def standardStem : String :=
  "tag:yaml.org,2002:"

namespace Tag

def standard : List (String × Tag) :=
  [("null", .null), ("bool", .switch), ("int", .whole), ("float", .real),
    ("binary", .binary), ("timestamp", .timestamp), ("omap", .orderedMap),
    ("pairs", .pairs), ("set", .set), ("str", .text), ("seq", .sequence),
    ("map", .mapping), ("merge", .merge), ("value", .value)]

def ofName (name : String) : Tag :=
  let known := standard.find? fun item => standardStem ++ item.1 = name
  (known.map Prod.snd).getD (.other name)

def switchNames : List String :=
  ["yes", "Yes", "YES", "no", "No", "NO", "true", "True", "TRUE", "false",
    "False", "FALSE", "on", "On", "ON", "off", "Off", "OFF"]

def ofPlain (text : String) : Tag :=
  let chars := text.toList
  if switchNames.contains text then .switch
  else if isReal chars then .real
  else if isWhole chars then .whole
  else if text = "<<" then .merge
  else if ["~", "null", "Null", "NULL", ""].contains text then .null
  else if Timestamp.isPlain chars then .timestamp
  else if text = "=" then .value
  else .text

end Tag

/-- A node of a settings file. -/
inductive Node where
  | scalar (tag : Tag) (text : String)
  | sequence (tag : Tag) (items : List Node)
  | mapping (tag : Tag) (entries : List (Node × Node))

namespace Node

def tag : Node → Tag
  | .scalar tag _ => tag
  | .sequence tag _ => tag
  | .mapping tag _ => tag

def absent : Node :=
  .scalar .null ""

end Node

end CallAudit.Yaml
