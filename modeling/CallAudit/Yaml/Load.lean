import CallAudit.Files.Read
import CallAudit.Yaml.Binary
import CallAudit.Yaml.Tree
import CallAudit.Yaml.Value

/-!
# From nodes to values

The value of a node is worked out from its tag.  A mapping takes over the
entries of the mappings that it merges, and its own entries win over them.

A text can have more than one fault.  The one that is reported lies at the
least depth of the tree, and at that depth it is the first.
-/

namespace CallAudit.Yaml

/-- Faults with their depth below the node that they were found under. -/
abbrev Faults := List (Nat × Fault)

def Faults.below (faults : Faults) : Faults :=
  faults.map fun item => (item.1 + 1, item.2)

def Faults.first? : Faults → Option Fault
  | [] => none
  | item :: rest =>
      let best := rest.foldl
        (fun (best : Nat × Fault) next => if next.1 < best.1 then next else best)
        item
      some best.2

/-- An entry of a mapping with the faults of its two sides. -/
structure Part where
  key : Value
  value : Value
  faults : Faults

/-- What a node comes to. -/
structure Reading where
  value : Value
  faults : Faults := []
  /-- The entries of a mapping, after merging. -/
  parts : Option (List Part) := none
  /-- The entries of the items of a sequence, where they are mappings. -/
  itemParts : Option (List (Option (List Part))) := none

namespace Reading

/-- A value without a fault, or a fault in place of a value. -/
def ofExcept : Except Fault Value → Reading
  | .ok value => { value }
  | .error fault => { value := .null, faults := [(0, fault)] }

/-- The reading of a node that has no value, at a given depth. -/
def malformed (depth : Nat) : Reading :=
  { value := .null, faults := [(depth, .malformed)] }

end Reading

def switchValue (text : String) : Except Fault Value :=
  let small := text.toLower
  if ["yes", "true", "on"].contains small then .ok (.switch true)
  else if ["no", "false", "off"].contains small then .ok (.switch false)
  else .error (.value (.notASwitch small))

def timeValue (text : String) : Except Fault Value :=
  match Timestamp.read? text.toList with
  | none => .error (.value .notATime)
  | some stamp =>
      if !stamp.exists? then .error (.value .noSuchTime)
      else if stamp.timed then .ok (.moment stamp.moment stamp.offset)
      else .ok (.date stamp.moment)

def textValue (tag : Tag) (text : String) : Except Fault Value :=
  match tag with
  | .null => .ok .null
  | .switch => switchValue text
  | .whole => (wholeValue text).map .whole
  | .real => (realValue text).map .real
  | .binary =>
      match bytesOf? text with
      | some content => .ok (.bytes content)
      | none => .error .malformed
  | .timestamp => timeValue text
  | .text => .ok (.text text)
  | _ => .error .malformed

def isTextTag : Tag → Bool
  | .null => true
  | .switch => true
  | .whole => true
  | .real => true
  | .binary => true
  | .timestamp => true
  | .text => true
  | _ => false

def isCollectionTag : Tag → Bool
  | .orderedMap => true
  | .pairs => true
  | .set => true
  | .sequence => true
  | .mapping => true
  | _ => false

/-- The entries that a mapping takes over from the value of a merge. -/
def mergedParts (reading : Reading) : Option (List Part) :=
  match reading.parts, reading.itemParts with
  | some parts, _ => some parts
  | none, some items => (items.mapM id).map fun found => found.reverse.flatten
  | none, none => none

/-- The entries of a mapping whose keys and values were read: those taken over,
then its own.  Nothing if a merge is not possible. -/
def partsOf : List (Tag × Reading × Reading) → Option (List Part × List Part)
  | [] => some ([], [])
  | (tag, key, value) :: rest => do
      let (merged, own) ← partsOf rest
      if tag = .merge then
        let taken ← mergedParts value
        pure (taken ++ merged, own)
      else
        let keyFaults :=
          if key.value.isKey then key.faults
          else key.faults ++ [(0, Fault.malformed)]
        pure (merged,
          { key := key.value, value := value.value,
            faults := keyFaults ++ value.faults } :: own)

def mappingReading
    (make : List (Value × Value) → Value)
    (entries : List (Tag × Reading × Reading)) : Reading :=
  match partsOf entries with
  | none => .malformed 1
  | some (merged, own) =>
      let parts := merged ++ own
      { value := make (parts.foldl
          (fun entries part => Value.put entries part.key part.value) []),
        faults := Faults.below (parts.flatMap Part.faults),
        parts := some parts }

/-- The text that a mapping stands for: that of its entry for the default
value. -/
def Node.defaultText? : Node → Option String
  | .scalar _ text => some text
  | .mapping _ ((.scalar .value _, value) :: _) => value.defaultText?
  | _ => none

def pairOf (reading : Option (Reading × Reading)) :
    (Value × Value) × Faults :=
  match reading with
  | some (key, value) => ((key.value, value.value), key.faults ++ value.faults)
  | none => ((.null, .null), [(0, .malformed)])

def pairsReading (items : List (Option (Reading × Reading))) : Reading :=
  let pairs := items.map pairOf
  { value := .pairs (pairs.map Prod.fst),
    faults := Faults.below (pairs.flatMap Prod.snd) }

mutual

def Node.reading : Node → Reading
  | .scalar tag text =>
      if isCollectionTag tag then .malformed 1
      else .ofExcept (textValue tag text)
  | .sequence tag items =>
      let readings := itemReadings items
      match tag with
      | .sequence =>
          { value := .list (readings.map Reading.value),
            faults := Faults.below (readings.flatMap Reading.faults),
            itemParts := some (readings.map Reading.parts) }
      | .pairs => pairsReading (pairReadings items)
      | .orderedMap => pairsReading (pairReadings items)
      | .mapping => .malformed 1
      | .set => .malformed 1
      | _ => .malformed 0
  | .mapping tag entries =>
      match tag with
      | .mapping => mappingReading .mapping (entryReadings entries)
      | .set =>
          mappingReading (fun entries => .set (entries.map Prod.fst))
            (entryReadings entries)
      | .sequence => .malformed 1
      | .pairs => .malformed 1
      | .orderedMap => .malformed 1
      | tag =>
          match (Node.mapping tag entries).defaultText? with
          | some text =>
              if isTextTag tag then .ofExcept (textValue tag text)
              else .malformed 0
          | none => .malformed 0

def itemReadings : List Node → List Reading
  | [] => []
  | item :: rest => item.reading :: itemReadings rest

/-- The readings of the entries of a mapping.  A key that is a lone equals sign
is a text. -/
def entryReadings : List (Node × Node) → List (Tag × Reading × Reading)
  | [] => []
  | (key, value) :: rest =>
      let keyReading :=
        match key with
        | .scalar .value text => { value := .text text }
        | key => key.reading
      (key.tag, keyReading, value.reading) :: entryReadings rest

/-- The readings of the pairs in a sequence of mappings with one entry each. -/
def pairReadings : List Node → List (Option (Reading × Reading))
  | [] => []
  | .mapping _ [(key, value)] :: rest =>
      some (key.reading, value.reading) :: pairReadings rest
  | _ :: rest => none :: pairReadings rest

end

/-- The value that a text spells; no value at all for a text without a
document. -/
def load (text : String) : Except Fault Value :=
  match nodeOf text with
  | .error fault => .error fault
  | .ok none => .ok .null
  | .ok (some root) =>
      let reading := root.reading
      match reading.faults.first? with
      | some fault => .error fault
      | none => .ok reading.value

/-- What is said about a breach of the format. -/
def breach : String :=
  "the file does not follow the rules of the format"

/-- The value of a file.  All of its content is decoded before any of it is
parsed. -/
def read (_path : String) (content : ByteArray) : Except ReadFault Value :=
  match Files.strictTextOf? content with
  | none => .error .encoding
  | some text =>
      (load text).mapError fun
        | .malformed => .malformed breach
        | .value fault => .value fault

end CallAudit.Yaml
