import CallAudit.Files.Name

/-!
# Dialects

The three languages a source can be written in, told by the suffix of its file
name.
-/

namespace CallAudit

/-- The language of a source. -/
inductive Dialect where
  | javascript
  | typescript
  | tsx
  deriving DecidableEq, Repr, Inhabited

namespace Dialect

def name : Dialect → String
  | .javascript => "javascript"
  | .typescript => "typescript"
  | .tsx => "tsx"

def typescriptSuffixes : List String :=
  [".ts", ".mts", ".cts"]

def tsxSuffixes : List String :=
  [".tsx"]

/-- The dialect of a file; a file without a telling suffix is untyped. -/
def ofFile (file : String) : Dialect :=
  let suffix := Files.suffix file
  if tsxSuffixes.contains suffix then
    .tsx
  else if typescriptSuffixes.contains suffix then
    .typescript
  else
    .javascript

def typed : Dialect → Bool
  | .javascript => false
  | .typescript => true
  | .tsx => true

def markup : Dialect → Bool
  | .javascript => true
  | .typescript => false
  | .tsx => true

end Dialect

end CallAudit
