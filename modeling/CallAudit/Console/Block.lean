import CallAudit.Console.Styled

/-!
# Blocks

What is shown on the console, as a structure: what stands in which frame, next
to what and in which style.  How wide things come out is left to the terminal.
-/

namespace CallAudit

/-- A short text in a block: markup, or a text with styles. -/
inductive Caption where
  | markup (text : String)
  | styled (text : Styled)
  deriving DecidableEq, Repr, Inhabited

/-- The line that a frame is drawn with. -/
inductive Frame where
  | rounded
  | double
  deriving DecidableEq, Repr

/-- The space between a frame and what is in it, in lines and in columns. -/
structure Padding where
  vertical : Nat := 0
  horizontal : Nat := 1
  deriving DecidableEq, Repr

/-- Lines of a source, the number of the first one and the numbers of those to
point out. -/
structure Excerpt where
  text : String
  language : String
  firstLine : Int
  highlighted : List Int
  deriving DecidableEq, Repr

structure PanelStyle where
  border : String
  frame : Frame := .rounded
  padding : Padding := {}
  deriving DecidableEq, Repr

/-- A thing shown on the console. -/
inductive Block where
  /-- An empty line. -/
  | blank
  /-- A message in markup. -/
  | message (text : String)
  /-- A text with styles. -/
  | styled (text : Styled)
  /-- A block in a frame, perhaps with a title. -/
  | panel (inner : Block) (title : Option Caption) (style : PanelStyle)
  /-- A block in the middle of the line. -/
  | centered (inner : Block)
  /-- Blocks below each other. -/
  | group (parts : List Block)
  /-- Blocks next to each other. -/
  | columns (parts : List Block)
  /-- An excerpt of a source. -/
  | source (excerpt : Excerpt)
  /-- A line across the console with a title in it. -/
  | rule (title style : String)
  /-- Rows of two captions. -/
  | table (rows : List (Caption × Caption))

namespace Block

instance : Inhabited Block :=
  ⟨.blank⟩

end Block

end CallAudit
