import CallAudit.Console.Block
import CallAudit.Console.Markup
import CallAudit.Text.Split

/-!
# Blocks as lines

The lines of a block for a terminal that knows no styles.  Frames become a line
for the title and an indentation.
-/

namespace CallAudit.Block

def captionText : Caption → String
  | .markup text => Markup.shown text
  | .styled text => text.plain

def indented (lines : List String) : List String :=
  lines.map fun line => "  " ++ line

def excerptLines (excerpt : Excerpt) : List String :=
  (Text.lines excerpt.text).zipIdx.map fun line =>
    let number := excerpt.firstLine + line.2
    (if excerpt.highlighted.contains number then "> " else "  ") ++
      toString number ++ " | " ++ line.1

def ruled (title : String) : String :=
  "-- " ++ title ++ " --"

mutual

/-- The lines of a block. -/
def lines : Block → List String
  | .blank => [""]
  | .message text => Text.lines (Markup.shown text)
  | .styled text => Text.lines text.plain
  | .panel inner title _ =>
      (title.map fun caption => ruled (captionText caption)).toList ++
        indented (lines inner)
  | .centered inner => lines inner
  | .group parts => linesOfAll parts
  | .columns parts => linesOfAll parts
  | .source excerpt => excerptLines excerpt
  | .rule title _ => [ruled (Markup.shown title)]
  | .table rows =>
      rows.map fun row => captionText row.1 ++ "  " ++ captionText row.2

/-- The lines of blocks, one block after the other. -/
def linesOfAll : List Block → List String
  | [] => []
  | block :: rest => lines block ++ linesOfAll rest

end

end CallAudit.Block
