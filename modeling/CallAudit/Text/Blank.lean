/-!
# White space

The characters that count as white space at the ends of a line or of a name,
and the removal of those.  The class is that of the Unicode property, with the
four separators of the control block.
-/

namespace CallAudit.Text

def isBlank (c : Char) : Bool :=
  let n := c.toNat
  (0x09 ≤ n && n ≤ 0x0d) || (0x1c ≤ n && n ≤ 0x20) || n == 0x85 ||
    n == 0xa0 || n == 0x1680 || (0x2000 ≤ n && n ≤ 0x200a) ||
    n == 0x2028 || n == 0x2029 || n == 0x202f || n == 0x205f || n == 0x3000

/-- Remove the characters of a class from both ends of a text. -/
def trimChars (drop : Char → Bool) (text : List Char) : List Char :=
  ((text.dropWhile drop).reverse.dropWhile drop).reverse

def trim (text : String) : String :=
  String.ofList (trimChars isBlank text.toList)

/-- Remove the characters of a class from the end of a text. -/
def trimEnd (drop : Char → Bool) (text : String) : String :=
  String.ofList ((text.toList.reverse.dropWhile drop).reverse)

end CallAudit.Text
