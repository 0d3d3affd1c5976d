/-!
# Hexadecimal digits

Numbers written with the digits 0 to 9 and a to f, filled up with zeros on the
left to a least width.
-/

namespace CallAudit.Text

/-- A number in base sixteen with at least the given number of digits. -/
def hexPadded (width n : Nat) : String :=
  let digits := Nat.toDigits 16 n
  String.ofList (List.replicate (width - digits.length) '0' ++ digits)

end CallAudit.Text
