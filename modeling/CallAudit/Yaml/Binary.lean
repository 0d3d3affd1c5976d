/-!
# Bytes in text

Bytes are written with sixty-four characters, six bits each.  Characters
outside the alphabet are passed over, and reading ends at the padding that
completes a group of four.
-/

namespace CallAudit.Yaml

def sixBits? (c : Char) : Option Nat :=
  if 'A' ≤ c && c ≤ 'Z' then some (c.toNat - 65)
  else if 'a' ≤ c && c ≤ 'z' then some (c.toNat - 71)
  else if '0' ≤ c && c ≤ '9' then some (c.toNat + 4)
  else if c = '+' then some 62
  else if c = '/' then some 63
  else none

/-- Read bytes: the place within a group of four, the bits left over from the
character before and the number of padding characters are carried along. -/
def readBytes :
    (place left pads : Nat) → List Char → List UInt8 → Option (List UInt8)
  | place, _, _, [], bytes => if place = 0 then some bytes.reverse else none
  | place, left, pads, c :: rest, bytes =>
      if c = '=' then
        if 2 ≤ place && 4 ≤ place + pads + 1 then some bytes.reverse
        else readBytes place left (if 2 ≤ place then pads + 1 else pads) rest bytes
      else
        match sixBits? c with
        | none => readBytes place left pads rest bytes
        | some bits =>
            match place with
            | 0 => readBytes 1 bits 0 rest bytes
            | 1 =>
                readBytes 2 (bits % 16) 0 rest
                  ((left * 4 + bits / 16).toUInt8 :: bytes)
            | 2 =>
                readBytes 3 (bits % 4) 0 rest
                  ((left * 16 + bits / 4).toUInt8 :: bytes)
            | _ => readBytes 0 0 0 rest ((left * 64 + bits).toUInt8 :: bytes)

/-- The bytes that a text spells; it has to be plain ASCII. -/
def bytesOf? (text : String) : Option (List UInt8) :=
  if text.toList.all fun c => c.toNat < 128 then
    readBytes 0 0 0 text.toList []
  else
    none

end CallAudit.Yaml
