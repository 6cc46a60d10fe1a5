/-
# `EventSearch.Text.Percent` — percent-encoding

A text written for a URL: the letters, digits and `-`, `_`, `.`, `~` of ASCII stand for
themselves, every other byte of the UTF-8 form is `%` and two hexadecimal digits.  `decode?` reads
such a text back.
-/
namespace EventSearch.Text.Percent

/-- Bytes that stand for themselves. -/
def isPlain (b : UInt8) : Bool :=
  let n := b.toNat
  (0x41 ≤ n && n ≤ 0x5A) || (0x61 ≤ n && n ≤ 0x7A) || (0x30 ≤ n && n ≤ 0x39) ||
    n == 0x2D || n == 0x5F || n == 0x2E || n == 0x7E

/-- A hexadecimal digit in upper case. -/
def hexDigit (n : Nat) : Char :=
  if n < 10 then Char.ofNat (0x30 + n) else Char.ofNat (0x37 + n)

/-- The value of a hexadecimal digit of either case. -/
def hexValue? (c : Char) : Option Nat :=
  let n := c.toNat
  if 0x30 ≤ n ∧ n ≤ 0x39 then some (n - 0x30)
  else if 0x41 ≤ n ∧ n ≤ 0x46 then some (n - 0x37)
  else if 0x61 ≤ n ∧ n ≤ 0x66 then some (n - 0x57)
  else none

def encodeByte (b : UInt8) : List Char :=
  if isPlain b then [Char.ofNat b.toNat]
  else ['%', hexDigit (b.toNat / 16), hexDigit (b.toNat % 16)]

/-- The bytes of the UTF-8 form. -/
def bytes (s : String) : List UInt8 := s.toByteArray.data.toList

def encode (s : String) : String := String.ofList ((bytes s).flatMap encodeByte)

/-- The bytes that an encoded text stands for; a character outside ASCII has no place in one. -/
def decodeBytes? : List Char → Option (List UInt8)
  | [] => some []
  | '%' :: a :: b :: rest => do
    let high ← hexValue? a
    let low ← hexValue? b
    return UInt8.ofNat (16 * high + low) :: (← decodeBytes? rest)
  | c :: rest =>
    if c.toNat < 0x80 then (decodeBytes? rest).map (UInt8.ofNat c.toNat :: ·) else none

/-- The text that an encoded text stands for. -/
def decode? (s : String) : Option String := do
  String.fromUTF8? (ByteArray.mk (← decodeBytes? s.toList).toArray)

end EventSearch.Text.Percent
