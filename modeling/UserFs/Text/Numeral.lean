/-!
# Hexadecimal numerals

Numbers in messages are decimal, but code points, flag bits and the identifiers the kernel
sent are hexadecimal: without leading zeros, or with a fixed count of digits for a byte.
-/

namespace UserFs.Text

/-- The hexadecimal digits of a number in lower case, without leading zeros; `0` is `0`. -/
def lowerHex (value : Nat) : String := String.ofList (Nat.toDigits 16 value)

/-- The two hexadecimal digits of a byte, in upper case. -/
def byteHex (byte : UInt8) : String :=
  String.ofList [digit (byte.toNat / 16), digit (byte.toNat % 16)]
where
  /-- A digit below sixteen. -/
  digit (value : Nat) : Char := (Nat.digitChar value).toUpper

end UserFs.Text
