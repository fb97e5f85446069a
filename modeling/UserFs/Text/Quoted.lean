import UserFs.Text.DefaultIgnorable
import UserFs.Text.ExtendingMarks
import UserFs.Text.Numeral
import UserFs.Text.Unprintable
import UserFs.Text.Utf8

/-!
# Quoted texts

Messages show names and paths between double quotes, with every character escaped that
would end the quotation or could not be seen. A quoted byte string shows its characters in
the same way and its stray bytes as two hexadecimal digits; on the bytes of a text the two
agree (`quoteBytes_encode`).
-/

namespace UserFs.Text

/-- Whether a character is shown as it is. Past ASCII it must have a visible form, be more
than ignored in display, and have a place of its own. -/
def isVisible (character : Char) : Bool :=
  let codePoint := character.toNat
  if codePoint < 0x7f then 0x20 ≤ codePoint
  else !unprintable.contains codePoint && !defaultIgnorable.contains codePoint &&
    !extendingMarks.contains codePoint

/-- A character as it stands between the quotes. Single quotes are left alone. -/
def escapeChar (character : Char) : String :=
  match character with
  | '\x00' => "\\0"
  | '\t' => "\\t"
  | '\r' => "\\r"
  | '\n' => "\\n"
  | '\"' => "\\\""
  | '\\' => "\\\\"
  | other => if isVisible other then other.toString else "\\u\x7b" ++ lowerHex other.toNat ++ "\x7d"

/-- A stray byte as it stands between the quotes. -/
def escapeByte (byte : UInt8) : String := "\\x" ++ byteHex byte

/-- A part of a byte string as it stands between the quotes. -/
def escapePiece : Utf8.Piece → String
  | .character value => escapeChar value
  | .stray byte => escapeByte byte

/-- Puts the escaped parts between double quotes. -/
def between (parts : List String) : String := "\"" ++ String.join parts ++ "\""

/-- A text in double quotes. -/
def quote (text : String) : String := between (text.toList.map escapeChar)

/-- A byte string in double quotes. -/
def quoteBytes (bytes : List UInt8) : String := between ((Utf8.pieces bytes).map escapePiece)

theorem quoteBytes_encode (text : String) : quoteBytes (Utf8.encode text) = quote text := by
  rw [quoteBytes, Utf8.pieces_encode, List.map_map]
  rfl

end UserFs.Text
