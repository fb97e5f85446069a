/-!
# Byte strings read as UTF-8

`encode` writes a text as bytes. `pieces` reads any bytes back: the characters that are
there, and one stray byte for each byte that is part of no character. On what `encode`
writes it finds the characters of the text and nothing else (`pieces_encode`).
-/

namespace UserFs.Text.Utf8

/-- The UTF-8 bytes of a list of characters. -/
def encodeChars (characters : List Char) : List UInt8 :=
  characters.flatMap String.utf8EncodeChar

/-- The UTF-8 bytes of a text. -/
def encode (text : String) : List UInt8 := encodeChars text.toList

/-- A part of a byte string. -/
inductive Piece where
  /-- The bytes of one character. -/
  | character (value : Char)
  /-- A byte that belongs to no character. -/
  | stray (byte : UInt8)
  deriving DecidableEq, Repr

/-- The character at the front of a byte string, if its bytes are well-formed. -/
def front? (bytes : List UInt8) : Option Char := bytes.toByteArray.utf8DecodeChar? 0

/-- The parts of a byte string, from left to right. -/
def pieces : List UInt8 → List Piece
  | [] => []
  | byte :: rest =>
    match front? (byte :: rest) with
    | some character => .character character :: pieces (rest.drop (character.utf8Size - 1))
    | none => .stray byte :: pieces rest
termination_by bytes => bytes.length
decreasing_by
  · simp only [List.length_drop, List.length_cons]; omega
  · simp

theorem front?_utf8EncodeChar_append (character : Char) (rest : List UInt8) :
    front? (String.utf8EncodeChar character ++ rest) = some character := by
  rw [front?, List.toByteArray_append]
  exact ByteArray.utf8DecodeChar?_utf8EncodeChar_append

/-- The bytes of one character are at least one byte. -/
theorem exists_utf8EncodeChar_eq_cons (character : Char) :
    ∃ first more, String.utf8EncodeChar character = first :: more ∧
      more.length = character.utf8Size - 1 := by
  have length := String.length_utf8EncodeChar character
  cases bytes : String.utf8EncodeChar character with
  | nil =>
    have positive := character.utf8Size_pos
    rw [bytes, List.length_nil] at length
    omega
  | cons first more =>
    rw [bytes, List.length_cons] at length
    exact ⟨first, more, rfl, by omega⟩

/-- Reading what was written finds the characters of the text. -/
theorem pieces_encodeChars (characters : List Char) :
    pieces (encodeChars characters) = characters.map .character := by
  induction characters with
  | nil => simp [encodeChars, pieces]
  | cons character rest ih =>
    obtain ⟨first, more, bytes, length⟩ := exists_utf8EncodeChar_eq_cons character
    have whole : encodeChars (character :: rest) = first :: (more ++ encodeChars rest) := by
      simp [encodeChars, bytes]
    have found : front? (first :: (more ++ encodeChars rest)) = some character := by
      rw [← List.cons_append, ← bytes]
      exact front?_utf8EncodeChar_append character _
    rw [whole, pieces]
    simp [found, ← length, ih]

theorem pieces_encode (text : String) : pieces (encode text) = text.toList.map .character :=
  pieces_encodeChars text.toList

end UserFs.Text.Utf8
