import UserFs.Text.Quoted

/-!
# File names

A name is what the kernel sends as one component of a path: any string of bytes, whether
or not it is a text. A path is a text; its components are the non-empty pieces between its
slashes.
-/

namespace UserFs

/-- One component of a path. -/
structure Name where
  bytes : List UInt8
  deriving DecidableEq, Repr

namespace Name

/-- The name that a text spells. -/
def ofString (text : String) : Name := ⟨Text.Utf8.encode text⟩

/-- The name `.` of a directory in itself. -/
def dot : Name := ⟨[0x2e]⟩

/-- The name `..` of a directory's parent. -/
def dotDot : Name := ⟨[0x2e, 0x2e]⟩

/-- The name in double quotes. -/
def quoted (name : Name) : String := Text.quoteBytes name.bytes

/-- What of a name reaches the filesystem: the kernel ends names with a zero byte. -/
def received (name : Name) : Name := ⟨name.bytes.takeWhile (· != 0)⟩

/-- Different texts are different names. -/
theorem ofString_injective {first second : String} (same : ofString first = ofString second) :
    first = second := by
  have bytes : Text.Utf8.encode first = Text.Utf8.encode second := congrArg Name.bytes same
  have pieces := congrArg Text.Utf8.pieces bytes
  rw [Text.Utf8.pieces_encode, Text.Utf8.pieces_encode] at pieces
  refine String.toList_inj.mp ((List.map_inj_right ?_).mp pieces)
  rintro one two ⟨⟩
  rfl

end Name

/-- The components of a path: what stands between slashes, empty pieces dropped. -/
def pathComponents (path : String) : List String :=
  ((path.toList.splitOn '/').filter fun piece => !piece.isEmpty).map String.ofList

end UserFs
