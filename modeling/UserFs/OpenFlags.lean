import UserFs.Text.Numeral

/-!
# Flags of an open

The kernel passes 32 bits along with every opendir. The two lowest are the access mode, in
which read-only is the value zero and so no bit that could be tested; the others are
independent flags. All bits are kept, those without a name too.
-/

namespace UserFs

/-- The 32 bits that come with an open. -/
structure OpenFlags where
  bits : BitVec 32
  deriving DecidableEq, Repr

namespace OpenFlags

/-- The flags whose bits are those of a number, in two's complement. -/
def ofInt (value : Int) : OpenFlags := ⟨BitVec.ofInt 32 value⟩

/-- The bits read as a number in two's complement. -/
def toInt (flags : OpenFlags) : Int := flags.bits.toInt

/-! ## Bits with a name -/

/-- The access mode that asks for reading alone: no bit at all. -/
def readOnly : OpenFlags := ⟨0x0⟩

def writeOnly : OpenFlags := ⟨0x1⟩
def readWrite : OpenFlags := ⟨0x2⟩
def create : OpenFlags := ⟨0x40⟩
def createExclusive : OpenFlags := ⟨0x80⟩
def noTerminalControl : OpenFlags := ⟨0x100⟩
def truncate : OpenFlags := ⟨0x200⟩
def appendMode : OpenFlags := ⟨0x400⟩
def nonBlockingMode : OpenFlags := ⟨0x800⟩
def syncDataOnly : OpenFlags := ⟨0x1000⟩
def syncDataAndMetadata : OpenFlags := ⟨0x101000⟩
def mustBeDirectory : OpenFlags := ⟨0x10000⟩
def doNotFollowSymlinks : OpenFlags := ⟨0x20000⟩
def closeOnExec : OpenFlags := ⟨0x80000⟩

/-- The bits of the access mode. -/
def accessMode : OpenFlags := ⟨0x3⟩

/-! ## Flags as sets of bits -/

/-- Whether all bits of `other` are set. -/
def contains (flags other : OpenFlags) : Bool := flags.bits &&& other.bits = other.bits

/-- Whether a bit of `other` is set. -/
def intersects (flags other : OpenFlags) : Bool := flags.bits &&& other.bits ≠ 0

def union (flags other : OpenFlags) : OpenFlags := ⟨flags.bits ||| other.bits⟩

def intersection (flags other : OpenFlags) : OpenFlags := ⟨flags.bits &&& other.bits⟩

/-- The bits of `flags` that are not in `other`. -/
def difference (flags other : OpenFlags) : OpenFlags := ⟨flags.bits &&& ~~~other.bits⟩

def symmetricDifference (flags other : OpenFlags) : OpenFlags := ⟨flags.bits ^^^ other.bits⟩

def complement (flags : OpenFlags) : OpenFlags := ⟨~~~flags.bits⟩

/-! ## What the flags ask for -/

/-- Whether the access mode is read-only. -/
def isReadOnly (flags : OpenFlags) : Bool := flags.bits &&& accessMode.bits = readOnly.bits

/-- Whether the access mode asks for writing, or another flag would change the target. -/
def requestsWrite (flags : OpenFlags) : Bool :=
  !flags.isReadOnly || flags.intersects ((truncate.union create).union appendMode)

/-! ## Flags in messages -/

/-- The names of the flags, in the order in which they are listed. -/
def named : List (String × OpenFlags) := [
  ("WRITE_ONLY", writeOnly),
  ("READ_WRITE", readWrite),
  ("CREATE", create),
  ("CREATE_EXCLUSIVE", createExclusive),
  ("NO_TERMINAL_CONTROL", noTerminalControl),
  ("TRUNCATE", truncate),
  ("APPEND_MODE", appendMode),
  ("NON_BLOCKING_MODE", nonBlockingMode),
  ("SYNC_DATA_ONLY", syncDataOnly),
  ("SYNC_DATA_AND_METADATA", syncDataAndMetadata),
  ("MUST_BE_DIRECTORY", mustBeDirectory),
  ("DO_NOT_FOLLOW_SYMLINKS", doNotFollowSymlinks),
  ("CLOSE_ON_EXEC", closeOnExec)]

/-- The names of the flags in `candidates` that `flags` contains and that cover a bit still
unnamed, followed by the bits that no name covers. -/
def namesOf (flags : OpenFlags) : List (String × OpenFlags) → OpenFlags → List String
  | [], unnamed =>
    if unnamed.bits = 0 then [] else ["0x" ++ Text.lowerHex unnamed.bits.toNat]
  | (name, flag) :: candidates, unnamed =>
    if flags.contains flag && unnamed.intersects flag then
      name :: namesOf flags candidates (unnamed.difference flag)
    else namesOf flags candidates unnamed

/-- The flags as they stand in messages. -/
def text (flags : OpenFlags) : String :=
  let names := namesOf flags named flags
  "OpenFlags(" ++ (if names.isEmpty then "0x0" else " | ".intercalate names) ++ ")"

end OpenFlags

end UserFs
