import UserFs.Reply.Answer
import UserFs.TreeFs.Refusal

/-!
# How refusals read

Every refusal has a number that can be sent (`errno_toError_ne_zero`), and its text tells
whether it is about an ID that is not live (`text_ne_notLive`): no name can be chosen such
that another refusal reads the same.
-/

namespace UserFs.TreeFs.Refusal

theorem toList_quoteBytes (bytes : List UInt8) :
    ∃ rest, (Text.quoteBytes bytes).toList = '"' :: rest := by
  refine ⟨(String.join ((Text.Utf8.pieces bytes).map Text.escapePiece)).toList ++ ['"'], ?_⟩
  simp [Text.quoteBytes, Text.between]

theorem toList_context_noSuchName (name : Name) :
    ∃ rest, (noSuchName name).context.toList = '"' :: rest :=
  toList_quoteBytes name.bytes

theorem toList_context_notLive (inode : InodeId) :
    ∃ rest, (notLive inode).context.toList = 'i' :: rest := by
  unfold context
  simp

theorem isEmpty_context (refusal : Refusal) : refusal.context.isEmpty = false := by
  rw [← Bool.not_eq_true, String.isEmpty_iff, ← String.toList_eq_nil_iff]
  cases refusal with
  | noSuchName name =>
    obtain ⟨rest, quoted⟩ := toList_context_noSuchName name
    rw [quoted]
    exact List.cons_ne_nil _ _
  | notADirectory inode =>
    unfold context
    simp [InodeId.text]
  | _ =>
    unfold context
    simp

theorem text_toError (refusal : Refusal) :
    refusal.toError.text = refusal.kind.text ++ ": " ++ refusal.context := by
  rw [FsError.text, toError, ErrorKind.toError, refusal.isEmpty_context,
    if_neg Bool.false_ne_true]

theorem errno_toError_ne_zero (refusal : Refusal) : refusal.toError.errno ≠ 0 := by
  show refusal.kind.posix.code ≠ 0
  cases refusal.kind <;> decide

/-- No other refusal reads like that of an ID that is not live. -/
theorem text_ne_notLive {refusal : Refusal} (other : ∀ inode, refusal ≠ .notLive inode)
    (inode : InodeId) : refusal.toError.text ≠ (Refusal.notLive inode).toError.text := by
  intro same
  rw [text_toError, text_toError] at same
  have letters := congrArg String.toList same
  obtain ⟨_, spelled⟩ := toList_context_notLive inode
  rw [String.toList_append, String.toList_append, String.toList_append, String.toList_append,
    spelled] at letters
  -- after the kind, the text goes on with the `i` of `inode`
  cases refusal with
  | notLive dead => exact other dead rfl
  | noSuchName name =>
    obtain ⟨rest, quoted⟩ := toList_context_noSuchName name
    -- a name is quoted, so whatever it is the text does not go on with a letter
    rw [quoted] at letters
    simp [kind, ErrorKind.text] at letters
  | _ =>
    unfold context at letters
    simp [kind, ErrorKind.text] at letters

end UserFs.TreeFs.Refusal
