import ShutterGateway.Bytes.Reading

/-!
Reading with narrow offsets. This way of reading reports a byte that is not there, as the checked
way does, and also an offset that does not fit sixteen bits, the least that a machine counts
offsets in. A layout that never fails under it looks only at bytes that are there, and no sum that
it makes of offsets is ever too large.
-/

namespace ShutterGateway

/-- What is read, or the first offset that is too large or lies outside. -/
def Narrow (α : Type) : Type := Except OutOfRange α

instance : Monad Narrow := inferInstanceAs (Monad (Except OutOfRange))

instance : LawfulMonad Narrow := inferInstanceAs (LawfulMonad (Except OutOfRange))

instance : Reading Narrow where
  byteAt bytes offset :=
    match bytes[offset]? with
    | some b => if offset < 65536 then Except.ok b else Except.error ⟨offset, bytes.length⟩
    | none => Except.error ⟨offset, bytes.length⟩

namespace Narrow

variable {bytes : Bytes} {offset size : Nat}

/-! Where the bytes are there and the offsets are small, what is read is what plain reading
gives. -/

theorem byteAt_eq (inside : offset < bytes.length) (small : offset < 65536) :
    (byteAt bytes offset : Narrow UInt8) = pure (Id.run (byteAt bytes offset)) := by
  simp [byteAt, Id.run, inside, small]
  rfl

theorem wordAt_eq (inside : offset + 1 < bytes.length) (small : offset + 1 < 65536) :
    (wordAt bytes offset : Narrow UInt16) = pure (Id.run (wordAt bytes offset)) := by
  unfold wordAt
  rw [byteAt_eq (by omega) (by omega), byteAt_eq inside small]
  rfl

theorem longAt_eq (inside : offset + 3 < bytes.length) (small : offset + 3 < 65536) :
    (longAt bytes offset : Narrow UInt32) = pure (Id.run (longAt bytes offset)) := by
  unfold longAt
  rw [byteAt_eq (by omega) (by omega), byteAt_eq (by omega) (by omega),
    byteAt_eq (by omega) (by omega), byteAt_eq inside small]
  rfl

theorem sliceAt_eq (inside : offset + size ≤ bytes.length) (small : offset + size ≤ 65536) :
    (sliceAt bytes offset size : Narrow Bytes) = pure (Id.run (sliceAt bytes offset size)) := by
  induction size generalizing offset with
  | zero => rfl
  | succ size ih =>
    unfold sliceAt
    rw [byteAt_eq (by omega) (by omega), ih (by omega) (by omega)]
    rfl

end Narrow

end ShutterGateway
