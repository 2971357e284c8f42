import ShutterGateway.Bytes.Reading

/-!
Reading inside the bytes. A layout is run in the plain and in the checked way of reading, and the
two agree exactly as long as every byte that is looked at is there. The agreement is put together
as a layout is: from single bytes, numbers and slices whose last byte is there, one after another.
-/

namespace ShutterGateway

variable {α β : Type}

/-- The checked way finds every byte that it looks at, and gives what the plain way gives. -/
def InRange (checked : Except OutOfRange α) (plain : Id α) : Prop :=
  checked = .ok plain.run

theorem InRange.pure (a : α) : InRange (Pure.pure a) (Pure.pure a) := rfl

/-- What is read first may decide what is read next. -/
theorem InRange.bind {checked : Except OutOfRange α} {plain : Id α}
    {checkedNext : α → Except OutOfRange β} {plainNext : α → Id β} (first : InRange checked plain)
    (next : InRange (checkedNext plain.run) (plainNext plain.run)) :
    InRange (checked >>= checkedNext) (plain >>= plainNext) := by
  unfold InRange at first next ⊢
  rw [first]
  exact next

theorem inRange_byteAt {bytes : Bytes} {offset : Nat} (h : offset < bytes.length) :
    InRange (byteAt bytes offset) (byteAt bytes offset) := by
  simp [InRange, byteAt, Id.run, h]

theorem inRange_wordAt {bytes : Bytes} {offset : Nat} (h : offset + 1 < bytes.length) :
    InRange (wordAt bytes offset) (wordAt bytes offset) := by
  refine (inRange_byteAt (by omega)).bind ?_
  exact (inRange_byteAt h).bind (.pure _)

theorem inRange_sliceAt {bytes : Bytes} {offset size : Nat} (h : offset + size ≤ bytes.length) :
    InRange (sliceAt bytes offset size) (sliceAt bytes offset size) := by
  induction size generalizing offset with
  | zero => exact .pure []
  | succ size ih =>
    refine (inRange_byteAt (by omega)).bind ?_
    exact (ih (by omega)).bind (.pure _)

end ShutterGateway
