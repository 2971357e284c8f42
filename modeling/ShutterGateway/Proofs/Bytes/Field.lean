import ShutterGateway.Proofs.Frame.Leading

/-!
Fields of a payload. A field is cut out of the parts that a payload is put together from by the
lengths of the parts before it, and what is read at its offset is what stands in it.
-/

namespace ShutterGateway

/-- A stretch of a payload. -/
def fieldAt (payload : Bytes) (offset size : Nat) : Bytes :=
  (payload.drop offset).take size

variable {payload front back : Bytes} {offset : Nat}

/-! ## Cutting fields out -/

/-- The part that stands at the start. -/
theorem fieldAt_front {size : Nat} (h : front.length = size) :
    fieldAt (front ++ back) 0 size = front := by
  rw [fieldAt, List.drop_zero, ← h, List.take_left]

/-- A field of two parts is one part behind the other. -/
theorem fieldAt_split (size more : Nat) (length : front.length = size)
    (h : fieldAt payload offset (size + more) = front ++ back) :
    fieldAt payload offset size = front ∧ fieldAt payload (offset + size) more = back := by
  unfold fieldAt at h ⊢
  rw [List.take_add, List.drop_drop] at h
  suffices whole : ((payload.drop offset).take size).length = size from
    List.append_inj h (whole.trans length.symm)
  -- A payload that ends within the first part has no bytes for the second one either.
  refine Decidable.byContradiction fun cut => ?_
  rw [List.length_take, List.length_drop] at cut
  have short : payload.length < offset + size := by omega
  have hlength := congrArg List.length h
  rw [List.drop_eq_nil_of_le (Nat.le_of_lt short), List.take_nil, List.append_nil,
    List.length_append, List.length_take, List.length_drop] at hlength
  omega

theorem fieldAt_cons {size : Nat} {b : UInt8} {rest : Bytes}
    (h : fieldAt payload offset (size + 1) = b :: rest) :
    fieldAt payload offset 1 = [b] ∧ fieldAt payload (offset + 1) size = rest := by
  rw [Nat.add_comm] at h
  exact fieldAt_split 1 size rfl h

/-! ## Reading fields -/

theorem byteAt_of_fieldAt {size : Nat} {b : UInt8} {rest : Bytes}
    (h : fieldAt payload offset size = b :: rest) : (byteAt payload offset : Id UInt8) = b := by
  have hbyte : payload[offset]? = some b := by
    have hhead := congrArg (·[0]?) h
    simp only [fieldAt, List.getElem?_take, List.getElem?_drop, List.getElem?_cons_zero] at hhead
    split at hhead
    · exact hhead
    · cases hhead
  show payload.getD offset 0 = b
  rw [List.getD_eq_getElem?_getD, hbyte, Option.getD_some]

theorem wordAt_of_fieldAt {w : UInt16} (h : fieldAt payload offset 2 = wordBytes w) :
    (wordAt payload offset : Id UInt16) = w := by
  unfold wordAt
  rw [byteAt_of_fieldAt h, byteAt_of_fieldAt (fieldAt_cons h).2]
  exact joinWord_wordBytes w

theorem longAt_of_fieldAt {w : UInt32} (h : fieldAt payload offset 4 = longBytes w) :
    (longAt payload offset : Id UInt32) = w := by
  have h₁ := (fieldAt_cons h).2
  have h₂ := (fieldAt_cons h₁).2
  have h₃ := (fieldAt_cons h₂).2
  unfold longAt
  rw [byteAt_of_fieldAt h, byteAt_of_fieldAt h₁, byteAt_of_fieldAt h₂, byteAt_of_fieldAt h₃]
  exact joinLong_longBytes w

end ShutterGateway
