/-!
Byte strings as they travel over the wire. Numbers are big-endian: the most significant byte
comes first. The main facts are that a sixteen-bit number is exactly its two bytes, in both
directions, and that the checksum of a concatenation is the exclusive or of the checksums.
-/

namespace ShutterGateway

/-- A string of bytes, in wire order. -/
abbrev Bytes := List UInt8

/-- The sixteen-bit number whose most significant byte is `hi`. -/
def joinWord (hi lo : UInt8) : UInt16 :=
  UInt16.ofNat (hi.toNat * 256 + lo.toNat)

/-- The two bytes of a sixteen-bit number, most significant first. -/
def wordBytes (w : UInt16) : Bytes :=
  [UInt8.ofNat (w.toNat / 256), UInt8.ofNat (w.toNat % 256)]

/-- The four bytes of a thirty-two-bit number, most significant first. -/
def longBytes (w : UInt32) : Bytes :=
  [UInt8.ofNat (w.toNat / 16777216), UInt8.ofNat (w.toNat / 65536 % 256),
    UInt8.ofNat (w.toNat / 256 % 256), UInt8.ofNat (w.toNat % 256)]

/-- The thirty-two-bit number with these four bytes, most significant first. -/
def joinLong (b₃ b₂ b₁ b₀ : UInt8) : UInt32 :=
  UInt32.ofNat (b₃.toNat * 16777216 + b₂.toNat * 65536 + b₁.toNat * 256 + b₀.toNat)

/-- The exclusive or of all bytes, zero for none. -/
def xorSum (bytes : Bytes) : UInt8 :=
  bytes.foldl (· ^^^ ·) 0

/-- A field of `size` bytes that holds `bytes` followed by zeros. A longer text is cut. -/
def padded (size : Nat) (bytes : Bytes) : Bytes :=
  bytes.take size ++ List.replicate (size - bytes.length) 0

@[simp] theorem length_wordBytes (w : UInt16) : (wordBytes w).length = 2 := rfl

@[simp] theorem length_longBytes (w : UInt32) : (longBytes w).length = 4 := rfl

@[simp] theorem length_padded (size : Nat) (bytes : Bytes) :
    (padded size bytes).length = size := by
  simp [padded]
  omega

theorem toNat_joinWord (hi lo : UInt8) :
    (joinWord hi lo).toNat = hi.toNat * 256 + lo.toNat := by
  have hhi := hi.toNat_lt
  have hlo := lo.toNat_lt
  simp only [joinWord, UInt16.toNat_ofNat']
  omega

@[simp] theorem joinWord_wordBytes (w : UInt16) :
    joinWord (UInt8.ofNat (w.toNat / 256)) (UInt8.ofNat (w.toNat % 256)) = w := by
  have hw := w.toNat_lt
  apply UInt16.toNat_inj.mp
  simp only [toNat_joinWord, UInt8.toNat_ofNat']
  omega

@[simp] theorem wordBytes_joinWord (hi lo : UInt8) : wordBytes (joinWord hi lo) = [hi, lo] := by
  have hhi := hi.toNat_lt
  have hlo := lo.toNat_lt
  simp only [wordBytes, toNat_joinWord, List.cons.injEq, and_true]
  constructor <;> apply UInt8.toNat_inj.mp <;> simp only [UInt8.toNat_ofNat'] <;> omega

@[simp] theorem joinLong_longBytes (w : UInt32) :
    joinLong (UInt8.ofNat (w.toNat / 16777216)) (UInt8.ofNat (w.toNat / 65536 % 256))
      (UInt8.ofNat (w.toNat / 256 % 256)) (UInt8.ofNat (w.toNat % 256)) = w := by
  have hw := w.toNat_lt
  apply UInt32.toNat_inj.mp
  simp only [joinLong, UInt32.toNat_ofNat', UInt8.toNat_ofNat']
  omega

theorem foldl_xor (start : UInt8) (bytes : Bytes) :
    bytes.foldl (· ^^^ ·) start = start ^^^ xorSum bytes := by
  induction bytes generalizing start with
  | nil => simp [xorSum]
  | cons b rest ih =>
    simp only [xorSum, List.foldl_cons, UInt8.zero_xor]
    rw [ih, ih b, UInt8.xor_assoc]

@[simp] theorem xorSum_nil : xorSum [] = 0 := rfl

@[simp] theorem xorSum_append (a b : Bytes) : xorSum (a ++ b) = xorSum a ^^^ xorSum b := by
  simp only [xorSum, List.foldl_append]
  exact foldl_xor _ _

theorem xorSum_singleton (b : UInt8) : xorSum [b] = b := by
  simp [xorSum]

end ShutterGateway
