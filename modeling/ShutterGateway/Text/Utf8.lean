import ShutterGateway.Bytes.Basic

/-!
Text as UTF-8 bytes. Reading never fails: each part of the bytes that is not the encoding of a
character is read as one replacement character, where a part reaches as far as the bytes still
look like the start of a character. The main fact is that written text is read back.
-/

namespace ShutterGateway

/-- The UTF-8 bytes of a text. -/
def utf8 (text : String) : Bytes :=
  text.toList.flatMap String.utf8EncodeChar

namespace Utf8

/-- The character that stands for bytes that are no text. -/
def replacement : Char := '\ufffd'

/-- The character at the start of the bytes. -/
def leadingChar? (bytes : Bytes) : Option Char :=
  bytes.toByteArray.utf8DecodeChar? 0

/-- Whether a byte continues a character. -/
def isContinuation (byte : UInt8) : Bool :=
  0x80 ≤ byte && byte ≤ 0xbf

/-- Whether the second byte can follow the first in the encoding of a character of three or four
bytes. The narrower ranges keep out longer spellings of shorter characters, surrogates and
numbers that are too large. -/
def canFollow (first second : UInt8) : Bool :=
  if first == 0xe0 then 0xa0 ≤ second && second ≤ 0xbf
  else if first == 0xed then 0x80 ≤ second && second ≤ 0x9f
  else if first == 0xf0 then 0x90 ≤ second && second ≤ 0xbf
  else if first == 0xf4 then 0x80 ≤ second && second ≤ 0x8f
  else 0xe1 ≤ first && first ≤ 0xf3 && isContinuation second

/-- The number of bytes that are read as one replacement character where no character starts. -/
def brokenLength : Bytes → Nat
  | first :: second :: third :: _ =>
    if canFollow first second then
      if 0xf0 ≤ first && isContinuation third then 3 else 2
    else 1
  | [first, second] => if canFollow first second then 2 else 1
  | _ => 1

/-- The characters of the bytes after the first `skipped` ones. -/
def charsAfter : Nat → Bytes → List Char
  | _, [] => []
  | skipped + 1, _ :: rest => charsAfter skipped rest
  | 0, byte :: rest =>
    match leadingChar? (byte :: rest) with
    | some c => c :: charsAfter (c.utf8Size - 1) rest
    | none => replacement :: charsAfter (brokenLength (byte :: rest) - 1) rest

/-- The text of the bytes. -/
def decode (bytes : Bytes) : String :=
  String.ofList (charsAfter 0 bytes)

theorem leadingChar?_append (c : Char) (rest : Bytes) :
    leadingChar? (String.utf8EncodeChar c ++ rest) = some c := by
  unfold leadingChar?
  rw [List.toByteArray_append]
  exact ByteArray.utf8DecodeChar?_utf8EncodeChar_append

theorem charsAfter_append (skipped rest : Bytes) :
    charsAfter skipped.length (skipped ++ rest) = charsAfter 0 rest := by
  induction skipped with
  | nil => rfl
  | cons b skipped ih => simpa [charsAfter] using ih

theorem charsAfter_encode (chars : List Char) :
    charsAfter 0 (chars.flatMap String.utf8EncodeChar) = chars := by
  induction chars with
  | nil => rfl
  | cons c chars ih =>
    obtain ⟨b, tail, htail⟩ :=
      List.exists_cons_of_ne_nil (String.utf8EncodeChar_ne_nil (c := c))
    have hlead := leadingChar?_append c (chars.flatMap String.utf8EncodeChar)
    have hsize : c.utf8Size - 1 = tail.length := by
      have := String.length_utf8EncodeChar c
      simp only [htail, List.length_cons] at this
      omega
    rw [List.flatMap_cons, htail, List.cons_append, charsAfter, ← List.cons_append, ← htail, hlead]
    simp only
    rw [hsize, charsAfter_append, ih]

/-- Written text is read back. -/
@[simp] theorem decode_utf8 (text : String) : decode (utf8 text) = text := by
  simp [decode, utf8, charsAfter_encode]

end Utf8

end ShutterGateway
