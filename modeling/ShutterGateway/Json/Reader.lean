import ShutterGateway.Json.Basic

/-!
Reading JSON documents. The grammar is the strict one: no comments, no trailing commas, no signs
or zeros in front of a number, no controls inside a string. A string is read as it is written;
`Json.unescape?` says what text it stands for, if it stands for any.
-/

namespace ShutterGateway.Json

/-- Whether a character may stand between the parts of a document. -/
def isGap (c : Char) : Bool :=
  c = ' ' || c = '\n' || c = '\t' || c = '\r'

/-- Drops the characters between two parts of a document. -/
def skipGap (chars : List Char) : List Char :=
  chars.dropWhile isGap

/-- The value of a hexadecimal digit. -/
def hexValue? (c : Char) : Option Nat :=
  if '0' ≤ c ∧ c ≤ '9' then some (c.toNat - '0'.toNat)
  else if 'a' ≤ c ∧ c ≤ 'f' then some (c.toNat - 'a'.toNat + 10)
  else if 'A' ≤ c ∧ c ≤ 'F' then some (c.toNat - 'A'.toNat + 10)
  else none

/-- The value of four hexadecimal digits. -/
def hexUnit? (a b c d : Char) : Option Nat := do
  return (((← hexValue? a) * 16 + (← hexValue? b)) * 16 + (← hexValue? c)) * 16 + (← hexValue? d)

/-- The character that a letter behind a backslash stands for. -/
def shortEscape? : Char → Option Char
  | '"' => some '"'
  | '\\' => some '\\'
  | '/' => some '/'
  | 'b' => some '\x08'
  | 'f' => some '\x0c'
  | 'n' => some '\n'
  | 'r' => some '\r'
  | 't' => some '\t'
  | _ => none

/-- Splits the characters behind an opening quotation mark into the literal and what follows the
closing mark. -/
def takeLiteral : List Char → Option (List Char × List Char)
  | [] => none
  | '"' :: rest => some ([], rest)
  | '\\' :: 'u' :: a :: b :: c :: d :: rest =>
    if (hexUnit? a b c d).isSome then
      (takeLiteral rest).map fun (literal, after) =>
        ('\\' :: 'u' :: a :: b :: c :: d :: literal, after)
    else none
  | '\\' :: c :: rest =>
    if (shortEscape? c).isSome then
      (takeLiteral rest).map fun (literal, after) => ('\\' :: c :: literal, after)
    else none
  | c :: rest =>
    if c.toNat < 0x20 ∨ c = '\\' then none
    else (takeLiteral rest).map fun (literal, after) => (c :: literal, after)

/-- The text that a literal stands for. Two escaped halves of a character count as the character;
a half alone stands for nothing. -/
def unescape? : List Char → Option (List Char)
  | [] => some []
  | '\\' :: 'u' :: a :: b :: c :: d :: rest =>
    match hexUnit? a b c d with
    | none => none
    | some high =>
      if high < 0xd800 ∨ 0xe000 ≤ high then (unescape? rest).map (Char.ofNat high :: ·)
      else if 0xdc00 ≤ high then none
      else
        match rest with
        | '\\' :: 'u' :: a' :: b' :: c' :: d' :: rest =>
          match hexUnit? a' b' c' d' with
          | none => none
          | some low =>
            if 0xdc00 ≤ low ∧ low < 0xe000 then
              (unescape? rest).map
                (Char.ofNat (0x10000 + (high - 0xd800) * 0x400 + (low - 0xdc00)) :: ·)
            else none
        | _ => none
  | '\\' :: c :: rest =>
    match shortEscape? c with
    | none => none
    | some short => (unescape? rest).map (short :: ·)
  | c :: rest => (unescape? rest).map (c :: ·)

/-- Splits a number off the front. The whole part is zero or starts with another digit; a
fraction and an exponent have at least one digit. -/
def takeNumeral (chars : List Char) : Option (Numeral × List Char) :=
  let (negative, chars) := if chars.head? = some '-' then (true, chars.drop 1) else (false, chars)
  let whole := chars.takeWhile Char.isDigit
  let chars := chars.dropWhile Char.isDigit
  if whole = [] ∨ (whole.head? = some '0' ∧ whole.length ≠ 1) then none
  else
    let hasFraction := chars.head? = some '.'
    let fraction := if hasFraction then (chars.drop 1).takeWhile Char.isDigit else []
    let chars := if hasFraction then (chars.drop 1).dropWhile Char.isDigit else chars
    if hasFraction ∧ fraction = [] then none
    else if chars.head? = some 'e' ∨ chars.head? = some 'E' then
      let chars := chars.drop 1
      let negativeExponent := chars.head? = some '-'
      let chars := if negativeExponent ∨ chars.head? = some '+' then chars.drop 1 else chars
      let digits := chars.takeWhile Char.isDigit
      if digits = [] then none
      else
        some (⟨negative, whole, fraction, some (negativeExponent, digits)⟩,
          chars.dropWhile Char.isDigit)
    else some (⟨negative, whole, fraction, none⟩, chars)

mutual

/-- Splits a document off the front. The number bounds the depth of the recursion. -/
def takeValue : Nat → List Char → Option (Json × List Char)
  | 0, _ => none
  | fuel + 1, chars =>
    match skipGap chars with
    | 'n' :: 'u' :: 'l' :: 'l' :: rest => some (null, rest)
    | 't' :: 'r' :: 'u' :: 'e' :: rest => some (bool true, rest)
    | 'f' :: 'a' :: 'l' :: 's' :: 'e' :: rest => some (bool false, rest)
    | '"' :: rest => (takeLiteral rest).map fun (literal, rest) => (string literal, rest)
    | '[' :: rest =>
      match skipGap rest with
      | ']' :: rest => some (array [], rest)
      | rest => (takeItems fuel rest).map fun (items, rest) => (array items, rest)
    | '\x7b' :: rest =>
      match skipGap rest with
      | '\x7d' :: rest => some (object [], rest)
      | rest => (takeFields fuel rest).map fun (fields, rest) => (object fields, rest)
    | chars => (takeNumeral chars).map fun (numeral, rest) => (number numeral, rest)

/-- Splits the items of an array and its closing bracket off the front. -/
def takeItems : Nat → List Char → Option (List Json × List Char)
  | 0, _ => none
  | fuel + 1, chars =>
    match takeValue fuel chars with
    | none => none
    | some (item, rest) =>
      match skipGap rest with
      | ']' :: rest => some ([item], rest)
      | ',' :: rest => (takeItems fuel rest).map fun (items, rest) => (item :: items, rest)
      | _ => none

/-- Splits the fields of an object and its closing bracket off the front. -/
def takeFields : Nat → List Char → Option (List (List Char × Json) × List Char)
  | 0, _ => none
  | fuel + 1, chars =>
    match skipGap chars with
    | '"' :: rest =>
      match takeLiteral rest with
      | none => none
      | some (name, rest) =>
        match skipGap rest with
        | ':' :: rest =>
          match takeValue fuel rest with
          | none => none
          | some (value, rest) =>
            match skipGap rest with
            | '\x7d' :: rest => some ([(name, value)], rest)
            | ',' :: rest =>
              (takeFields fuel rest).map fun (fields, rest) => ((name, value) :: fields, rest)
            | _ => none
        | _ => none
    | _ => none

end

/-- Reads a text that is one document. Each step of the recursion takes at least one character or
hands over to one that does, so twice the number of characters bounds it. -/
def read? (text : String) : Option Json :=
  let chars := text.toList
  match takeValue (2 * chars.length + 2) chars with
  | some (json, rest) => if skipGap rest = [] then some json else none
  | none => none

/-- The text of a string. -/
def toText? : Json → Option String
  | string literal => (unescape? literal).map String.ofList
  | _ => none

end ShutterGateway.Json
