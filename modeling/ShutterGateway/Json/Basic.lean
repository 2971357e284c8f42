import ShutterGateway.Text.Hex

/-!
JSON documents. Numbers and strings are kept as they are written: a number as its digits, a
string as the characters between its quotation marks. What they mean is left to whoever wants
to know it, since that is where readers differ: a number may be too large for its purpose, and an
escape may stand for half a character.
-/

namespace ShutterGateway

/-- A number as it is written. A number without a fraction has no fraction digits. -/
structure Numeral where
  negative : Bool
  whole : List Char
  fraction : List Char
  /-- Whether the exponent is negative, and its digits. -/
  exponent? : Option (Bool × List Char)
  deriving DecidableEq, Repr

/-- A JSON document. -/
inductive Json where
  | null
  | bool (value : Bool)
  | number (numeral : Numeral)
  | string (literal : List Char)
  | array (items : List Json)
  | object (fields : List (List Char × Json))
  deriving Inhabited

namespace Numeral

/-- A natural number as it is written. -/
def ofNat (n : Nat) : Numeral :=
  ⟨false, Nat.toDigits 10 n, [], none⟩

/-- An integer as it is written. -/
def ofInt (n : Int) : Numeral :=
  { ofNat n.natAbs with negative := n < 0 }

/-- The text of a number. -/
def text (numeral : Numeral) : String :=
  let fraction := if numeral.fraction = [] then [] else '.' :: numeral.fraction
  let exponent :=
    match numeral.exponent? with
    | none => []
    | some (negative, digits) => if negative then 'e' :: '-' :: digits else 'e' :: digits
  String.ofList ((if numeral.negative then ['-'] else []) ++ numeral.whole ++ fraction ++ exponent)

/-- The value of decimal digits. -/
def digitsValue (digits : List Char) : Nat :=
  digits.foldl (fun n c => n * 10 + (c.toNat - '0'.toNat)) 0

/-- The number as a natural number. It has to be written as one: without a sign, a fraction or
an exponent. -/
def toNat? (numeral : Numeral) : Option Nat :=
  if numeral.negative ∨ numeral.fraction ≠ [] ∨ numeral.exponent?.isSome then none
  else some (digitsValue numeral.whole)

/-- The number as an integer. It has to be written as one: without a fraction or an exponent. -/
def toInt? (numeral : Numeral) : Option Int :=
  if numeral.fraction ≠ [] ∨ numeral.exponent?.isSome then none
  else if numeral.negative then some (-(digitsValue numeral.whole : Nat))
  else some (digitsValue numeral.whole)

end Numeral

namespace Json

/-- One character of a string, escaped where it has to be. -/
def escapeChar (c : Char) : List Char :=
  if c = '"' then ['\\', '"']
  else if c = '\\' then ['\\', '\\']
  else if c = '\n' then ['\\', 'n']
  else if c = '\r' then ['\\', 'r']
  else if c = '\t' then ['\\', 't']
  else if c = '\x08' then ['\\', 'b']
  else if c = '\x0c' then ['\\', 'f']
  else if c.toNat < 0x20 then ['\\', 'u'] ++ (zeroFilled 4 (hexDigits c.toNat)).toList
  else [c]

/-- The literal of a text. -/
def escape (text : String) : List Char :=
  text.toList.flatMap escapeChar

/-- A text as a string. -/
def ofString (text : String) : Json :=
  string (escape text)

/-- A natural number. -/
def ofNat (n : Nat) : Json :=
  number (.ofNat n)

/-- An integer. -/
def ofInt (n : Int) : Json :=
  number (.ofInt n)

/-- A value that may be missing. -/
def ofOption : Option Json → Json
  | some json => json
  | none => null

/-- An object with the given names and values. -/
def ofFields (fields : List (String × Json)) : Json :=
  object (fields.map fun (name, value) => (escape name, value))

/-- A string literal between its quotation marks. -/
def quote (literal : List Char) : String :=
  String.ofList ('"' :: literal ++ ['"'])

mutual

/-- The text of a document on one line. -/
def text : Json → String
  | null => "null"
  | bool value => if value then "true" else "false"
  | number numeral => numeral.text
  | string literal => quote literal
  | array items => "[" ++ ",".intercalate (itemTexts items) ++ "]"
  | object fields => "\x7b" ++ ",".intercalate (fieldTexts fields) ++ "\x7d"

/-- The texts of the items of an array. -/
def itemTexts : List Json → List String
  | [] => []
  | item :: rest => item.text :: itemTexts rest

/-- The texts of the fields of an object. -/
def fieldTexts : List (List Char × Json) → List String
  | [] => []
  | (name, value) :: rest => (quote name ++ ":" ++ value.text) :: fieldTexts rest

end

/-- A new line that starts with two blanks for each level. -/
def newLine (level : Nat) : String :=
  "\n" ++ String.ofList (List.replicate (2 * level) ' ')

/-- Entries between brackets, each on a line of its own. -/
def block (level : Nat) (opening closing : String) : List String → String
  | [] => opening ++ closing
  | entries =>
    opening ++ newLine (level + 1) ++ ("," ++ newLine (level + 1)).intercalate entries
      ++ newLine level ++ closing

mutual

/-- The text of a document with an entry on each line, at a level of nesting. -/
def prettyAt : Nat → Json → String
  | level, array items => block level "[" "]" (prettyItems level items)
  | level, object fields => block level "\x7b" "\x7d" (prettyFields level fields)
  | _, null => "null"
  | _, bool value => if value then "true" else "false"
  | _, number numeral => numeral.text
  | _, string literal => quote literal

/-- The texts of the items of an array at a level of nesting. -/
def prettyItems : Nat → List Json → List String
  | _, [] => []
  | level, item :: rest => prettyAt (level + 1) item :: prettyItems level rest

/-- The texts of the fields of an object at a level of nesting. -/
def prettyFields : Nat → List (List Char × Json) → List String
  | _, [] => []
  | level, (name, value) :: rest =>
    (quote name ++ ": " ++ prettyAt (level + 1) value) :: prettyFields level rest

end

/-- The text of a document with an entry on each line, indented by two blanks. -/
def pretty (json : Json) : String :=
  prettyAt 0 json

end Json

end ShutterGateway
