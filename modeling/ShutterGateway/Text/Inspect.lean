/-!
Diagnostic text of structured values: records with named fields, variants with arguments, and
lists, each written on one line.
-/

namespace ShutterGateway

/-- The shape of a value in a diagnostic text. -/
inductive Inspect where
  /-- A text as it stands. -/
  | atom (text : String)
  /-- A name with named fields. -/
  | record (name : String) (fields : List (String × Inspect))
  /-- A name with arguments. -/
  | variant (name : String) (arguments : List Inspect)
  | list (items : List Inspect)

namespace Inspect

mutual

/-- The text of a value. -/
def text : Inspect → String
  | atom text => text
  | record name fields => name ++ " \x7b " ++ ", ".intercalate (fieldTexts fields) ++ " \x7d"
  | variant name arguments => name ++ "(" ++ ", ".intercalate (texts arguments) ++ ")"
  | list items => "[" ++ ", ".intercalate (texts items) ++ "]"

/-- The texts of some values. -/
def texts : List Inspect → List String
  | [] => []
  | item :: rest => item.text :: texts rest

/-- The texts of some fields, each behind its name. -/
def fieldTexts : List (String × Inspect) → List String
  | [] => []
  | (name, value) :: rest => (name ++ ": " ++ value.text) :: fieldTexts rest

end

/-- A number. -/
def nat (n : Nat) : Inspect := atom (toString n)

/-- A truth value. -/
def bool (b : Bool) : Inspect := atom (if b then "true" else "false")

/-- A value that may be missing. -/
def option : Option Inspect → Inspect
  | some value => variant "Some" [value]
  | none => atom "None"

end Inspect

end ShutterGateway
