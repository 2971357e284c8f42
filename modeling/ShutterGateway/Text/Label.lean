/-!
Names of the values of an enumeration. A value is either named or, when the enumeration has no
name for it, written by its number behind a common word. Each label has two spellings: the
diagnostic one keeps the capitals, `RollerShutter` or `Unknown(9)`, and the key separates the
words by underscores, `roller_shutter`.
-/

namespace ShutterGateway

/-- The label of a value of an enumeration. -/
inductive Label where
  | named (identifier : String)
  | numbered (identifier : String) (code : Nat)
  deriving DecidableEq, Repr

/-- The words of an identifier in capitals, in lower case and separated by underscores. -/
def snakeCase (identifier : String) : String :=
  match identifier.toList with
  | [] => ""
  | first :: rest =>
    String.ofList <| first.toLower :: rest.flatMap fun c =>
      if c.isUpper then ['_', c.toLower] else [c]

namespace Label

/-- The identifier of a label. -/
def identifier : Label → String
  | named identifier => identifier
  | numbered identifier _ => identifier

/-- The key of a label: its identifier in lower case, words separated by underscores. -/
def key (label : Label) : String :=
  snakeCase label.identifier

/-- The number of a value without a name of its own. -/
def number? : Label → Option Nat
  | named _ => none
  | numbered _ code => some code

/-- The diagnostic spelling of a label. -/
def diagnostic : Label → String
  | named identifier => identifier
  | numbered identifier code => s!"{identifier}({code})"

end Label

end ShutterGateway
