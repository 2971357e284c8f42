import ShutterGateway.Text.Hex
import ShutterGateway.Text.Invisible

/-!
Quoted text in diagnostics. The text stands between quotation marks; marks and backslashes in it
stand behind a backslash, the usual controls have a letter, and every other character that
cannot be seen on its own is written by its number.
-/

namespace ShutterGateway

/-- One character of a quoted text. -/
def quotedChar (c : Char) : String :=
  if c = '\x00' then "\\0"
  else if c = '\t' then "\\t"
  else if c = '\r' then "\\r"
  else if c = '\n' then "\\n"
  else if c = '"' then "\\\""
  else if c = '\\' then "\\\\"
  else if isInvisible c then "\\u\x7b" ++ hexDigits c.toNat ++ "\x7d"
  else c.toString

/-- A text between quotation marks. -/
def quoted (text : String) : String :=
  "\"" ++ String.join (text.toList.map quotedChar) ++ "\""

end ShutterGateway
