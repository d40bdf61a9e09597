import PresenceGateway.Text.Blank
import PresenceGateway.Text.Hidden
/-!
Quoted texts for diagnostics: double quotes around the text, with a backslash before a quote or a
backslash, short escapes for four controls, and a numbered escape for what cannot be shown.
-/
namespace PresenceGateway.Text

def numberedEscape (c : Char) : String :=
  "\\u\x7b" ++ hexadecimal c.toNat ++ "\x7d"

def quoteChar (c : Char) : String :=
  if c = '"' then "\\\""
  else if c = '\\' then "\\\\"
  else if c = '\n' then "\\n"
  else if c = '\r' then "\\r"
  else if c = '\t' then "\\t"
  else if c.toNat = 0 then "\\0"
  else if c.toNat < 0x20 ∨ c.toNat = 0x7F then numberedEscape c
  else if c.toNat < 0x7F then c.toString
  else if isHidden c then numberedEscape c
  else c.toString

def quote (text : String) : String :=
  "\"" ++ String.join (text.toList.map quoteChar) ++ "\""

def bracketed (items : List String) : String :=
  "[" ++ String.intercalate ", " items ++ "]"

end PresenceGateway.Text
