import PresenceGateway.Json.Value
import PresenceGateway.Text.Blank
/-!
From a reported uncertainty to whole metres.

A number, or a text that is a decimal numeral with blanks around it, is truncated toward zero and
kept within the unsigned 32-bit range. Everything else, and a numeral beyond every binary64 number,
is zero.
-/
namespace PresenceGateway.Accuracy

open Json (Value)

def maximum : Nat := 0xFFFFFFFF

/-- The integer part of a number, between zero and the largest accuracy. -/
def clamp (x : Binary64) : Nat :=
  if x.negative then 0 else min x.truncated maximum

def ofNumeralText? (text : String) : Option Binary64 :=
  (Numeral.read? (Text.trimChars text.toList)).bind Binary64.ofNumeral?

def number? : Option Value → Option Binary64
  | some (.number value) => some value.toBinary64
  | some (.string text) => ofNumeralText? text
  | _ => none

def parse (uncertainty : Option Value) : Nat :=
  match number? uncertainty with
  | some x => clamp x
  | none => 0

end PresenceGateway.Accuracy
