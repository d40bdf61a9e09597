import PresenceGateway.Decimal.Numeral
import PresenceGateway.Log.Event
import PresenceGateway.Log.ValuePattern
import PresenceGateway.Text.Utf8
/-!
Which log events are written.

A filter is a list of directives between commas. A directive gives a level to the events of some
targets, and perhaps only to those with a certain field: `info`, `name=debug`, `name[{field}]=warn`.
Of the directives that concern an event the most specific one decides, and an event that none
concerns is not written.
-/
namespace PresenceGateway.Log

/-- The level up to which events are written. There is none when nothing is written. -/
abbrev Threshold := Option Level

namespace Threshold

def numbered : List Threshold :=
  [none, some .error, some .warn, some .info, some .debug, some .trace]

def parse? (text : String) : Option Threshold :=
  match Numeral.natural? 6 text with
  | some number => numbered[number]?
  | none =>
    let word := Text.asciiLower text
    if word = "off" then some none
    else (numbered.filter Option.isSome).find? fun threshold =>
      threshold.any fun level => word = Text.asciiLower level.text

def accepts (threshold : Threshold) (level : Level) : Bool :=
  threshold.any fun most => level.rank ≤ most.rank

end Threshold

/-! ### Directives -/

/-- A directive. Without a target it concerns all of them, and it concerns only events that have all its
fields. One that asks for a span or for the value of a field is idle: no event of this program meets it. -/
structure Directive where
  target : Option String
  fields : List String
  idle : Bool
  threshold : Threshold

namespace Directive

/-- Whether a directive concerns an event: the target of the event begins with that of the
directive. -/
def concerns (directive : Directive) (event : Event) : Bool :=
  !directive.idle
    && (directive.target.all fun target => target.toList.isPrefixOf event.target.text.toList)
    && directive.fields.all fun name => name == "message" || (event.field? name).isSome

def reach (directive : Directive) : Nat :=
  (directive.target.map fun target => target.utf8ByteSize + 1).getD 0

/-- Whether a directive gives way to another one: to one with a longer target, then to one with more
fields, and then to one that comes later by its target and its fields. -/
def yields (directive other : Directive) : Bool :=
  if directive.reach ≠ other.reach then directive.reach < other.reach
  else if directive.fields.length ≠ other.fields.length then
    directive.fields.length < other.fields.length
  else if directive.target ≠ other.target then directive.target.getD "" < other.target.getD ""
  else directive.fields < other.fields

/-! ### Reading directives -/

def canBegin (c : Char) : Bool :=
  c == '-' || c == ':' || c == '_' || Text.isAlphanumeric c

def readThreshold (text : String) : Option Threshold :=
  if text.isEmpty then some (some .trace) else Threshold.parse? text

def canAsk (value : List Char) : Bool :=
  ValuePattern.isUnderstood value || (Numeral.read? value).isSome
    || ["+inf", "+infinity", "+nan"].contains (Text.asciiLower (String.ofList value))

def readField (text : List Char) : Option (String × Bool) :=
  match Text.splitChars '=' text with
  | name :: value :: _ => if canAsk value then some (String.ofList name, true) else none
  | _ => if text.isEmpty then none else some (String.ofList text, false)

inductive Place where
  | start
  | name (first : Nat)
  | span (first : Nat)
  | field (first : Nat)
  | fields
  | target
  | threshold (first : Nat)

structure Draft where
  place : Place
  target : Option String
  inSpan : Bool
  byValue : Bool
  fields : List String

def part (whole : List UInt8) (first last : Nat) : String :=
  Text.Utf8.decodeLossy ((whole.drop first).take (last - first))

def step? (whole : List UInt8) (draft : Draft) (here : Nat) (c : Char) : Option Draft :=
  match draft.place with
  | .start =>
    if c = '[' then some { draft with place := .span (here + 1) }
    else if canBegin c then some { draft with place := .name here }
    else none
  | .name first =>
    let named := { draft with target := some (part whole first here) }
    if c = '=' then some { named with place := .threshold (here + 1) }
    else if c = '[' then some { named with place := .span (here + 1) }
    else some draft
  | .span first =>
    if c = ']' then some { draft with place := .target, inSpan := true }
    else if c = '{' then some { draft with place := .field (here + 1), inSpan := first < here }
    else some draft
  | .field first =>
    if c = '}' then
      (readField (part whole first here).toList).map fun asked =>
        { draft with
          place := .fields
          byValue := draft.byValue || asked.2
          fields := draft.fields ++ [asked.1] }
    else some draft
  | .fields => if c = ']' then some { draft with place := .target } else none
  | .target =>
    if c = '=' then some { draft with place := .threshold (here + 1) }
    else if c = '[' then some { draft with place := .span (here + 1) }
    else none
  | .threshold _ => some draft

def readFrom (whole : List UInt8) : Draft → Nat → List Char → Option Draft
  | draft, _, [] => some draft
  | draft, here, c :: cs =>
    match step? whole draft here c with
    | some next => readFrom whole next (here + c.utf8Size) cs
    | none => none

/-- Reads a directive. Its places are counted without the blanks around it, and its parts are taken
from the text with them. -/
def parse? (text : String) : Option Directive :=
  let whole := Text.Utf8.encode text
  let ending := whole.length
  match readFrom whole ⟨.start, none, false, false, []⟩ 0 (Text.trimChars text.toList) with
  | none => none
  | some draft =>
    let directive : Directive := {
      target := draft.target, fields := draft.fields, idle := draft.inSpan || draft.byValue
      threshold := some .trace }
    match draft.place with
    | .name first =>
      let name := part whole first ending
      match Threshold.parse? name with
      | some threshold => some { directive with target := none, threshold }
      | none => some { directive with target := if name.isEmpty then none else some name }
    | .threshold first =>
      (readThreshold (part whole first ending)).map fun threshold => { directive with threshold }
    | .target => some directive
    | _ => none

end Directive

/-! ### Filters -/

structure Filter where
  directives : List Directive

namespace Filter

def upTo (level : Level) : Filter :=
  { directives := [{ target := none, fields := [], idle := false, threshold := some level }] }

def parse? (text : String) : Option Filter :=
  match ((Text.split ',' text).filter fun part => part ≠ "").mapM Directive.parse? with
  | none => none
  | some [] => some (upTo .error)
  | some directives => some { directives }

def ofSetting (setting : Option String) : Filter :=
  (setting.bind parse?).getD (upTo .info)

def prevailing (best : Option Directive) (directive : Directive) : Option Directive :=
  match best with
  | none => some directive
  | some other => if directive.yields other then some other else some directive

def decisive? (filter : Filter) (event : Event) : Option Directive :=
  (filter.directives.filter fun directive => directive.concerns event).foldl prevailing none

def accepts (filter : Filter) (event : Event) : Bool :=
  (filter.decisive? event).any fun directive => directive.threshold.accepts event.level

end Filter

end PresenceGateway.Log
