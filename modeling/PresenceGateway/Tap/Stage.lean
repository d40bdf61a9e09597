import PresenceGateway.Text.Blank
import PresenceGateway.Text.LowerCase
/-!
The stages that a payload goes through, and filters that choose among them.

A filter is written as a list of stage names between commas. Blanks around a name, capitals and empty
items do not matter, and a list without any name chooses every stage.
-/
namespace PresenceGateway.Tap

inductive Stage where
  | ingress
  | normalizer
  | dispatch
deriving DecidableEq

namespace Stage

def all : List Stage := [ingress, normalizer, dispatch]

def text : Stage → String
  | ingress => "ingress"
  | normalizer => "normalizer"
  | dispatch => "dispatch"

def parse? (name : String) : Option Stage :=
  all.find? fun stage => stage.text = name

end Stage

structure UnknownStage where
  name : String
deriving DecidableEq

def UnknownStage.message (unknown : UnknownStage) : String :=
  "unknown stage '" ++ unknown.name ++ "'"

/-- Which stages a listener has chosen. `none` stands for all of them. -/
structure Filter where
  stages : Option (List Stage)

namespace Filter

def everything : Filter := { stages := none }

def accepts (filter : Filter) (stage : Stage) : Bool :=
  match filter.stages with
  | none => true
  | some stages => stages.contains stage

/-- The names in a written filter: the items that are not blank, trimmed and in small letters. -/
def names (text : String) : List String :=
  ((Text.split ',' text).filter fun item => !Text.isBlankText item).map fun item =>
    Text.lowerCase (Text.trim item)

/-- The stages of some names. The first unknown name is an error. -/
def stagesOf : List String → Except UnknownStage (List Stage)
  | [] => .ok []
  | name :: rest =>
    match Stage.parse? name with
    | none => .error { name }
    | some stage => (stagesOf rest).map (stage :: ·)

def ofStages : List Stage → Filter
  | [] => everything
  | stages => { stages := some stages }

def parse (text : String) : Except UnknownStage Filter :=
  (stagesOf (names text)).map ofStages

def parseOptional : Option String → Except UnknownStage Filter
  | none => .ok everything
  | some text => parse text

end Filter

end PresenceGateway.Tap
