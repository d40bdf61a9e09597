import PresenceGateway.Config.Environment
import PresenceGateway.Text.Alphanumeric
/-!
Files of variables.

Each line sets one variable, as in `NAME=value`, and may begin with the word `export`. A value may
stand in single quotes, in which nothing has a meaning, or in double quotes, and a quoted value may
go on for several lines. Outside single quotes a backslash takes the meaning from the next
character, and a dollar sign puts in the value of another variable. A variable that is set already
keeps its value, and the first line that is malformed ends the file.
-/
namespace PresenceGateway.Dotenv

/-! ### Lines -/

def physicalLines (cs : List Char) : List (List Char) :=
  let step := fun (c : Char) (lines : List (List Char)) =>
    match lines with
    | [] => [[c]]
    | line :: later => if c = '\n' then [c] :: line :: later else (c :: line) :: later
  cs.foldr step []

inductive Place where
  | plain
  | escaped
  | blank
  | weak
  | weakEscaped
  | strong
  | strongEscaped
deriving DecidableEq

def Place.next : Place → Char → Place
  | escaped, _ => plain
  | weak, c => if c = '\\' then weakEscaped else if c = '"' then plain else weak
  | weakEscaped, _ => weak
  | strong, c => if c = '\\' then strongEscaped else if c = '\'' then plain else strong
  | strongEscaped, _ => strong
  | place, c =>
    if place = plain ∧ Text.isBlank c ∧ c ≠ '\n' ∧ c ≠ '\r' then blank
    else if c = '\\' then escaped
    else if c = '"' then weak
    else if c = '\'' then strong
    else plain

/-- The part of a line before the comment that ends it, and the place where the line ends. The place
is `none` when there is a comment. -/
def scan (place : Place) : List Char → List Char × Option Place
  | [] => ([], some place)
  | c :: rest =>
    if place = .blank ∧ c = '#' then ([], none)
    else
      let (before, last) := scan (place.next c) rest
      (c :: before, last)

def isComment (line : List Char) : Bool :=
  (line.dropWhile Text.isBlank).head? == some '#'

/-- The lines as they are meant: a line goes on while a quote is open, and comments are left out.
What is still open at the end of the file is no line. -/
def logicalLines (begun : List Char) (place : Place) : List (List Char) → List (List Char)
  | [] => []
  | line :: rest =>
    if isComment (begun ++ line) then logicalLines [] .plain rest
    else
      match scan place line with
      | (before, none) => (begun ++ before) :: logicalLines [] .plain rest
      | (_, some .plain) => (begun ++ line) :: logicalLines [] .plain rest
      | (_, some later) => logicalLines (begun ++ line) later rest

/-! ### Values -/

/-- What the next character of a value means: a character of the value, one without a meaning of its
own, one in single quotes, one of the name of a variable, without or with braces, or one after the
end of the value, which can only be a blank or begin a comment. -/
inductive Mode where
  | plain
  | escaped
  | strong
  | name (begun : List Char)
  | braced (begun : List Char)
  | after
  | comment
deriving DecidableEq

structure Reading where
  output : List Char
  weak : Bool
  mode : Mode

def substitute (environment : Environment) (name : List Char) : List Char :=
  ((environment.value? (String.ofList name)).getD "").toList

def Reading.plainStep (reading : Reading) (c : Char) : Reading :=
  let shown := { reading with output := reading.output ++ [c] }
  if c = '$' then { reading with mode := .name [] }
  else if c = '\\' then { reading with mode := .escaped }
  else if c = '"' then { reading with weak := !reading.weak }
  else if reading.weak then shown
  else if c = '\'' then { reading with mode := .strong }
  else if c = ' ' ∨ c = '\t' then { reading with mode := .after }
  else shown

def Reading.step (environment : Environment) (reading : Reading) (c : Char) : Option Reading :=
  let followed := fun (text : List Char) (mode : Mode) =>
    { reading with output := reading.output ++ text, mode }
  match reading.mode with
  | .plain => some (reading.plainStep c)
  | .escaped =>
    if c = '\\' ∨ c = '\'' ∨ c = '"' ∨ c = '$' ∨ c = ' ' then some (followed [c] .plain)
    else if c = 'n' then some (followed ['\n'] .plain)
    else none
  | .strong => some (if c = '\'' then followed [] .plain else followed [c] .strong)
  | .name begun =>
    if Text.isAlphanumeric c then some (followed [] (.name (begun ++ [c])))
    else if c = '{' ∧ begun = [] then some (followed [] (.braced []))
    else
      let value := substitute environment begun
      some (if c = '$' then followed value (.name []) else followed (value ++ [c]) .plain)
  | .braced begun =>
    some (if c = '}' then followed (substitute environment begun) .plain
      else followed [] (.braced (begun ++ [c])))
  | .after =>
    if c = ' ' ∨ c = '\t' then some reading
    else if c = '#' then some (followed [] .comment)
    else none
  | .comment => some reading

def readValue (environment : Environment) (cs : List Char) : Option String := do
  let reading ← cs.foldlM (Reading.step environment) { output := [], weak := false, mode := .plain }
  match reading.weak, reading.mode with
  | true, _ => none
  | _, .strong => none
  | _, .braced _ => none
  | _, .name begun => some (String.ofList (reading.output ++ substitute environment begun))
  | _, _ => some (String.ofList reading.output)

/-! ### Files -/

inductive Line where
  | nothing
  | sets (name value : String)
  | malformed
deriving DecidableEq

def takeName (cs : List Char) : Option (String × List Char) :=
  let isPart := fun (c : Char) => c.isAlphanum || c == '_' || c == '.'
  match cs with
  | c :: _ =>
    if c.isAlpha || c == '_' then
      some (String.ofList (cs.takeWhile isPart), (cs.dropWhile isPart).dropWhile Text.isBlank)
    else none
  | [] => none

/-- Reads the name of the variable that a line sets, and what follows the equals sign. -/
def takeTarget (cs : List Char) : Option (String × List Char) :=
  match takeName cs with
  | some (name, '=' :: rest) => some (name, rest)
  | some ("export", rest) =>
    match takeName rest with
    | some (name, '=' :: rest) => some (name, rest)
    | _ => none
  | _ => none

def readLine (environment : Environment) (line : List Char) : Line :=
  match Text.trimChars line with
  | [] => .nothing
  | '#' :: _ => .nothing
  | content =>
    match takeTarget content with
    | none => .malformed
    | some (name, rest) =>
      match rest.dropWhile Text.isBlank with
      | [] => .sets name ""
      | '#' :: _ => .sets name ""
      | value =>
        match readValue environment value with
        | some value => .sets name value
        | none => .malformed

def loadLines (environment : Environment) : List (List Char) → Environment
  | [] => environment
  | line :: rest =>
    match readLine environment line with
    | .nothing => loadLines environment rest
    | .sets name value => loadLines (environment.define name value) rest
    | .malformed => environment

/-- The environment after a file of variables has been read. A byte order mark does not count. -/
def load (environment : Environment) (file : String) : Environment :=
  let cs := match file.toList with
    | '\uFEFF' :: rest => rest
    | cs => cs
  loadLines environment (logicalLines [] .plain (physicalLines cs))

end PresenceGateway.Dotenv
