import PresenceGateway.Url.Basic
/-!
Reading addresses, alone or relative to another one.

Blanks and controls around the text and tabs and line ends inside it do not count. A text with a
scheme is an address of its own, unless it has the scheme of the base and does not go on with two
slashes. Everything else is resolved against the base: an authority, a path from the root, a path
from the last slash of the base, a query, or a fragment.
-/
namespace PresenceGateway.Url

def isSlash (special : Bool) (c : Char) : Bool :=
  c == '/' || (special && c == '\\')

def significant (text : List Char) : List Char :=
  let outer := fun (c : Char) => decide (c.toNat ≤ 0x20)
  (((text.dropWhile outer).reverse.dropWhile outer).reverse).filter fun c =>
    c ≠ '\t' ∧ c ≠ '\n' ∧ c ≠ '\r'

def takeScheme? (text : List Char) : Option (String × List Char) :=
  let inScheme := fun (c : Char) =>
    decide (c.toNat < 0x80) && (c.isAlphanum || c == '+' || c == '-' || c == '.')
  match text with
  | [] => none
  | c :: _ =>
    if c.isAlpha then
      match text.dropWhile inScheme with
      | ':' :: rest => some (String.ofList ((text.takeWhile inScheme).map Char.toLower), rest)
      | _ => none
    else none

/-! ### Authority -/

def endsAuthority (special : Bool) (c : Char) : Bool :=
  isSlash special c || c == '?' || c == '#'

def cutLast (mark : Char) (text : List Char) : Option (List Char × List Char) :=
  match text.reverse.dropWhile (· ≠ mark) with
  | [] => none
  | _ :: before => some (before.reverse, (text.reverse.takeWhile (· ≠ mark)).reverse)

def encodeUser (text : List Char) : String :=
  String.ofList (text.flatMap (encodeChar userSet))

/-- The text of a host: everything up to a colon that stands outside brackets. -/
def takeHost (inBrackets : Bool) : List Char → List Char × List Char
  | [] => ([], [])
  | c :: rest =>
    if c = ':' ∧ !inBrackets then ([], c :: rest)
    else
      let inBrackets := if c = '[' then true else if c = ']' then false else inBrackets
      (c :: (takeHost inBrackets rest).1, (takeHost inBrackets rest).2)

/-- Reads a port and returns what follows it, which is nothing or starts with a backslash. None is
written for the usual one, and an empty one counts as not there. -/
def readPort (scheme : String) (text : List Char) :
    Except UrlError (Option Nat × List Char) :=
  let digits := text.takeWhile Char.isDigit
  let rest := text.dropWhile Char.isDigit
  let port := digits.foldl (fun value c => value * 10 + (c.toNat - 48)) 0
  if 0x10000 ≤ port ∨ rest.head?.any (· ≠ '\\') then .error .invalidPort
  else if digits.isEmpty ∨ usualPort? scheme = some port then .ok (none, rest)
  else .ok (some port, rest)

structure Authority where
  username : String
  password : String
  host : Host
  port : Option Nat
  rest : List Char

def readAuthority (scheme : String) (text : List Char) (followed : Bool) :
    Except UrlError Authority := do
  let web := isWeb scheme
  let (user, location) := (cutLast '@' text).getD ([], text)
  if (cutLast '@' text).isSome && user.isEmpty && location.isEmpty && followed then
    .error .emptyHost
  let (name, password) := Text.cutChars ':' user
  let username := encodeUser name
  let password := encodeUser (password.getD [])
  let (hostText, afterHost) := takeHost false location
  if web && hostText.isEmpty then .error .emptyHost
  let host ← if web then Host.read hostText else Host.readPlain hostText
  if hostText.isEmpty && !afterHost.isEmpty then .error .emptyHost
  let (port, rest) ← readPort scheme (afterHost.drop 1)
  if hostText.isEmpty && !(username.isEmpty && password.isEmpty) then .error .emptyHost
  return { username, password, host, port, rest }

/-! ### Path, query and fragment -/

def isSingleDot (segment : String) : Bool :=
  segment == "." || Text.asciiLower segment == "%2e"

def isDoubleDot (segment : String) : Bool :=
  let small := Text.asciiLower segment
  small == ".." || small == ".%2e" || small == "%2e." || small == "%2e%2e"

/-- Whether a segment is a drive letter: a letter and a colon or a bar. -/
def isDriveLetter (segment : String) : Bool :=
  match segment.toList with
  | [c, mark] => c.isAlpha && (mark == ':' || mark == '|')
  | _ => false

def drive (segment : String) : String :=
  String.ofList (segment.toList.take 1 ++ [':'])

/-- The segments above a place, nearest first. There is no way above a drive letter. -/
def above : List String → List String
  | [] => []
  | last :: before => if isDriveLetter last then last :: before else before

/-- The segments of a path below others, of which the last is the first of `done`. A last segment
of dots stands for an empty one, and a drive letter at the front of a file path has a colon. -/
def resolve (file : Bool) (done : List String) : List String → List String
  | [] => done.reverse
  | [last] =>
    if isDoubleDot last then (("" :: above done).reverse)
    else if isSingleDot last then (("" :: done).reverse)
    else if file && done.isEmpty && isDriveLetter last then [drive last]
    else (last :: done).reverse
  | segment :: rest =>
    if isDoubleDot segment then resolve file (above done) rest
    else if isSingleDot segment then resolve file done rest
    else if file && done.isEmpty && isDriveLetter segment then resolve file [drive segment] rest
    else resolve file (segment :: done) rest

def pathSegments (special : Bool) (text : List Char) : List String :=
  let unified := text.map fun c => if isSlash special c then '/' else c
  (Text.splitChars '/' unified).map fun part => String.ofList (part.flatMap (encodeChar pathSet))

structure Parts where
  body : List Char
  query : Option (List Char)
  fragment : Option (List Char)

/-- Cuts a text at its first number sign, and what is before it at its first question mark. -/
def Parts.ofChars (text : List Char) : Parts :=
  let (front, fragment) := Text.cutChars '#' text
  let (body, query) := Text.cutChars '?' front
  { body, query, fragment }

def Parts.queryText (parts : Parts) (special : Bool) : Option String :=
  parts.query.map fun query =>
    String.ofList (query.flatMap (encodeChar (if special then specialQuerySet else querySet)))

def Parts.fragmentText (parts : Parts) : Option String :=
  parts.fragment.map fun fragment => String.ofList (fragment.flatMap (encodeChar fragmentSet))

/-! ### Addresses -/

/-- The path of an address from what follows its authority. One of the web is never empty. -/
def absolutePath (web : Bool) (text : List Char) : Path :=
  match text with
  | [] => .segments (if web then [""] else [])
  | c :: rest =>
    if isSlash web c then .segments (resolve false [] (pathSegments web rest))
    else .segments (resolve false [] (pathSegments web (c :: rest)))

def readAfterSlashes (scheme : String) (text : List Char) : Except UrlError Url := do
  let web := isWeb scheme
  let isEnd := endsAuthority web
  let rest := text.dropWhile fun c => !isEnd c
  let authority ← readAuthority scheme (text.takeWhile fun c => !isEnd c) (!rest.isEmpty)
  let parts := Parts.ofChars (authority.rest ++ rest)
  return {
    scheme
    username := authority.username
    password := authority.password
    host := some authority.host
    port := authority.port
    path := absolutePath web parts.body
    query := parts.queryText web
    fragment := parts.fragmentText }

def readOther (scheme : String) (text : List Char) : Except UrlError Url :=
  match text with
  | '/' :: '/' :: rest => readAfterSlashes scheme rest
  | _ =>
    let parts := Parts.ofChars text
    let path := match parts.body with
      | '/' :: rest => Path.segments (resolve false [] (pathSegments false rest))
      | body => Path.verbatim (String.ofList (body.flatMap (encodeChar fun _ => false)))
    .ok {
      scheme, username := "", password := "", host := none, port := none, path
      query := parts.queryText false
      fragment := parts.fragmentText }

/-! ### Files -/

def startsWithDrive (text : List Char) : Bool :=
  isDriveLetter (String.ofList (text.take 2))
    && (text.drop 2).head?.all fun c => endsAuthority true c

/-- The address of a file on a host. The path starts with the given segments. A drive letter at its
front takes the place of the host, and empty segments at its front do not count. -/
def fileAt (host : Host) (front : List String) (text : List Char) : Url :=
  let parts := Parts.ofChars text
  let segments := resolve true front.reverse (pathSegments true parts.body)
  let onDrive := front.isEmpty && segments.head?.any isDriveLetter
  let counted := segments.dropWhile (·.isEmpty)
  {
    scheme := "file", username := "", password := "", port := none
    host := some (if onDrive then .plain "" else host)
    path := .segments (if counted.isEmpty then [""] else counted)
    query := parts.queryText true
    fragment := parts.fragmentText }

/-- Reads the address of a file after the two slashes before its host. This computer needs no
name. -/
def readFileHost (text : List Char) : Except UrlError Url := do
  let hostText := text.takeWhile fun c => !endsAuthority true c
  let rest := text.dropWhile fun c => !endsAuthority true c
  if hostText.isEmpty || isDriveLetter (String.ofList hostText) then
    return fileAt (.plain "") [] text
  let host ← Host.read hostText
  if host = .domain "localhost" then return fileAt (.plain "") [] rest
  let path := match rest with
    | c :: inside => if isSlash true c then inside else rest
    | [] => []
  return fileAt host [] path

def frontDrive (base : Url) : List String :=
  match base.path with
  | .segments (first :: _) => if isDriveLetter first ∧ drive first = first then [first] else []
  | _ => []

def readRooted (base : Option Url) (text : List Char) : Url :=
  match base with
  | none => fileAt (.plain "") [] text
  | some base =>
    if startsWithDrive text then fileAt (.plain "") [] text
    else if (frontDrive base).isEmpty then fileAt (base.host.getD (.plain "")) [] text
    else fileAt (.plain "") (frontDrive base) text

/-! ### References -/

def renewed (base : Url) (parts : Parts) : Url :=
  { base with
    query := match parts.query with
      | none => base.query
      | some _ => parts.queryText (isSpecial base.scheme)
    fragment := parts.fragmentText }

/-- The segments above the last one of a path. In the path of a file a drive letter stays. -/
def folder (file : Bool) : Path → List String
  | .segments segments =>
    if file && segments.getLast?.any (fun last => isDriveLetter last && drive last == last) then
      segments
    else segments.dropLast
  | .verbatim _ => []

/-- Reads a text that has no scheme, or the scheme of the base, as a reference from a base that is
no file. -/
def readReference (base : Url) (text : List Char) : Except UrlError Url :=
  let web := isWeb base.scheme
  let parts := Parts.ofChars text
  match parts.body with
  | [] => .ok (renewed base parts)
  | c :: rest =>
    if isSlash web c then
      if rest.head?.any (isSlash web) then
        readAfterSlashes base.scheme
          (if text.take 2 = ['/', '/'] then text.drop 2 else text.dropWhile (isSlash web))
      else
        .ok { base with
          path := .segments (resolve false [] (pathSegments web rest))
          query := parts.queryText web
          fragment := parts.fragmentText }
    else
      .ok { base with
        path := .segments
          (resolve false (folder false base.path).reverse (pathSegments web parts.body))
        query := parts.queryText web
        fragment := parts.fragmentText }

def readFile (base : Option Url) (text : List Char) : Except UrlError Url :=
  match text, base with
  | [], some base => .ok (renewed base (Parts.ofChars text))
  | [], none => .ok (fileAt (.plain "") [] text)
  | c :: rest, _ =>
    if isSlash true c then
      match rest with
      | [] => .ok (readRooted base rest)
      | second :: inside =>
        if isSlash true second then readFileHost inside else .ok (readRooted base rest)
    else
      match base with
      | none => .ok (fileAt (.plain "") [] text)
      | some base =>
        if c = '?' ∨ c = '#' then .ok (renewed base (Parts.ofChars text))
        else if startsWithDrive text then .ok (fileAt (.plain "") [] text)
        else .ok (fileAt (base.host.getD (.plain "")) (folder true base.path) text)

/-- Reads an address of the web after the colon of its scheme. Any number of slashes may precede
its authority. -/
def readWeb (scheme : String) (rest : List Char) : Except UrlError Url :=
  readAfterSlashes scheme (rest.dropWhile (isSlash true))

def parse (text : String) : Except UrlError Url :=
  match takeScheme? (significant text.toList) with
  | none => .error .relativeWithoutBase
  | some (scheme, rest) =>
    if isWeb scheme then readWeb scheme rest
    else if scheme = "file" then readFile none rest
    else readOther scheme rest

def join (base : Url) (text : String) : Except UrlError Url :=
  let chars := significant text.toList
  match takeScheme? chars with
  | some (scheme, rest) =>
    if isWeb scheme then
      if scheme = base.scheme ∧ (rest.takeWhile (isSlash true)).length < 2 then
        readReference base rest
      else readWeb scheme rest
    else if scheme = "file" then
      readFile (if base.scheme = "file" then some base else none) rest
    else readOther scheme rest
  | none =>
    match base.path with
    | .verbatim _ =>
      match chars with
      | '#' :: _ => .ok (renewed base (Parts.ofChars chars))
      | _ => .error .relativeToOther
    | .segments _ =>
      if base.scheme = "file" then readFile (some base) chars else readReference base chars

end PresenceGateway.Url
