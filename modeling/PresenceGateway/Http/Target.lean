/-!
Request targets.

A target is a path with a query, or a lone star, or it names a scheme and a host before its path, or
nothing but a host. What stands behind a number sign is not looked at. Most characters stand for
themselves in a path and in a query, those beyond ASCII too, but blanks, the control characters below
the blank and some marks must be written in percent signs.
-/
namespace PresenceGateway.Http

def targetLimit : Nat := 65534

def isPathChar (c : Char) : Bool :=
  ' ' < c && !(['<', '>', '\x60'].contains c)

def isQueryChar (c : Char) : Bool :=
  ' ' < c && !(['"', '<', '>'].contains c)

def readPathAndQuery? (text : List Char) : Option (String × Option String) :=
  let cs := text.takeWhile (· ≠ '#')
  let path := cs.takeWhile (· ≠ '?')
  let query := cs.dropWhile (· ≠ '?')
  if path.all isPathChar && query.all isQueryChar then
    some (String.ofList path, query.tail?.map String.ofList)
  else none

/-! ### Authorities -/

def isAuthorityChar (c : Char) : Bool :=
  c.isAlphanum || "!$&'()*+,-.;=_~".toList.contains c

/-- What counts of the part of an authority that has been read. Colons and percent signs of a user do
not count, nor do those between brackets. -/
structure Authority where
  colons : Nat
  percent : Bool
  opened : Bool
  closed : Bool

def Authority.start : Authority :=
  { colons := 0, percent := false, opened := false, closed := false }

def Authority.next? (read : Authority) : Char → Option Authority
  | ':' => if read.colons < 8 then some { read with colons := read.colons + 1 } else none
  | '[' => if read.percent || read.opened then none else some { read with opened := true }
  | ']' =>
    if read.opened && !read.closed then
      some { read with colons := 0, percent := false, closed := true }
    else none
  | '@' => some { read with colons := 0, percent := false }
  | '%' => some { read with percent := true }
  | c => if isAuthorityChar c then some read else none

/-- An authority has a host, behind which there may be one colon. -/
def isAuthority (cs : List Char) : Bool :=
  !cs.isEmpty && cs.getLast? ≠ some '@' &&
    (cs.foldlM Authority.next? .start).any fun read =>
      read.colons ≤ 1 && !read.percent && read.opened == read.closed

/-! ### Targets -/

def isSchemeChar (c : Char) : Bool :=
  c.isAlphanum || ['+', '-', '.', '~'].contains c

def behindScheme? (cs : List Char) : Option (List Char) :=
  match cs.dropWhile isSchemeChar with
  | ':' :: '/' :: '/' :: located =>
    if (cs.takeWhile isSchemeChar).length ≤ 64 then some located else none
  | _ => none

/-- The path and the query of a target that does not begin with a slash. Behind a host there is a path
in any case, and a target that is only a host has none. -/
def readLocated? (cs : List Char) : Option (String × Option String) :=
  match behindScheme? cs with
  | some located =>
    let isEnd (c : Char) := ['/', '?', '#'].contains c
    if isAuthority (located.takeWhile (!isEnd ·)) then
      (readPathAndQuery? (located.dropWhile (!isEnd ·))).map fun (path, query) =>
        (if path.isEmpty then "/" else path, query)
    else none
  | none => if isAuthority cs then some ("", none) else none

def readTarget? (target : String) : Option (String × Option String) :=
  if target.utf8ByteSize ≤ targetLimit then
    match target.toList with
    | '/' :: cs => readPathAndQuery? ('/' :: cs)
    | ['*'] => some ("*", none)
    | cs => readLocated? cs
  else none

end PresenceGateway.Http
