import PresenceGateway.Tracker.Address
import PresenceGateway.Tracker.Table
/-!
Opening the database of the device table.

What comes of opening a database depends on what is in the file system under its path. A database in
memory is there for the connection that opened it alone, unless it is shared.
-/
namespace PresenceGateway.Tracker

/-- Where a database is: in memory, perhaps for more than one connection, or in a file. -/
inductive Place where
  | memory (kept : Bool)
  | file (path : String)
deriving DecidableEq

/-- Where the database of an opening is. Without a path it is in a file that one connection has for
itself. -/
def Opening.place (opening : Opening) : Place :=
  let path := Text.Utf8.decodeLossy opening.path
  if opening.inMemory ∨ path = ":memory:" then
    .memory (opening.located && opening.shared && path ≠ "")
  else if path = "" then .memory false
  else if opening.access = "memdb" then
    .memory (opening.shared || (path.startsWith "/" && path ≠ "/"))
  else .file path

/-! ### Opening -/

inductive FileState where
  | nothing (folder : Bool)
  | directory
  | otherFile
  | database (table : Table)

inductive DatabaseError where
  | refused (cause : AddressError)
  | cannotOpen
  | notADatabase
  | readOnly
  | noTable

namespace DatabaseError

def engineText (code : Nat) (message : String) : String :=
  "Database(SqliteError \x7b code: " ++ toString code ++ ", message: " ++ Text.quote message
    ++ " \x7d)"

def configurationText (message : String) : String :=
  "Configuration(" ++ Text.quote message ++ ")"

def marked (text : String) : String :=
  let tick := String.singleton (Char.ofNat 0x60)
  tick ++ text ++ tick

def addressText : AddressError → String
  | .badName valid unreadable =>
    let size := match unreadable with
      | some size => "Some(" ++ toString size ++ ")"
      | none => "None"
    "Configuration(Utf8Error \x7b valid_up_to: " ++ toString valid ++ ", error_len: " ++ size ++ " \x7d)"
  | .nulInName =>
    "Io(Custom \x7b kind: InvalidData, error: "
      ++ Text.quote "filename passed to SQLite must not contain nul bytes" ++ " \x7d)"
  | .badValue parameter value =>
    configurationText ("unknown value " ++ Text.quote value ++ " for " ++ marked parameter)
  | .unknownParameter name =>
    configurationText ("unknown query parameter " ++ marked name ++ " while parsing connection URL")
  | .badHost host => engineText 1 ("invalid uri authority: " ++ host)
  | .badMode kind value => engineText 1 ("no such " ++ kind ++ " mode: " ++ value)
  | .forbiddenMode kind value => engineText 3 (kind ++ " mode not allowed: " ++ value)
  | .unknownAccess name => engineText 1 ("no such vfs: " ++ name)

def debugText : DatabaseError → String
  | refused cause => "Connect(" ++ addressText cause ++ ")"
  | cannotOpen => "Connect(" ++ engineText 14 "unable to open database file" ++ ")"
  | notADatabase => "Pragma(" ++ engineText 26 "file is not a database" ++ ")"
  | readOnly =>
    "Migration(Execute(" ++ engineText 8 "attempt to write a readonly database" ++ "))"
  | noTable => "Database(" ++ engineText 1 "no such table: tracked_devices" ++ ")"

end DatabaseError

/-- An open database: its table, if there is one, and whether every connection finds it. -/
structure Database where
  readOnly : Bool
  kept : Bool
  table : Option Table

namespace Database

def connect (files : String → FileState) (text : String) : Except DatabaseError Database := do
  let opening ← ((Address.parse text).bind Opening.ofAddress).mapError .refused
  let readOnly := opening.rights = .read
  match opening.place with
  | .memory kept => return { readOnly, kept, table := none }
  | .file path =>
    match files path with
    | .nothing folder =>
      if folder && opening.rights = .create then
        return { readOnly, kept := true, table := none }
      else .error .cannotOpen
    | .directory => .error .cannotOpen
    | .otherFile => .error .notADatabase
    | .database table => return { readOnly, kept := true, table := some table }

/-- The table after it was added where it was missing, for the connection that added it. -/
def migratedTable (database : Database) : Except DatabaseError Table :=
  match database.table with
  | some table => .ok table
  | none => if database.readOnly then .error .readOnly else .ok .empty

def migrate (database : Database) : Except DatabaseError Database :=
  database.migratedTable.map fun table => { database with table := some table }

def use (database : Database) : Except DatabaseError Table :=
  match database.kept, database.table with
  | true, some table => .ok table
  | _, _ => .error .noTable

end Database

end PresenceGateway.Tracker
