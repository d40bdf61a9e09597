import PresenceGateway.Dsm.Client
import PresenceGateway.Proofs.Url.Pasting
/-!
Where the client of an entry leads. Its base is the host of the entry, pasted as it is between the
scheme and the port. So it is the root of that host at that port exactly when the host holds nothing
that ends an authority and no user stands in front of it.
-/
namespace PresenceGateway.Dsm.Client

open Nas (EntryData)
open Url (isSlash endsAuthority)

def schemeOf (data : EntryData) : String :=
  if data.useHttps then "https" else "http"

/-- A base that leads to the root of an entry's host: it has the scheme and the port of the entry, and
neither a user nor a query nor a fragment. -/
structure Reaches (data : EntryData) (base : Url) : Prop where
  scheme : base.scheme = schemeOf data
  port : base.effectivePort? = some data.port
  path : base.path = .segments [""]
  username : base.username = ""
  password : base.password = ""
  query : base.query = none
  fragment : base.fragment = none

/-- Neither a tab nor a line end. -/
def isCounted (c : Char) : Bool :=
  c ≠ '\t' ∧ c ≠ '\n' ∧ c ≠ '\r'

/-- What counts of a host: all but tabs and line ends, and no slashes at the front. -/
def countedHost (host : String) : List Char :=
  (host.toList.filter isCounted).dropWhile (isSlash true)

/-- A host that stands alone: it holds nothing that ends an authority, and a user before an at sign has
neither a name nor a password. -/
structure StandsAlone (host : String) : Prop where
  closed : ∀ c ∈ countedHost host, endsAuthority true c = false
  anonymous : Url.Anonymous (countedHost host)

/-! ### How the base is read -/

theorem isWeb_schemeOf (data : EntryData) : Url.isWeb (schemeOf data) = true := by
  unfold schemeOf
  split <;> rfl

/-- Nothing is trimmed of a text between characters that are no blanks. -/
theorem significant_of_ends {first last : Char} (begins : ¬ first.toNat ≤ 0x20)
    (ends : ¬ last.toNat ≤ 0x20) (middle : List Char) :
    Url.significant (first :: (middle ++ [last])) =
      (first :: (middle ++ [last])).filter isCounted := by
  have reversed : (first :: (middle ++ [last])).reverse = last :: (first :: middle).reverse := by
    rw [← List.cons_append, List.reverse_concat]
  unfold Url.significant
  dsimp only
  rw [List.dropWhile_cons_of_neg (by simpa using begins), reversed,
    List.dropWhile_cons_of_neg (by simpa using ends), ← reversed, List.reverse_reverse]
  rfl

theorem dropWhile_colon (front rest : List Char) :
    (front ++ ':' :: rest).dropWhile (isSlash true) =
      front.dropWhile (isSlash true) ++ ':' :: rest := by
  induction front with
  | nil => rfl
  | cons c front ih =>
      rw [List.cons_append, List.dropWhile_cons, List.dropWhile_cons]
      split
      · exact ih
      · rfl

theorem takeScheme?_schemeOf (data : EntryData) (rest : List Char) :
    Url.takeScheme? ((schemeOf data).toList ++ ':' :: rest) = some (schemeOf data, rest) := by
  unfold schemeOf
  cases data.useHttps <;> rfl

theorem toList_toString (n : Nat) : (toString n).toList = Nat.toDigits 10 n :=
  String.toList_ofList

def pasted (data : EntryData) (host : List Char) : List Char :=
  (schemeOf data).toList ++ (':' :: '/' :: '/' :: (host ++
    (':' :: (Nat.toDigits 10 data.port ++ ['/']))))

theorem toList_pasted (data : EntryData) :
    (schemeOf data ++ "://" ++ data.host ++ ":" ++ toString data.port ++ "/").toList =
      pasted data data.host.toList := by
  simp only [String.toList_append, toList_toString, List.append_assoc]
  rfl

theorem filter_digits (n : Nat) :
    (Nat.toDigits 10 n).filter isCounted = Nat.toDigits 10 n := by
  rw [List.filter_eq_self]
  intro c inside
  have digit := Nat.isDigit_of_mem_toDigits (by decide) (by decide) inside
  rw [isCounted, decide_eq_true_eq]
  refine ⟨?_, ?_, ?_⟩
  all_goals
    rintro rfl
    cases digit

theorem filter_schemeOf (data : EntryData) :
    (schemeOf data).toList.filter isCounted = (schemeOf data).toList := by
  unfold schemeOf
  cases data.useHttps <;> rfl

theorem filter_pasted (data : EntryData) (host : List Char) :
    (pasted data host).filter isCounted = pasted data (host.filter isCounted) := by
  have colon : isCounted ':' = true := rfl
  have slash : isCounted '/' = true := rfl
  unfold pasted
  rw [List.filter_append, filter_schemeOf, List.filter_cons_of_pos colon,
    List.filter_cons_of_pos slash, List.filter_cons_of_pos slash, List.filter_append,
    List.filter_cons_of_pos colon, List.filter_append, filter_digits,
    List.filter_cons_of_pos slash, List.filter_nil]

theorem significant_pasted (data : EntryData) (host : List Char) :
    Url.significant (pasted data host) = pasted data (host.filter isCounted) := by
  obtain ⟨more, front⟩ : ∃ more, (schemeOf data).toList = 'h' :: more := by
    unfold schemeOf
    cases data.useHttps
    · exact ⟨['t', 't', 'p'], rfl⟩
    · exact ⟨['t', 't', 'p', 's'], rfl⟩
  have ends : pasted data host = 'h' :: ((more ++ (':' :: '/' :: '/' ::
      (host ++ ':' :: Nat.toDigits 10 data.port))) ++ ['/']) := by
    rw [pasted, front]
    simp
  rw [← filter_pasted, ends, significant_of_ends (by decide) (by decide)]

theorem parse_pasted (data : EntryData) :
    Url.parse (schemeOf data ++ "://" ++ data.host ++ ":" ++ toString data.port ++ "/") =
      Url.readAfterSlashes (schemeOf data)
        (countedHost data.host ++ ':' :: (Nat.toDigits 10 data.port ++ ['/'])) := by
  unfold Url.parse
  rw [toList_pasted, significant_pasted, pasted, takeScheme?_schemeOf]
  dsimp only
  rw [isWeb_schemeOf, if_pos rfl, Url.readWeb]
  have slashes (rest : List Char) : ('/' :: '/' :: rest).dropWhile (isSlash true) =
      rest.dropWhile (isSlash true) := rfl
  rw [slashes, dropWhile_colon]
  rfl

theorem base_of_ofEntry {data : EntryData} {client : Client}
    (opened : ofEntry data = .ok client) :
    Url.readAfterSlashes (schemeOf data)
      (countedHost data.host ++ ':' :: (Nat.toDigits 10 data.port ++ ['/'])) = .ok client.base := by
  rw [← parse_pasted]
  unfold ofEntry at opened
  dsimp only at opened
  split at opened
  · rename_i base read
    cases opened
    exact read
  · cases opened

/-- The client of an entry leads to the host and port of the entry, with nothing else in its base, if
and only if the host stands alone. -/
theorem base_reaches_entry_iff {data : EntryData} {client : Client}
    (opened : ofEntry data = .ok client) :
    Reaches data client.base ↔ StandsAlone data.host := by
  have web := isWeb_schemeOf data
  have read := base_of_ofEntry opened
  by_cases closed : ∀ c ∈ countedHost data.host, endsAuthority true c = false
  · obtain ⟨scheme, port, path, query, fragment, user⟩ :=
      Url.readAfterSlashes_of_closed web read closed
    constructor
    · intro reaches
      exact ⟨closed, user.mp ⟨reaches.username, reaches.password⟩⟩
    · intro alone
      obtain ⟨username, password⟩ := user.mpr alone.anonymous
      exact ⟨scheme, port, path, username, password, query, fragment⟩
  · refine iff_of_false (fun reaches => ?_) fun alone => closed alone.closed
    obtain ⟨c, inside, ends⟩ : ∃ c ∈ countedHost data.host, endsAuthority true c = true := by
      simpa using closed
    rcases Url.readAfterSlashes_of_open web read inside ends with path | query | fragment
    · exact path reaches.path
    · exact query reaches.query
    · exact fragment reaches.fragment

/-! ### Entries of one station -/

private def entryOn (host : String) : EntryData :=
  { host, port := 5001, useHttps := false, username := "admin", password := "hunter2"
    verifySsl := none, macs := [] }

/-- The client of an entry whose base has been read. -/
private theorem ofEntry_entryOn {host : String} {base : Url}
    (read : Url.parse ("http" ++ "://" ++ host ++ ":" ++ toString 5001 ++ "/") = .ok base) :
    ofEntry (entryOn host) = .ok { base, username := "admin", password := "hunter2" } := by
  unfold ofEntry entryOn
  dsimp only
  rw [if_neg Bool.false_ne_true, read]

/-- A name alone leads to the station at the port of the entry. -/
theorem base_reaches_entry_of_name :
    ∃ client, ofEntry (entryOn "nas") = .ok client ∧ Reaches (entryOn "nas") client.base := by
  have read : Url.parse ("http" ++ "://" ++ "nas" ++ ":" ++ toString 5001 ++ "/") = .ok {
      scheme := "http", username := "", password := "", host := some (.domain "nas")
      port := some 5001, path := .segments [""], query := none, fragment := none } := by
    decide +kernel
  have opened := ofEntry_entryOn read
  have counted : countedHost "nas" = ['n', 'a', 's'] := by decide +kernel
  have alone : StandsAlone "nas" := by
    have closed : ['n', 'a', 's'].all (fun c => !endsAuthority true c) = true := by decide
    refine ⟨?_, Url.anonymous_of_absent ?_⟩
    · intro c inside
      rw [counted] at inside
      simpa using List.all_eq_true.mp closed c inside
    · rw [counted]
      decide
  exact ⟨_, opened, (base_reaches_entry_iff opened).mpr alone⟩

/-- After a name with a slash the port is part of the path, and the station is asked at the usual port
of the scheme. -/
theorem port_lost_after_slash :
    ∃ client, ofEntry (entryOn "nas/") = .ok client ∧ client.base.text = "http://nas/:5001/" ∧
      client.base.effectivePort? = some 80 ∧ ¬ Reaches (entryOn "nas/") client.base := by
  have read : Url.parse ("http" ++ "://" ++ "nas/" ++ ":" ++ toString 5001 ++ "/") = .ok {
      scheme := "http", username := "", password := "", host := some (.domain "nas")
      port := none, path := .segments [":5001", ""], query := none, fragment := none } := by
    decide +kernel
  refine ⟨_, ofEntry_entryOn read, by decide +kernel, rfl, fun reaches => ?_⟩
  have port := reaches.port
  cases port

end PresenceGateway.Dsm.Client
