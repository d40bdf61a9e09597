import PresenceGateway.Url.Parser
/-!
Where references lead. A reference names a site itself when it goes on with two slashes, or when it
has a scheme of the web that is not that of its base. Every other one leads to the scheme, host and
port of its base, or to an address without a host.
-/
namespace PresenceGateway.Url

/-- The same scheme, host and port. -/
structure SameSite (url base : Url) : Prop where
  scheme : url.scheme = base.scheme
  host : url.host = base.host
  port : url.effectivePort? = base.effectivePort?

def beginsAuthority (special : Bool) : List Char → Bool
  | first :: second :: _ => isSlash special first && isSlash special second
  | _ => false

/-- A reference names a site and does not leave it to a base of some scheme. -/
def namesSite (own : String) (text : String) : Bool :=
  let chars := significant text.toList
  match takeScheme? chars with
  | some (scheme, rest) =>
    (isWeb scheme && scheme != own) || beginsAuthority (isSpecial scheme) rest
  | none => beginsAuthority (isSpecial own) chars

/-! ### Files have no port -/

def FileHasNoPort (url : Url) : Prop :=
  url.scheme = "file" → url.port = none

theorem fileHasNoPort_of_scheme {url : Url} (other : url.scheme ≠ "file") : url.FileHasNoPort :=
  fun file => absurd file other

theorem isWeb_file : isWeb "file" = false := by
  decide

theorem ne_file_of_isWeb {scheme : String} (web : isWeb scheme = true) : scheme ≠ "file" := by
  rintro rfl
  rw [isWeb_file] at web
  cases web

theorem readAfterSlashes_scheme {scheme : String} {text : List Char} {place : Url}
    (read : readAfterSlashes scheme text = .ok place) : place.scheme = scheme := by
  unfold readAfterSlashes at read
  dsimp only at read
  cases authority : readAuthority scheme
      (text.takeWhile fun c => !endsAuthority (isWeb scheme) c)
      (!(text.dropWhile fun c => !endsAuthority (isWeb scheme) c).isEmpty) with
  | error cause =>
      rw [authority] at read
      cases read
  | ok found =>
      rw [authority] at read
      cases read
      rfl

theorem readOther_scheme {scheme : String} {text : List Char} {place : Url}
    (read : readOther scheme text = .ok place) : place.scheme = scheme := by
  unfold readOther at read
  split at read
  · exact readAfterSlashes_scheme read
  · cases read
    rfl

theorem readReference_scheme {base place : Url} {text : List Char}
    (read : readReference base text = .ok place) : place.scheme = base.scheme := by
  unfold readReference at read
  dsimp only at read
  split at read
  · cases read
    rfl
  · split at read
    · split at read
      · exact readAfterSlashes_scheme read
      · cases read
        rfl
    · cases read
      rfl

/-- A file on this computer or on the host of a base, or on another host when that is named. -/
def IsFile (named : Bool) (base : Option Url) (place : Url) : Prop :=
  ∃ host front text, place = fileAt host front text ∧
    (named = true ∨ host = .plain "" ∨ ∃ own, base = some own ∧ host = own.host.getD (.plain ""))

section Files

variable {base : Option Url} {place : Url} {text : List Char}

theorem isFile_here {named : Bool} (front : List String) (text : List Char) :
    IsFile named base (fileAt (.plain "") front text) :=
  ⟨_, front, text, rfl, .inr (.inl rfl)⟩

theorem readFileHost_isFile (read : readFileHost text = .ok place) : IsFile true base place := by
  unfold readFileHost at read
  dsimp only at read
  split at read
  · cases read
    exact isFile_here _ _
  · cases found : Host.read (text.takeWhile fun c => !endsAuthority true c) with
    | error cause =>
        rw [found] at read
        cases read
    | ok host =>
        rw [found] at read
        change (if host = .domain "localhost" then _ else _) = _ at read
        split at read
        · cases read
          exact isFile_here _ _
        · cases read
          exact ⟨host, _, _, rfl, .inl rfl⟩

theorem readRooted_isFile (named : Bool) (base : Option Url) (text : List Char) :
    IsFile named base (readRooted base text) := by
  unfold readRooted
  split
  · exact isFile_here _ _
  · split
    · exact isFile_here _ _
    · split
      · exact ⟨_, _, _, rfl, .inr (.inr ⟨_, rfl, rfl⟩)⟩
      · exact isFile_here _ _

/-- A file is read as its base with another query, or with a path of its own. -/
theorem readFile_cases (read : readFile base text = .ok place) :
    (∃ own parts, base = some own ∧ place = renewed own parts) ∨
      IsFile (beginsAuthority true text) base place := by
  unfold readFile at read
  split at read
  · cases read
    exact .inl ⟨_, _, rfl, rfl⟩
  · cases read
    exact .inr (isFile_here _ _)
  · split at read
    · rename_i slash
      split at read
      · cases read
        exact .inr (readRooted_isFile _ _ _)
      · split at read
        · rename_i slashToo
          rw [beginsAuthority, slash, slashToo, Bool.and_true]
          exact .inr (readFileHost_isFile read)
        · cases read
          exact .inr (readRooted_isFile _ _ _)
    · split at read
      · cases read
        exact .inr (isFile_here _ _)
      · split at read
        · cases read
          exact .inl ⟨_, _, rfl, rfl⟩
        · split at read
          · cases read
            exact .inr (isFile_here _ _)
          · cases read
            exact .inr ⟨_, _, _, rfl, .inr (.inr ⟨_, rfl, rfl⟩)⟩

theorem readFile_fileHasNoPort (portless : ∀ own, base = some own → own.FileHasNoPort)
    (read : readFile base text = .ok place) : place.FileHasNoPort := by
  rcases readFile_cases read with ⟨own, parts, rfl, rfl⟩ | ⟨host, front, rest, rfl, _⟩
  · exact portless own rfl
  · exact fun _ => rfl

end Files

theorem readReference_fileHasNoPort {base place : Url} {text : List Char} (other : base.scheme ≠ "file")
    (read : readReference base text = .ok place) : place.FileHasNoPort :=
  fileHasNoPort_of_scheme (readReference_scheme read ▸ other)

theorem parse_fileHasNoPort {text : String} {place : Url} (read : parse text = .ok place) :
    place.FileHasNoPort := by
  unfold parse at read
  split at read
  · cases read
  · split at read
    · rename_i web
      exact fileHasNoPort_of_scheme (readAfterSlashes_scheme read ▸ ne_file_of_isWeb web)
    · split at read
      · exact readFile_fileHasNoPort (fun own impossible => by cases impossible) read
      · rename_i other
        exact fileHasNoPort_of_scheme (readOther_scheme read ▸ other)

theorem join_fileHasNoPort {base place : Url} {text : String} (portless : base.FileHasNoPort)
    (read : base.join text = .ok place) : place.FileHasNoPort := by
  unfold join at read
  dsimp only at read
  split at read
  · split at read
    · rename_i web
      split at read
      · rename_i same
        exact readReference_fileHasNoPort (same.1 ▸ ne_file_of_isWeb web) read
      · exact fileHasNoPort_of_scheme (readAfterSlashes_scheme read ▸ ne_file_of_isWeb web)
    · split at read
      · apply readFile_fileHasNoPort _ read
        intro own isBase
        split at isBase
        · cases isBase
          exact portless
        · cases isBase
      · rename_i other
        exact fileHasNoPort_of_scheme (readOther_scheme read ▸ other)
  · split at read
    · split at read
      · cases read
        exact portless
      · cases read
    · split at read
      · apply readFile_fileHasNoPort _ read
        intro own isBase
        cases isBase
        exact portless
      · rename_i other
        exact readReference_fileHasNoPort other read

/-! ### References that name no site -/

theorem SameSite.trans {first second third : Url} (one : first.SameSite second)
    (other : second.SameSite third) : first.SameSite third :=
  ⟨one.scheme.trans other.scheme, one.host.trans other.host, one.port.trans other.port⟩

theorem SameSite.hasHost {url base : Url} (same : url.SameSite base) : url.hasHost = base.hasHost := by
  rw [Url.hasHost, Url.hasHost, same.host]

theorem sameSite_renewed (base : Url) (parts : Parts) : (renewed base parts).SameSite base :=
  ⟨rfl, rfl, rfl⟩

theorem cutChars_front (separator : Char) (text : List Char) :
    (Text.cutChars separator text).1 <+: text := by
  unfold Text.cutChars
  split <;> exact List.takeWhile_prefix _

theorem Parts.body_front (text : List Char) : (Parts.ofChars text).body <+: text :=
  (cutChars_front '?' _).trans (cutChars_front '#' text)

theorem readReference_unnamed {base : Url} {text : List Char}
    (unnamed : beginsAuthority (isWeb base.scheme) text = false) :
    ∃ place, readReference base text = .ok place ∧ place.SameSite base ∧
      ∀ segments, base.path = .segments segments → ∃ own, place.path = .segments own := by
  unfold readReference
  dsimp only
  split
  · exact ⟨_, rfl, sameSite_renewed base _, fun segments same => ⟨segments, same⟩⟩
  · rename_i first rest isBody
    split
    · rename_i slash
      split
      · rename_i slashToo
        -- The part before the query begins like the whole text.
        cases rest with
        | nil => cases slashToo
        | cons second later =>
            obtain ⟨after, whole⟩ := isBody ▸ Parts.body_front text
            have begins : beginsAuthority (isWeb base.scheme) text = true := by
              rw [← whole, List.cons_append, List.cons_append, beginsAuthority, slash]
              exact slashToo
            rw [unnamed] at begins
            cases begins
      · exact ⟨_, rfl, ⟨rfl, rfl, rfl⟩, fun _ _ => ⟨_, rfl⟩⟩
    · exact ⟨_, rfl, ⟨rfl, rfl, rfl⟩, fun _ _ => ⟨_, rfl⟩⟩

theorem readReference_sameSite {base place : Url} {text : List Char}
    (unnamed : beginsAuthority (isWeb base.scheme) text = false)
    (read : readReference base text = .ok place) : place.SameSite base := by
  obtain ⟨found, readToo, same, _⟩ := readReference_unnamed unnamed
  rw [readToo] at read
  exact Except.ok.inj read ▸ same

theorem fileAt_host_of_hasHost {host : Host} {front : List String} {text : List Char}
    (held : (fileAt host front text).hasHost = true) :
    (fileAt host front text).host = some host ∧ host ≠ .plain "" := by
  unfold hasHost fileAt at held
  unfold fileAt
  dsimp only at held ⊢
  split at held
  · cases held
  · rename_i away
    rw [if_neg away]
    exact ⟨rfl, bne_iff_ne.mp held⟩

theorem isFile_sameSite {base : Option Url} {place : Url} (isFile : IsFile false base place)
    (host : place.hasHost = true) :
    ∃ own, base = some own ∧ place.host = own.host ∧ place.port = none ∧ place.scheme = "file" := by
  obtain ⟨found, front, text, rfl, named | rfl | ⟨own, rfl, rfl⟩⟩ := isFile
  · cases named
  · exact absurd rfl (fileAt_host_of_hasHost host).2
  · obtain ⟨sameHost, there⟩ := fileAt_host_of_hasHost host
    refine ⟨own, rfl, ?_, rfl, rfl⟩
    rw [sameHost]
    cases held : own.host with
    | none => exact absurd (congrArg (Option.getD · _) held) there
    | some host => rfl

theorem readFile_sameSite {base : Option Url} {place : Url} {text : List Char}
    (files : ∀ own, base = some own → own.scheme = "file" ∧ own.port = none)
    (unnamed : beginsAuthority true text = false) (read : readFile base text = .ok place)
    (host : place.hasHost = true) : ∃ own, base = some own ∧ place.SameSite own := by
  rcases readFile_cases read with ⟨own, parts, rfl, rfl⟩ | isFile
  · exact ⟨own, rfl, sameSite_renewed own parts⟩
  · rw [unnamed] at isFile
    obtain ⟨own, rfl, sameHost, noPort, file⟩ := isFile_sameSite isFile host
    obtain ⟨fileToo, noPortToo⟩ := files own rfl
    refine ⟨own, rfl, file.trans fileToo.symm, sameHost, ?_⟩
    rw [effectivePort?, effectivePort?, noPort, noPortToo, file, fileToo]

theorem isSpecial_of_ne_file {scheme : String} (other : scheme ≠ "file") :
    isSpecial scheme = isWeb scheme := by
  rw [isSpecial, beq_false_of_ne other, Bool.or_false]

theorem readOther_hasHost {scheme : String} {text : List Char} {place : Url}
    (unnamed : beginsAuthority false text = false) (read : readOther scheme text = .ok place) :
    place.hasHost = false := by
  unfold readOther at read
  split at read
  · cases unnamed
  · cases read
    rfl

theorem beginsAuthority_of_takeWhile {special : Bool} {text : List Char}
    (long : 2 ≤ (text.takeWhile (isSlash special)).length) :
    beginsAuthority special text = true := by
  cases text with
  | nil => cases long
  | cons first rest =>
      cases slash : isSlash special first with
      | false =>
          rw [List.takeWhile_cons, slash] at long
          cases long
      | true =>
          rw [List.takeWhile_cons, slash] at long
          cases rest with
          | nil => exact absurd (show 2 ≤ 1 from long) (by decide)
          | cons second later =>
              cases slashToo : isSlash special second with
              | false =>
                  simp [slashToo] at long
              | true => rw [beginsAuthority, slash, slashToo, Bool.and_true]

/-- A reference that names no site stays at the site of its base, unless it has no host. -/
theorem join_sameSite {base place : Url} {text : String} (portless : base.FileHasNoPort)
    (unnamed : namesSite base.scheme text = false) (read : base.join text = .ok place)
    (host : place.hasHost = true) : place.SameSite base := by
  unfold namesSite at unnamed
  unfold join at read
  dsimp only at unnamed read
  cases named : takeScheme? (significant text.toList) with
  | none =>
      rw [named] at unnamed read
      dsimp only at unnamed read
      split at read
      · split at read
        · cases read
          exact sameSite_renewed base _
        · cases read
      · split at read
        · rename_i file
          rw [file] at unnamed
          obtain ⟨own, isBase, same⟩ := readFile_sameSite
            (fun own isBase => Option.some.inj isBase ▸ ⟨file, portless file⟩) unnamed read host
          exact Option.some.inj isBase ▸ same
        · rename_i other
          rw [isSpecial_of_ne_file other] at unnamed
          exact readReference_sameSite unnamed read
  | some found =>
      obtain ⟨scheme, rest⟩ := found
      rw [named] at unnamed read
      dsimp only at unnamed read
      obtain ⟨own, unnamed⟩ := Bool.or_eq_false_iff.mp unnamed
      split at read
      · rename_i web
        have special : isSpecial scheme = true := by
          rw [isSpecial, web, Bool.true_or]
        rw [web, Bool.true_and, bne_eq_false_iff_eq] at own
        rw [special] at unnamed
        split at read
        · rw [own] at web
          exact readReference_sameSite (web.symm ▸ unnamed) read
        · rename_i away
          have long := Nat.le_of_not_lt fun short => away ⟨own, short⟩
          rw [beginsAuthority_of_takeWhile long] at unnamed
          cases unnamed
      · rename_i noWeb
        split at read
        · rename_i file
          subst file
          obtain ⟨own, isBase, same⟩ := readFile_sameSite
            (fun own isBase => by
              obtain ⟨file, isBase⟩ := Option.ite_none_right_eq_some.mp isBase
              exact Option.some.inj isBase ▸ ⟨file, portless file⟩) unnamed read host
          exact Option.some.inj (Option.ite_none_right_eq_some.mp isBase).2 ▸ same
        · rename_i other
          rw [isSpecial_of_ne_file other, Bool.eq_false_iff.mpr noWeb] at unnamed
          rw [readOther_hasHost unnamed read] at host
          cases host

theorem join_scheme {base place : Url} {text : String}
    (relative : takeScheme? (significant text.toList) = none)
    (read : base.join text = .ok place) : place.scheme = base.scheme := by
  unfold join at read
  dsimp only at read
  rw [relative] at read
  dsimp only at read
  split at read
  · split at read
    · cases read
      rfl
    · cases read
  · split at read
    · rename_i file
      rcases readFile_cases read with ⟨own, parts, isBase, rfl⟩ | ⟨_, _, _, rfl, _⟩
      · rw [Option.some.inj isBase]
        rfl
      · exact file.symm
    · exact readReference_scheme read

/-! ### Relative references -/

def isRelative (text : String) : Bool :=
  let chars := significant text.toList
  (takeScheme? chars).isNone && chars.head?.all fun c => c != '/' && c != '\\'

theorem takeScheme?_of_isRelative {text : String} (relative : isRelative text = true) :
    takeScheme? (significant text.toList) = none :=
  Option.isNone_iff_eq_none.mp (Bool.and_eq_true_iff.mp relative).1

theorem namesSite_of_isRelative (own : String) {text : String} (relative : isRelative text = true) :
    namesSite own text = false := by
  have noSlash := (Bool.and_eq_true_iff.mp relative).2
  unfold namesSite
  dsimp only
  rw [takeScheme?_of_isRelative relative]
  dsimp only
  cases chars : significant text.toList with
  | nil => rfl
  | cons first rest =>
      rw [chars] at noSlash
      obtain ⟨slash, backslash⟩ := Bool.and_eq_true_iff.mp noSlash
      have other (special : Bool) : isSlash special first = false := by
        rw [isSlash, beq_false_of_ne (bne_iff_ne.mp slash), beq_false_of_ne (bne_iff_ne.mp backslash),
          Bool.and_false, Bool.or_false]
      cases rest with
      | nil => rfl
      | cons second later => rw [beginsAuthority, other, Bool.false_and]

/-- Below the root of a site a relative path leads to the same site. -/
theorem join_relative {base : Url} {text : String} {segments : List String}
    (other : base.scheme ≠ "file") (below : base.path = .segments segments)
    (relative : isRelative text = true) :
    ∃ place, base.join text = .ok place ∧ place.SameSite base ∧
      ∃ own, place.path = .segments own := by
  have unnamed := namesSite_of_isRelative base.scheme relative
  unfold namesSite at unnamed
  unfold join
  dsimp only at unnamed ⊢
  rw [takeScheme?_of_isRelative relative] at unnamed ⊢
  dsimp only at unnamed ⊢
  rw [isSpecial_of_ne_file other] at unnamed
  rw [below]
  dsimp only
  rw [if_neg other]
  obtain ⟨place, read, same, own⟩ := readReference_unnamed unnamed
  exact ⟨place, read, same, own segments below⟩

end PresenceGateway.Url
