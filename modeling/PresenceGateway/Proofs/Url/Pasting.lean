import PresenceGateway.Proofs.Url.Authorities
import PresenceGateway.Proofs.Url.Names
/-!
Addresses that are pasted together: a scheme and two slashes, any text in the place of a host, a colon,
a port and a slash. The text is a host when nothing in it ends an authority; otherwise the colon and the
port become part of the path, the query or the fragment.
-/
namespace PresenceGateway.Url

/-! ### The end of a path -/

theorem colon_mem_asciiLower {segment : String} (colon : ':' ∈ segment.toList) :
    ':' ∈ (Text.asciiLower segment).toList := by
  rw [asciiLower_toList]
  exact List.mem_map.mpr ⟨':', colon, rfl⟩

theorem isDots_of_colon {segment : String} (colon : ':' ∈ segment.toList) :
    isDoubleDot segment = false ∧ isSingleDot segment = false := by
  have other {dots : String} (without : ':' ∉ dots.toList) : Text.asciiLower segment ≠ dots :=
    fun same => without (same ▸ colon_mem_asciiLower colon)
  have here : segment ≠ "." := by
    rintro rfl
    exact absurd colon (by decide)
  unfold isDoubleDot isSingleDot
  dsimp only
  rw [beq_false_of_ne (other (by decide)), beq_false_of_ne (other (by decide)),
    beq_false_of_ne (other (by decide)), beq_false_of_ne (other (by decide)),
    beq_false_of_ne (other (by decide)), beq_false_of_ne here]
  exact ⟨rfl, rfl⟩

/-- A segment with a colon stays, and so does the empty one at the end. -/
theorem resolve_of_colon {segment : String} (colon : ':' ∈ segment.toList) (front done : List String) :
    ∃ above, resolve false done (front ++ [segment, ""]) = above ++ [segment, ""] := by
  induction front generalizing done with
  | nil =>
      obtain ⟨double, single⟩ := isDots_of_colon colon
      have blank : isDoubleDot "" = false ∧ isSingleDot "" = false := by decide +kernel
      have last : resolve false (segment :: done) [""] = done.reverse ++ [segment, ""] := by
        rw [resolve, blank.1, blank.2]
        simp
      refine ⟨done.reverse, ?_⟩
      rw [List.nil_append, resolve, double, single, ← last]
      · simp
      · exact List.cons_ne_nil _ _
  | cons head rest ih =>
      have more : rest ++ [segment, ""] ≠ [] :=
        List.append_ne_nil_of_right_ne_nil _ (List.cons_ne_nil _ _)
      rw [List.cons_append, resolve]
      · simp only [Bool.false_and]
        split
        · exact ih _
        · split
          · exact ih _
          · exact ih _
      · exact more

theorem pathSegments_of_colon (special : Bool) (front : List Char) {digits : List Char}
    (all : ∀ c ∈ digits, c.isDigit = true) :
    ∃ above segment, pathSegments special (front ++ ':' :: (digits ++ ['/'])) =
      above ++ [segment, ""] ∧ ':' ∈ segment.toList := by
  let unify (c : Char) : Char := if isSlash special c then '/' else c
  let encode (part : List Char) : String := String.ofList (part.flatMap (encodeChar pathSet))
  have noDigit {c : Char} (digit : c.isDigit = true) : isSlash special c = false := by
    have notSlash : c ≠ '/' := by
      rintro rfl
      cases digit
    have noBackslash : c ≠ '\\' := by
      rintro rfl
      cases digit
    rw [isSlash, beq_false_of_ne notSlash, beq_false_of_ne noBackslash, Bool.and_false,
      Bool.or_false]
  have kept : digits.map unify = digits := by
    refine (List.map_congr_left fun c inside => ?_).trans (List.map_id _)
    simp only [unify]
    rw [noDigit (all c inside)]
    rfl
  have unified : (front ++ ':' :: (digits ++ ['/'])).map unify =
      (front.map unify ++ ':' :: digits) ++ ['/'] := by
    have colon : unify ':' = ':' := by cases special <;> rfl
    have slash : unify '/' = '/' := by cases special <;> rfl
    rw [List.map_append, List.map_cons, List.map_append, kept, colon, List.map_singleton, slash,
      List.append_assoc, List.cons_append]
  have absent : '/' ∉ ':' :: digits := by
    rw [List.mem_cons, not_or]
    refine ⟨by decide, fun inside => ?_⟩
    have digit := all '/' inside
    cases digit
  obtain ⟨items, last, split, ends⟩ := Text.exists_last_item absent (front.map unify)
  refine ⟨items.map encode, encode last, ?_, ?_⟩
  · change (Text.splitChars '/' ((front ++ ':' :: (digits ++ ['/'])).map unify)).map encode = _
    rw [unified, Text.splitChars_append, split, List.map_append, List.map_append, List.append_assoc]
    rfl
  · rw [String.toList_ofList, List.mem_flatMap]
    exact ⟨':', ends.mem List.mem_cons_self, by decide⟩

/-! ### What is pasted -/

/-- An authority ends at the first character that ends one, and with it begins the path. -/
theorem readAfterSlashes_eq_ok {scheme : String} {front rest : List Char} {first : Char} {url : Url}
    (web : isWeb scheme = true) (closed : ∀ c ∈ front, endsAuthority true c = false)
    (ends : endsAuthority true first = true)
    (read : readAfterSlashes scheme (front ++ first :: rest) = .ok url) :
    ∃ authority, readAuthority scheme front true = .ok authority ∧ url = {
      scheme
      username := authority.username
      password := authority.password
      host := some authority.host
      port := authority.port
      path := absolutePath true (Parts.ofChars (first :: rest)).body
      query := (Parts.ofChars (first :: rest)).queryText true
      fragment := (Parts.ofChars (first :: rest)).fragmentText } := by
  have inside : ∀ c ∈ front, (!endsAuthority true c) = true := by
    intro c here
    rw [closed c here]
    rfl
  have noBackslash : '\\' ∉ front := by
    intro here
    have other := closed _ here
    cases other
  have taken : (front ++ first :: rest).takeWhile (fun c => !endsAuthority true c) = front := by
    rw [List.takeWhile_append_of_pos inside, List.takeWhile_cons, ends]
    exact List.append_nil front
  have left : (front ++ first :: rest).dropWhile (fun c => !endsAuthority true c) =
      first :: rest := by
    rw [List.dropWhile_append_of_pos inside, List.dropWhile_cons, ends]
    rfl
  unfold readAfterSlashes at read
  rw [web] at read
  dsimp only at read
  rw [taken, left] at read
  obtain ⟨authority, readFront, same⟩ := bind_eq_ok_iff.mp read
  rw [rest_of_readAuthority web noBackslash readFront, List.nil_append] at same
  exact ⟨authority, readFront, (Except.ok.inj same).symm⟩

section

variable {scheme : String} (web : isWeb scheme = true) {front : List Char} {n : Nat} {url : Url}
  (read : readAfterSlashes scheme (front ++ ':' :: (Nat.toDigits 10 n ++ ['/'])) = .ok url)

include web read

/-- When nothing ends the authority early, the port is the one that is pasted, and what follows it is
the root. -/
theorem readAfterSlashes_of_closed (closed : ∀ c ∈ front, endsAuthority true c = false) :
    url.scheme = scheme ∧ url.effectivePort? = some n ∧ url.path = .segments [""] ∧
      url.query = none ∧ url.fragment = none ∧
      (url.username = "" ∧ url.password = "" ↔ Anonymous front) := by
  have whole : ∀ c ∈ front ++ ':' :: Nat.toDigits 10 n, endsAuthority true c = false := by
    intro c here
    rcases List.mem_append.mp here with early | late
    · exact closed c early
    · rcases List.mem_cons.mp late with rfl | digit
      · rfl
      · have isDigit := Nat.isDigit_of_mem_toDigits (by decide) (by decide) digit
        rw [Bool.eq_false_iff]
        intro ends
        simp only [endsAuthority, isSlash, Bool.true_and, Bool.or_eq_true, beq_iff_eq] at ends
        rcases ends with ((rfl | rfl) | rfl) | rfl <;> cases isDigit
  have noBackslash : '\\' ∉ front := by
    intro here
    have other := closed _ here
    cases other
  have root : absolutePath true ['/'] = .segments [""] := by decide +kernel
  rw [← List.cons_append, ← List.append_assoc] at read
  obtain ⟨authority, readFront, rfl⟩ := readAfterSlashes_eq_ok web whole rfl read
  obtain ⟨port, user⟩ := readAuthority_of_port web noBackslash readFront
  exact ⟨rfl, port, root, rfl, rfl, user⟩

/-- Otherwise the colon and the port come after the authority, where none of them is left out. -/
theorem readAfterSlashes_of_open {c : Char} (inside : c ∈ front)
    (ends : endsAuthority true c = true) :
    url.path ≠ .segments [""] ∨ url.query ≠ none ∨ url.fragment ≠ none := by
  obtain ⟨first, found⟩ : ∃ first, front.find? (endsAuthority true) = some first :=
    Option.isSome_iff_exists.mp (List.find?_isSome.mpr ⟨c, inside, ends⟩)
  obtain ⟨ending, before, after, rfl, others⟩ := List.find?_eq_some_iff_append.mp found
  have closed : ∀ c ∈ before, endsAuthority true c = false := by
    intro c here
    rw [← Bool.not_eq_true']
    exact others c here
  rw [List.append_assoc, List.cons_append] at read
  obtain ⟨authority, _, rfl⟩ := readAfterSlashes_eq_ok web closed ending read
  have digits : ∀ c ∈ Nat.toDigits 10 n, c.isDigit = true := fun c =>
    Nat.isDigit_of_mem_toDigits (by decide) (by decide)
  obtain ⟨above, segment, segments, colon⟩ := pathSegments_of_colon true after digits
  obtain ⟨folders, resolved⟩ := resolve_of_colon colon above []
  generalize after ++ ':' :: (Nat.toDigits 10 n ++ ['/']) = rest at read segments
  dsimp only
  by_cases hash : '#' ∈ first :: rest
  · obtain ⟨front, later, cut, absent⟩ := List.eq_append_cons_of_mem hash
    refine .inr (.inr ?_)
    rw [Parts.fragmentText, Parts.ofChars, cut, Text.cutChars_append absent]
    exact Option.some_ne_none _
  by_cases question : '?' ∈ first :: rest
  · obtain ⟨front, later, cut, absent⟩ := List.eq_append_cons_of_mem question
    refine .inr (.inl ?_)
    rw [Parts.queryText, Parts.ofChars, Text.cutChars_of_absent hash]
    dsimp only
    rw [cut, Text.cutChars_append absent]
    exact Option.some_ne_none _
  have slash : isSlash true first = true := by
    have notHash : first ≠ '#' := fun same => hash (same ▸ List.mem_cons_self)
    have notQuestion : first ≠ '?' := fun same => question (same ▸ List.mem_cons_self)
    rwa [endsAuthority, beq_false_of_ne notHash, beq_false_of_ne notQuestion, Bool.or_false,
      Bool.or_false] at ending
  left
  rw [Parts.ofChars, Text.cutChars_of_absent hash]
  dsimp only
  rw [Text.cutChars_of_absent question]
  dsimp only
  rw [absolutePath, slash, if_pos rfl, segments, resolved]
  intro same
  have length := congrArg List.length (Path.segments.inj same)
  simp at length

end

end PresenceGateway.Url
