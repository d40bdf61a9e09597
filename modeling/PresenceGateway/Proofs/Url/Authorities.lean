import Mathlib.Data.List.Basic
import PresenceGateway.Proofs.Decimal.Digits
import PresenceGateway.Proofs.Sequencing
import PresenceGateway.Proofs.Text.Items
import PresenceGateway.Proofs.Url.Hosts
import PresenceGateway.Url.Parser
/-!
Authorities that end with a colon and a number. If such a text is an authority at all, the number is
its port: a colon before it would have to stand in brackets, with nothing but the port after them.
-/
namespace PresenceGateway.Url

/-! ### Cutting -/

theorem cutLast_of_absent {mark : Char} {text : List Char} (absent : mark ∉ text) :
    cutLast mark text = none := by
  have none : text.reverse.dropWhile (· ≠ mark) = [] := by
    rw [List.dropWhile_eq_nil_iff]
    exact Text.ne_separator_of_mem fun inside => absent (List.mem_reverse.mp inside)
  rw [cutLast, none]

/-- A text is cut at its last mark, after which there is none. -/
theorem cutLast_append {mark : Char} {after : List Char} (absent : mark ∉ after)
    (before : List Char) : cutLast mark (before ++ mark :: after) = some (before, after) := by
  have each : ∀ c ∈ after.reverse, decide (c ≠ mark) = true :=
    Text.ne_separator_of_mem fun inside => absent (List.mem_reverse.mp inside)
  have reversed : (before ++ mark :: after).reverse = after.reverse ++ mark :: before.reverse := by
    rw [List.reverse_append, List.reverse_cons, List.append_assoc, List.singleton_append]
  unfold cutLast
  rw [reversed, List.dropWhile_append_of_pos each, List.takeWhile_append_of_pos each,
    List.dropWhile_cons_of_neg (by simp), List.takeWhile_cons_of_neg (by simp)]
  dsimp only
  rw [List.reverse_reverse, List.append_nil, List.reverse_reverse]

theorem exists_last {mark : Char} {text : List Char} (inside : mark ∈ text) :
    ∃ before after, text = before ++ mark :: after ∧ mark ∉ after := by
  obtain ⟨after, before, split, absent⟩ :=
    List.eq_append_cons_of_mem (List.mem_reverse.mpr inside)
  refine ⟨before.reverse, after.reverse, ?_, fun again => absent (List.mem_reverse.mp again)⟩
  rw [List.reverse_eq_iff.mp split, List.reverse_append, List.reverse_cons, List.append_assoc,
    List.singleton_append]

/-! ### Hosts and ports -/

theorem takeHost_spec (inBrackets : Bool) (text : List Char) :
    (takeHost inBrackets text).1 ++ (takeHost inBrackets text).2 = text ∧
      ((takeHost inBrackets text).2 = [] ∨ ∃ rest, (takeHost inBrackets text).2 = ':' :: rest) := by
  induction text generalizing inBrackets with
  | nil => exact ⟨rfl, .inl rfl⟩
  | cons c rest ih =>
      rw [takeHost]
      split
      · rename_i colon
        exact ⟨rfl, .inr ⟨rest, by rw [colon.1]⟩⟩
      · obtain ⟨whole, shape⟩ := ih (if c = '[' then true else if c = ']' then false else inBrackets)
        exact ⟨congrArg (c :: ·) whole, shape⟩

theorem readPort_eq_ok {scheme : String} {text rest : List Char} {port : Option Nat}
    (clean : '\\' ∉ text) (read : readPort scheme text = .ok (port, rest)) :
    rest = [] ∧ ∀ c ∈ text, c.isDigit = true := by
  unfold readPort at read
  dsimp only at read
  have none : text.dropWhile Char.isDigit = [] := by
    split at read
    · cases read
    · rename_i fits
      cases left : text.dropWhile Char.isDigit with
      | nil => rfl
      | cons c more =>
          have inside : c ∈ text := by
            apply (List.dropWhile_sublist Char.isDigit).mem
            rw [left]
            exact List.mem_cons_self
          have other : c ≠ '\\' := by
            rintro rfl
            exact clean inside
          exact absurd (.inr (by rw [left]; simpa using other)) fits
  refine ⟨?_, List.dropWhile_eq_nil_iff.mp none⟩
  split at read
  · cases read
  · split at read
    · cases read
      exact none
    · cases read
      exact none

theorem readPort_digits {scheme : String} {n : Nat} {port : Option Nat} {rest : List Char}
    (read : readPort scheme (Nat.toDigits 10 n) = .ok (port, rest)) :
    port.or (usualPort? scheme) = some n := by
  have digits : ∀ c ∈ Nat.toDigits 10 n, c.isDigit = true := fun c =>
    Nat.isDigit_of_mem_toDigits (by decide) (by decide)
  have value : (Nat.toDigits 10 n).foldl (fun value c => value * 10 + (c.toNat - 48)) 0 = n := by
    have whole := Numeral.ofDigits_digits n
    rw [Numeral.ofDigits, List.foldl_map] at whole
    exact whole
  unfold readPort at read
  dsimp only at read
  rw [List.takeWhile_eq_self_iff.mpr digits, value] at read
  split at read
  · cases read
  · split at read
    · rename_i usual
      cases read
      rcases usual with empty | usual
      · exact absurd (List.isEmpty_iff.mp empty) Nat.toDigits_ne_nil
      · exact usual
    · cases read
      rfl

/-! ### Users -/

theorem encodeChar_ne_nil (set : Char → Bool) (c : Char) : encodeChar set c ≠ [] := by
  unfold encodeChar
  split
  · obtain ⟨b, more, bytes, _⟩ := Text.Utf8.front_utf8EncodeChar c
    rw [bytes, List.flatMap_cons, encodeByte]
    exact List.cons_ne_nil _ _
  · exact List.cons_ne_nil _ _

theorem encodeUser_eq_empty_iff {text : List Char} : encodeUser text = "" ↔ text = [] := by
  constructor
  · intro empty
    cases text with
    | nil => rfl
    | cons c rest =>
        have none := String.toList_eq_nil_iff.mpr empty
        rw [encodeUser, String.toList_ofList, List.flatMap_cons, List.append_eq_nil_iff] at none
        exact absurd none.1 (encodeChar_ne_nil _ c)
  · rintro rfl
    rfl

/-- A user is left out when it has neither a name nor a password. -/
theorem cutChars_blank_iff {user : List Char} :
    (Text.cutChars ':' user).1 = [] ∧ (Text.cutChars ':' user).2.getD [] = [] ↔
      user = [] ∨ user = [':'] := by
  by_cases inside : ':' ∈ user
  · obtain ⟨name, password, rfl, absent⟩ := List.eq_append_cons_of_mem inside
    rw [Text.cutChars_append absent]
    cases name with
    | nil => simp
    | cons c rest => simp
  · rw [Text.cutChars_of_absent inside]
    refine ⟨fun blank => .inl blank.1, ?_⟩
    rintro (rfl | rfl)
    · exact ⟨rfl, rfl⟩
    · exact absurd List.mem_cons_self inside

/-- What stands before any at sign is nothing or a colon. -/
def Anonymous (text : List Char) : Prop :=
  ∀ before after, text = before ++ '@' :: after → before = [] ∨ before = [':']

theorem anonymous_of_absent {text : List Char} (absent : '@' ∉ text) : Anonymous text := by
  rintro before after rfl
  exact absurd (List.mem_append_right _ List.mem_cons_self) absent

theorem anonymous_iff_of_last {before after : List Char} (absent : '@' ∉ after) :
    Anonymous (before ++ '@' :: after) ↔ before = [] ∨ before = [':'] := by
  refine ⟨fun all => all before after rfl, fun blank front rest split => ?_⟩
  have only : '@' ∉ before := by
    rcases blank with rfl | rfl <;> decide
  have count := congrArg (List.count '@') split
  rw [List.count_append, List.count_append, List.count_cons_self, List.count_cons_self,
    List.count_eq_zero.mpr only, List.count_eq_zero.mpr absent] at count
  have last : '@' ∉ rest := List.count_eq_zero.mp (by omega)
  have cut := cutLast_append last front
  rw [← split, cutLast_append absent] at cut
  obtain ⟨rfl, _⟩ := Prod.mk.inj (Option.some.inj cut)
  exact blank

/-! ### Authorities -/

/-- The parts that an authority is read from. -/
theorem readAuthority_eq_ok {scheme : String} {text : List Char} {followed : Bool}
    {authority : Authority} (web : isWeb scheme = true)
    (read : readAuthority scheme text followed = .ok authority) {user location : List Char}
    (cut : (cutLast '@' text).getD ([], text) = (user, location)) :
    Host.read (takeHost false location).1 = .ok authority.host ∧
      readPort scheme ((takeHost false location).2.drop 1) =
        .ok (authority.port, authority.rest) ∧
      authority.username = encodeUser (Text.cutChars ':' user).1 ∧
      authority.password = encodeUser ((Text.cutChars ':' user).2.getD []) := by
  unfold readAuthority at read
  rw [cut] at read
  simp only [web, Bool.true_and, if_true] at read
  obtain ⟨_, read⟩ := guard_eq_ok_iff.mp read
  obtain ⟨_, read⟩ := guard_eq_ok_iff.mp read
  obtain ⟨host, hostRead, read⟩ := bind_eq_ok_iff.mp read
  obtain ⟨_, read⟩ := guard_eq_ok_iff.mp read
  obtain ⟨⟨port, rest⟩, portRead, read⟩ := bind_eq_ok_iff.mp read
  obtain ⟨_, read⟩ := guard_eq_ok_iff.mp read
  cases read
  exact ⟨hostRead, portRead, rfl, rfl⟩

/-- No part of an authority without a backslash is left for the path. -/
theorem rest_of_readAuthority {scheme : String} {text : List Char} {followed : Bool}
    {authority : Authority} (web : isWeb scheme = true) (clean : '\\' ∉ text)
    (read : readAuthority scheme text followed = .ok authority) : authority.rest = [] := by
  have inLocation : '\\' ∉ ((cutLast '@' text).getD ([], text)).2 := by
    by_cases inside : '@' ∈ text
    · obtain ⟨before, after, rfl, absent⟩ := exists_last inside
      rw [cutLast_append absent, Option.getD_some]
      exact fun again => clean (List.mem_append_right _ (List.mem_cons_of_mem _ again))
    · rw [cutLast_of_absent inside, Option.getD_none]
      exact clean
  obtain ⟨_, portRead, _⟩ := readAuthority_eq_ok web read rfl
  have whole := (takeHost_spec false ((cutLast '@' text).getD ([], text)).2).1
  refine (readPort_eq_ok (fun inside => inLocation ?_) portRead).1
  rw [← whole]
  exact List.mem_append_right _ (List.mem_of_mem_drop inside)

/-- A host with a colon and a number after it. The colon is the one before the port. -/
theorem port_of_location {scheme : String} {front : List Char} {n : Nat} {host : Host}
    {port : Option Nat} {rest : List Char} (clean : '\\' ∉ front)
    (hostRead : Host.read (takeHost false (front ++ ':' :: Nat.toDigits 10 n)).1 = .ok host)
    (portRead : readPort scheme ((takeHost false (front ++ ':' :: Nat.toDigits 10 n)).2.drop 1) =
      .ok (port, rest)) : port.or (usualPort? scheme) = some n := by
  have digits : ∀ c ∈ Nat.toDigits 10 n, c.isDigit = true := fun c =>
    Nat.isDigit_of_mem_toDigits (by decide) (by decide)
  have without {c : Char} (other : c.isDigit = false) : c ∉ Nat.toDigits 10 n := by
    intro inside
    rw [digits c inside] at other
    cases other
  obtain ⟨whole, shape⟩ := takeHost_spec false (front ++ ':' :: Nat.toDigits 10 n)
  generalize takeHost false (front ++ ':' :: Nat.toDigits 10 n) = parts at *
  obtain ⟨hostText, afterHost⟩ := parts
  dsimp only at hostRead portRead whole shape
  rcases shape with rfl | ⟨given, rfl⟩
  · -- the colon stands in brackets, which the port does not close
    rw [List.append_nil] at whole
    obtain ⟨inner, closed⟩ := Host.shape_of_colon hostRead (by simp [whole])
    rcases List.eq_nil_or_concat' (Nat.toDigits 10 n) with none | ⟨more, last, shape⟩
    · exact absurd none Nat.toDigits_ne_nil
    · rw [whole, shape, ← List.cons_append, ← List.append_assoc] at closed
      obtain ⟨_, same⟩ := List.append_inj' closed rfl
      rw [List.singleton_inj] at same
      have inside : ']' ∈ Nat.toDigits 10 n := by simp [shape, same]
      exact absurd inside (without rfl)
  · rw [List.drop_one, List.tail_cons] at portRead
    have noBackslash : '\\' ∉ given := by
      intro inside
      have among : '\\' ∈ front ++ ':' :: Nat.toDigits 10 n := by
        rw [← whole]
        exact List.mem_append_right _ (List.mem_cons_of_mem _ inside)
      rcases List.mem_append.mp among with early | late
      · exact clean early
      · rcases List.mem_cons.mp late with colon | digit
        · cases colon
        · exact without rfl digit
    have noColon : ':' ∉ given := by
      intro inside
      have digit := (readPort_eq_ok noBackslash portRead).2 ':' inside
      cases digit
    -- so both colons are the last one
    have cut := cutLast_append noColon hostText
    rw [whole, cutLast_append (without rfl)] at cut
    obtain ⟨_, same⟩ := Prod.mk.inj (Option.some.inj cut)
    rw [← same] at portRead
    exact readPort_digits portRead

/-- An authority that ends with a colon and a number has that number as its port, and a user unless it
is anonymous. -/
theorem readAuthority_of_port {scheme : String} {front : List Char} {n : Nat} {followed : Bool}
    {authority : Authority} (web : isWeb scheme = true) (clean : '\\' ∉ front)
    (read : readAuthority scheme (front ++ ':' :: Nat.toDigits 10 n) followed = .ok authority) :
    authority.port.or (usualPort? scheme) = some n ∧
      (authority.username = "" ∧ authority.password = "" ↔ Anonymous front) := by
  have noMark : '@' ∉ ':' :: Nat.toDigits 10 n := by
    rw [List.mem_cons, not_or]
    refine ⟨by decide, fun inside => ?_⟩
    have digit := Nat.isDigit_of_mem_toDigits (by decide) (by decide) inside
    cases digit
  by_cases inside : '@' ∈ front
  · obtain ⟨user, after, rfl, absent⟩ := exists_last inside
    have last : '@' ∉ after ++ ':' :: Nat.toDigits 10 n := by
      rw [List.mem_append, not_or]
      exact ⟨absent, noMark⟩
    have cut : (cutLast '@' ((user ++ '@' :: after) ++ ':' :: Nat.toDigits 10 n)).getD
        ([], (user ++ '@' :: after) ++ ':' :: Nat.toDigits 10 n) =
          (user, after ++ ':' :: Nat.toDigits 10 n) := by
      rw [List.append_assoc, List.cons_append, cutLast_append last]
      rfl
    obtain ⟨hostRead, portRead, username, password⟩ := readAuthority_eq_ok web read cut
    refine ⟨port_of_location ?_ hostRead portRead, ?_⟩
    · exact fun again => clean (List.mem_append_right _ (List.mem_cons_of_mem _ again))
    · rw [username, password, encodeUser_eq_empty_iff, encodeUser_eq_empty_iff,
        cutChars_blank_iff, anonymous_iff_of_last absent]
  · have absent : '@' ∉ front ++ ':' :: Nat.toDigits 10 n := by
      rw [List.mem_append, not_or]
      exact ⟨inside, noMark⟩
    obtain ⟨hostRead, portRead, username, password⟩ := readAuthority_eq_ok web read
      (by rw [cutLast_of_absent absent, Option.getD_none])
    refine ⟨port_of_location clean hostRead portRead, ?_⟩
    rw [username, password]
    exact iff_of_true ⟨rfl, rfl⟩ (anonymous_of_absent inside)

end PresenceGateway.Url
