import PresenceGateway.Proofs.Text.Utf8
import PresenceGateway.Url.Basic
/-!
Form-encoded pairs are read back as they were. Each byte of a text is written as a plus sign, as itself,
or as a percent sign with two digits. None of these is an ampersand or an equals sign, so a query has
those exactly where the encoding put them.
-/
namespace PresenceGateway

namespace Url

theorem hexChar_spec {n : Nat} (digit : n < 16) :
    (hexChar n).toNat < 0x80 ∧ hexValue? (UInt8.ofNat (hexChar n).toNat) = some n := by
  have each : ∀ n : Fin 16,
      (hexChar n).toNat < 0x80 ∧ hexValue? (UInt8.ofNat (hexChar n).toNat) = some n.val := by
    decide
  exact each ⟨n, digit⟩

theorem hexValue?_spec {b : UInt8} {n : Nat} (digit : hexValue? b = some n) :
    b ≠ 0x26 ∧ b ≠ 0x2B ∧ b ≠ 0x3D := by
  refine ⟨?_, ?_, ?_⟩
  all_goals
    rintro rfl
    cases digit

theorem decodeBytes_cons {b : UInt8} (noPercent : b ≠ 0x25) (rest : List UInt8) :
    decodeBytes (b :: rest) = b :: decodeBytes rest := by
  rw [decodeBytes]
  intro first second later percent
  exact absurd percent noPercent

theorem decodeBytes_percent {first second : UInt8} {high low : Nat}
    (firstDigit : hexValue? first = some high) (secondDigit : hexValue? second = some low)
    (rest : List UInt8) :
    decodeBytes (0x25 :: first :: second :: rest) =
      UInt8.ofNat (high * 16 + low) :: decodeBytes rest := by
  rw [decodeBytes, firstDigit, secondDigit]

end Url

namespace Form

open Url

/-! ### Texts -/

theorem isPlain_spec {b : UInt8} (plain : isPlain b = true) :
    b.toNat < 0x80 ∧ b ≠ 0x25 ∧ b ≠ 0x26 ∧ b ≠ 0x2B ∧ b ≠ 0x3D := by
  refine ⟨?_, ?_, ?_, ?_, ?_⟩
  · simp only [isPlain, Bool.or_eq_true, Bool.and_eq_true, decide_eq_true_eq, beq_iff_eq,
      UInt8.le_iff_toNat_le, ← UInt8.toNat_inj, UInt8.toNat_ofNat] at plain
    omega
  all_goals
    rintro rfl
    cases plain

def spelling (b : UInt8) : List UInt8 :=
  (encodeByte b).flatMap String.utf8EncodeChar

theorem spelling_cases (b : UInt8) :
    (b = 0x20 ∧ spelling b = [0x2B]) ∨ (isPlain b = true ∧ spelling b = [b]) ∨
      ∃ first second, spelling b = [0x25, first, second] ∧
        hexValue? first = some (b.toNat / 16) ∧ hexValue? second = some (b.toNat % 16) := by
  unfold spelling encodeByte
  by_cases space : b = 0x20
  · exact .inl ⟨space, by rw [if_pos space]; rfl⟩
  by_cases plain : isPlain b = true
  · refine .inr (.inl ⟨plain, ?_⟩)
    have small := (isPlain_spec plain).1
    have same : (Char.ofNat b.toNat).toNat = b.toNat := by
      rw [Char.ofNat, dif_pos (.inl (by omega))]
      rfl
    rw [if_neg space, if_pos plain, List.flatMap_singleton,
      Text.Utf8.utf8EncodeChar_of_ascii (same.symm ▸ small), same, UInt8.ofNat_toNat]
  · have size := b.toNat_lt
    obtain ⟨high, first⟩ := hexChar_spec (show b.toNat / 16 < 16 by omega)
    obtain ⟨low, second⟩ := hexChar_spec (show b.toNat % 16 < 16 by omega)
    refine .inr (.inr ⟨_, _, ?_, first, second⟩)
    rw [if_neg space, if_neg plain, Url.encodeByte, List.flatMap_cons, List.flatMap_cons,
      List.flatMap_singleton, Text.Utf8.utf8EncodeChar_of_ascii high,
      Text.Utf8.utf8EncodeChar_of_ascii low]
    rfl

theorem spelling_no_separator {b written : UInt8} (inside : written ∈ spelling b) :
    written ≠ 0x26 ∧ written ≠ 0x3D := by
  rcases spelling_cases b with ⟨_, plus⟩ | ⟨plain, itself⟩ | ⟨first, second, coded, high, low⟩
  · rw [plus, List.mem_singleton] at inside
    rw [inside]
    decide
  · rw [itself, List.mem_singleton] at inside
    rw [inside]
    have := isPlain_spec plain
    exact ⟨this.2.2.1, this.2.2.2.2⟩
  · rw [coded, List.mem_cons, List.mem_cons, List.mem_singleton] at inside
    rcases inside with rfl | rfl | rfl
    · decide
    · exact ⟨(hexValue?_spec high).1, (hexValue?_spec high).2.2⟩
    · exact ⟨(hexValue?_spec low).1, (hexValue?_spec low).2.2⟩

def plusToSpace (b : UInt8) : UInt8 :=
  if b = 0x2B then 0x20 else b

theorem plusToSpace_of_ne {b : UInt8} (other : b ≠ 0x2B) : plusToSpace b = b :=
  if_neg other

theorem decodeBytes_spelling (b : UInt8) (rest : List UInt8) :
    decodeBytes ((spelling b ++ rest).map plusToSpace) = b :: decodeBytes (rest.map plusToSpace) := by
  rcases spelling_cases b with ⟨rfl, plus⟩ | ⟨plain, itself⟩ | ⟨first, second, coded, high, low⟩
  · rw [plus, List.singleton_append, List.map_cons]
    exact decodeBytes_cons (by decide) _
  · obtain ⟨_, noPercent, _, noPlus, _⟩ := isPlain_spec plain
    rw [itself, List.singleton_append, List.map_cons, plusToSpace_of_ne noPlus,
      decodeBytes_cons noPercent]
  · have whole : b.toNat / 16 * 16 + b.toNat % 16 = b.toNat := by omega
    rw [coded, List.cons_append, List.cons_append, List.singleton_append, List.map_cons,
      List.map_cons, List.map_cons, plusToSpace_of_ne (show (0x25 : UInt8) ≠ 0x2B by decide),
      plusToSpace_of_ne (hexValue?_spec high).2.1, plusToSpace_of_ne (hexValue?_spec low).2.1,
      decodeBytes_percent high low, whole, UInt8.ofNat_toNat]

theorem decodeBytes_spellings (bytes : List UInt8) :
    decodeBytes ((bytes.flatMap spelling).map plusToSpace) = bytes := by
  induction bytes with
  | nil => rfl
  | cons b rest ih => rw [List.flatMap_cons, decodeBytes_spelling, ih]

def spelled (text : String) : List UInt8 :=
  (Text.Utf8.encode text).flatMap spelling

theorem encodeText_bytes (text : String) :
    (encodeText text).flatMap String.utf8EncodeChar = spelled text :=
  List.flatMap_assoc

theorem spelled_no_separator {text : String} {written : UInt8} (inside : written ∈ spelled text) :
    written ≠ 0x26 ∧ written ≠ 0x3D := by
  obtain ⟨b, _, here⟩ := List.mem_flatMap.mp inside
  exact spelling_no_separator here

theorem decodeText_spelled (text : String) : decodeText (spelled text) = text := by
  have read : decodeBytes ((spelled text).map plusToSpace) = Text.Utf8.encode text :=
    decodeBytes_spellings _
  rw [decodeText]
  exact (congrArg Text.Utf8.decodeLossy read).trans (Text.Utf8.decodeLossy_encode text)

/-! ### Pairs -/

def spelledPair (pair : String × String) : List UInt8 :=
  spelled pair.1 ++ 0x3D :: spelled pair.2

theorem encodePair_bytes (pair : String × String) :
    (encodePair pair).flatMap String.utf8EncodeChar = spelledPair pair := by
  rw [encodePair, List.flatMap_append, List.flatMap_cons, encodeText_bytes, encodeText_bytes]
  rfl

theorem spelledPair_no_separator (pair : String × String) : 0x26 ∉ spelledPair pair := by
  intro inside
  rcases List.mem_append.mp inside with name | rest
  · exact (spelled_no_separator name).1 rfl
  · rcases List.mem_cons.mp rest with equals | value
    · cases equals
    · exact (spelled_no_separator value).1 rfl

theorem decodePair_spelledPair (pair : String × String) : decodePair (spelledPair pair) = pair := by
  have name : ∀ b ∈ spelled pair.1, (b ≠ 0x3D : Bool) = true := by
    intro b inside
    exact decide_eq_true (spelled_no_separator inside).2
  rw [decodePair, spelledPair, List.takeWhile_append_of_pos name, List.dropWhile_append_of_pos name]
  simp [decodeText_spelled]

/-! ### Queries -/

theorem splitBytes_separator {separator : UInt8} {rest part : List UInt8}
    {later : List (List UInt8)} (split : splitBytes separator rest = part :: later) :
    splitBytes separator (separator :: rest) = [] :: part :: later := by
  unfold splitBytes at split ⊢
  rw [List.foldr_cons, split]
  exact if_pos rfl

theorem splitBytes_append {separator : UInt8} {rest part before : List UInt8}
    {later : List (List UInt8)} (clean : separator ∉ before)
    (split : splitBytes separator rest = part :: later) :
    splitBytes separator (before ++ rest) = (before ++ part) :: later := by
  induction before with
  | nil => exact split
  | cons b before ih =>
      rw [List.mem_cons, not_or] at clean
      have tail := ih clean.2
      unfold splitBytes at tail ⊢
      rw [List.cons_append, List.foldr_cons, tail]
      exact if_neg (Ne.symm clean.1)

/-- The parts of an encoded query are its encoded pairs. -/
theorem splitBytes_encode (first : String × String) (later : List (String × String)) :
    splitBytes 0x26 ((encode (first :: later)).flatMap String.utf8EncodeChar) =
      (first :: later).map spelledPair := by
  induction later generalizing first with
  | nil =>
      have last := splitBytes_append (spelledPair_no_separator first)
        (show splitBytes 0x26 [] = [[]] from rfl)
      rw [List.append_nil] at last
      rw [encode, encodePair_bytes]
      exact last
  | cons second later ih =>
      have rest := splitBytes_separator (ih second)
      have whole := splitBytes_append (spelledPair_no_separator first) rest
      rw [List.append_nil] at whole
      rw [encode, List.flatMap_append, List.flatMap_cons, encodePair_bytes]
      · exact whole
      · exact List.cons_ne_nil second later

/-- Pairs are read back from their encoding, whatever characters are in them. -/
theorem decode_encode (pairs : List (String × String)) :
    decode (String.ofList (encode pairs)) = pairs := by
  cases pairs with
  | nil => rfl
  | cons first later =>
      have parts := splitBytes_encode first later
      have nonempty : ∀ part ∈ (first :: later).map spelledPair, (!part.isEmpty) = true := by
        intro part inside
        obtain ⟨pair, _, rfl⟩ := List.mem_map.mp inside
        simp [spelledPair]
      rw [decode, Text.Utf8.encode, String.toList_ofList, parts, List.filter_eq_self.mpr nonempty,
        List.map_map]
      exact (List.map_congr_left fun pair _ => decodePair_spelledPair pair).trans (List.map_id _)

/-- Bytes on both sides of a separator are split on their own. -/
theorem splitBytes_between (separator : UInt8) (before after : List UInt8) :
    splitBytes separator (before ++ separator :: after) =
      splitBytes separator before ++ splitBytes separator after := by
  have split (bytes : List UInt8) :
      ∃ part later, splitBytes separator bytes = part :: later := by
    induction bytes with
    | nil => exact ⟨[], [], rfl⟩
    | cons b rest ih =>
        obtain ⟨part, later, found⟩ := ih
        unfold splitBytes at found ⊢
        rw [List.foldr_cons, found]
        dsimp only
        split
        · exact ⟨_, _, rfl⟩
        · exact ⟨_, _, rfl⟩
  induction before with
  | nil =>
      obtain ⟨part, later, found⟩ := split after
      rw [List.nil_append, splitBytes_separator found, found]
      rfl
  | cons b before ih =>
      obtain ⟨part, later, found⟩ := split before
      rw [found] at ih
      unfold splitBytes at ih found ⊢
      rw [List.cons_append, List.foldr_cons, List.foldr_cons, ih, found]
      by_cases separates : b = separator
      · simp [separates]
      · simp [separates]

theorem decode_between (before after : String) :
    decode (before ++ "&" ++ after) = decode before ++ decode after := by
  have bytes : Text.Utf8.encode (before ++ "&" ++ after) =
      Text.Utf8.encode before ++ 0x26 :: Text.Utf8.encode after := by
    unfold Text.Utf8.encode
    rw [String.toList_append, String.toList_append, List.flatMap_append, List.flatMap_append,
      List.append_assoc]
    rfl
  rw [decode, bytes, splitBytes_between, List.filter_append, List.map_append]
  rfl

end Form

/-! ### Addresses -/

namespace Url

@[simp] theorem hasHost_appendPairs (place : Url) (pairs : List (String × String)) :
    (place.appendPairs pairs).hasHost = place.hasHost := rfl

/-- The pairs of an address with pairs at its end are its own and then these. -/
theorem pairs_appendPairs (place : Url) (pairs : List (String × String)) :
    (place.appendPairs pairs).pairs = place.pairs ++ pairs := by
  unfold Url.pairs appendPairs
  cases place.query with
  | none => exact Form.decode_encode pairs
  | some query =>
      by_cases empty : query.isEmpty = true
      · have nothing : query = "" := String.isEmpty_iff.mp empty
        subst nothing
        exact Form.decode_encode pairs
      · dsimp only
        rw [if_neg empty, Form.decode_between, Form.decode_encode]

theorem appendPairs_query_injective {place : Url} {pairs other : List (String × String)}
    (same : (place.appendPairs pairs).query = (place.appendPairs other).query) : pairs = other := by
  have read : (place.appendPairs pairs).pairs = (place.appendPairs other).pairs := by
    unfold Url.pairs
    rw [same]
  rw [pairs_appendPairs, pairs_appendPairs] at read
  exact List.append_cancel_left read

/-- Only the query of an address is different with other pairs at its end. -/
theorem text_appendPairs (place : Url) : ∃ before path after, ∀ pairs,
    (place.appendPairs pairs).text =
      before ++ (path ++ ("?" ++ (place.appendPairs pairs).query.getD "")) ++ after := by
  let before := place.scheme ++ ":" ++ place.authorityText ++ place.pathGuard
  obtain ⟨scheme, username, password, host, port, path, query, fragment⟩ := place
  cases fragment with
  | none => exact ⟨before, path.text, "", fun _ => rfl⟩
  | some fragment => exact ⟨before, path.text, "#" ++ fragment, fun _ => rfl⟩

/-- The text of an address tells what pairs are in it. -/
theorem appendPairs_text_injective {place : Url} {pairs other : List (String × String)}
    (same : (place.appendPairs pairs).text = (place.appendPairs other).text) : pairs = other := by
  apply appendPairs_query_injective
  obtain ⟨query, found⟩ : ∃ query, (place.appendPairs pairs).query = some query := ⟨_, rfl⟩
  obtain ⟨queryToo, foundToo⟩ : ∃ query, (place.appendPairs other).query = some query := ⟨_, rfl⟩
  obtain ⟨before, path, after, around⟩ := place.text_appendPairs
  rw [around, around, String.append_left_inj, String.append_right_inj, String.append_right_inj,
    String.append_right_inj, found, foundToo] at same
  rw [found, foundToo]
  exact congrArg some same

end Url

end PresenceGateway
