import PresenceGateway.Proofs.Text.SmallLetters
import PresenceGateway.Proofs.Url.Sites
/-!
Relative paths of plain names. Letters, digits, dots, underscores and hyphens stand for themselves in
an address, and none of them ends a name, so below a folder such a path leads exactly to the names that
are written in it.
-/
namespace PresenceGateway.Url

def isNameChar (c : Char) : Bool :=
  c.isAlphanum || c == '.' || c == '_' || c == '-'

def isPathChar (c : Char) : Bool :=
  isNameChar c || c == '/'

theorem isPathChar_of_isNameChar {c : Char} (plain : isNameChar c = true) : isPathChar c = true := by
  rw [isPathChar, plain, Bool.true_or]

theorem ascii_of_isAlphanum {c : Char} (letter : c.isAlphanum = true) : c.toNat < 128 := by
  have cases : (c.isUpper = true ∨ c.isLower = true) ∨ c.isDigit = true := by
    rw [← Bool.or_eq_true, ← Bool.or_eq_true]
    exact letter
  rcases cases with (upper | lower) | digit
  · have bound := UInt32.le_iff_toNat_le.mp (of_decide_eq_true upper).2
    exact Nat.lt_of_le_of_lt bound (by decide)
  · have bounds := Bool.and_eq_true_iff.mp lower
    have bound := UInt32.le_iff_toNat_le.mp (of_decide_eq_true bounds.2)
    exact Nat.lt_of_le_of_lt bound (by decide)
  · rw [Char.isDigit_iff_toNat] at digit
    exact Nat.lt_of_le_of_lt digit.2 (by decide)

theorem ascii_of_isPathChar {c : Char} (plain : isPathChar c = true) : c.toNat < 128 := by
  simp only [isPathChar, isNameChar, Bool.or_eq_true, beq_iff_eq] at plain
  rcases plain with (((letter | rfl) | rfl) | rfl) | rfl
  · exact ascii_of_isAlphanum letter
  all_goals decide

/-- A fact about all characters of plain paths is one about finitely many. -/
theorem forall_isPathChar (holds : Char → Prop) [DecidablePred holds]
    (each : ∀ n : Fin 128, isPathChar (Char.ofNat n) = true → holds (Char.ofNat n)) {c : Char}
    (plain : isPathChar c = true) : holds c :=
  Text.forall_ascii (fun c => isPathChar c = true → holds c) each (ascii_of_isPathChar plain) plain

theorem isPathChar_spec {c : Char} (plain : isPathChar c = true) :
    0x20 < c.toNat ∧ (c ≠ '#' ∧ c ≠ '?' ∧ c ≠ ':' ∧ c ≠ '|' ∧ c ≠ '\\') ∧
      (c.toLower ≠ '%' ∧ (c.toLower = '.' → c = '.')) ∧ encodeChar pathSet c = [c] :=
  forall_isPathChar (fun c => 0x20 < c.toNat ∧
    (c ≠ '#' ∧ c ≠ '?' ∧ c ≠ ':' ∧ c ≠ '|' ∧ c ≠ '\\') ∧
      (c.toLower ≠ '%' ∧ (c.toLower = '.' → c = '.')) ∧ encodeChar pathSet c = [c])
    (by decide +kernel) plain

/-! ### How a plain path is read -/

section Plain

variable {cs : List Char} (plain : ∀ c ∈ cs, isPathChar c = true)

include plain

theorem significant_of_plain : significant cs = cs := by
  have inner : ∀ c ∈ cs, ¬ c.toNat ≤ 0x20 := fun c inside =>
    Nat.not_le_of_lt (isPathChar_spec (plain c inside)).1
  have kept (list : List Char) (same : ∀ c ∈ list, c ∈ cs) :
      list.dropWhile (fun c => decide (c.toNat ≤ 0x20)) = list := by
    cases list with
    | nil => rfl
    | cons first rest =>
        have other := inner first (same first List.mem_cons_self)
        rw [List.dropWhile_cons_of_neg (by simpa using other)]
  have counts : cs.filter (fun c => c ≠ '\t' ∧ c ≠ '\n' ∧ c ≠ '\r') = cs := by
    rw [List.filter_eq_self]
    intro c inside
    have other := inner c inside
    rw [decide_eq_true_eq]
    refine ⟨?_, ?_, ?_⟩
    all_goals
      rintro rfl
      exact other (by decide)
  unfold significant
  dsimp only
  rw [kept cs fun c inside => inside, kept cs.reverse fun c inside => List.mem_reverse.mp inside,
    List.reverse_reverse]
  exact counts

theorem notMem_of_plain {mark : Char} (other : isPathChar mark = false) : mark ∉ cs := by
  intro inside
  rw [plain mark inside] at other
  cases other

theorem takeScheme?_of_plain : takeScheme? cs = none := by
  have noColon : ':' ∉ cs := notMem_of_plain plain (by decide)
  unfold takeScheme?
  dsimp only
  split
  · rfl
  · split
    · split
      · rename_i rest found
        have inside : ':' ∈ (_ : List Char) := found ▸ List.mem_cons_self
        exact absurd ((List.dropWhile_sublist _).mem inside) noColon
      · rfl
    · rfl

theorem ofChars_of_plain : Parts.ofChars cs = { body := cs, query := none, fragment := none } := by
  unfold Parts.ofChars
  rw [Text.cutChars_of_absent (notMem_of_plain plain (by decide))]
  dsimp only
  rw [Text.cutChars_of_absent (notMem_of_plain plain (by decide))]

theorem encode_of_plain : cs.flatMap (encodeChar pathSet) = cs := by
  induction cs with
  | nil => rfl
  | cons c rest ih =>
      obtain ⟨first, later⟩ := List.forall_mem_cons.mp plain
      rw [List.flatMap_cons, (isPathChar_spec first).2.2.2, ih later, List.singleton_append]

theorem pathSegments_of_plain (special : Bool) :
    pathSegments special cs = (Text.splitChars '/' cs).map String.ofList := by
  have unified : cs.map (fun c => if isSlash special c then '/' else c) = cs := by
    refine (List.map_congr_left fun c inside => ?_).trans (List.map_id cs)
    have noBackslash := (isPathChar_spec (plain c inside)).2.1.2.2.2.2
    by_cases slash : c = '/'
    · rw [slash, ite_self, id]
    · rw [isSlash, beq_false_of_ne slash, beq_false_of_ne noBackslash, Bool.and_false, Bool.or_false]
      rfl
  unfold pathSegments
  dsimp only
  rw [unified]
  refine List.map_congr_left fun part listed => ?_
  rw [encode_of_plain fun c inside => plain c (Text.mem_of_mem_splitChars listed inside).1]

end Plain

/-! ### Names -/

/-- A plain file name: its characters are plain, and it is not one of the two names for places. -/
structure IsName (name : String) : Prop where
  plain : ∀ c ∈ name.toList, isNameChar c = true
  notHere : name ≠ "."
  notAbove : name ≠ ".."

theorem asciiLower_toList (text : String) :
    (Text.asciiLower text).toList = text.toList.map Char.toLower :=
  String.toList_map

/-- Dots are written in one way only where percent signs are not. -/
theorem eq_of_asciiLower_eq {name dots : String} (plain : ∀ c ∈ name.toList, isNameChar c = true)
    (onlyDots : ∀ c ∈ dots.toList, c = '.') (same : Text.asciiLower name = dots) : name = dots := by
  have lower : name.toList.map Char.toLower = dots.toList := by
    rw [← asciiLower_toList, same]
  have itself : name.toList.map Char.toLower = name.toList := by
    refine (List.map_congr_left fun c inside => ?_).trans (List.map_id _)
    have dot : c.toLower = '.' :=
      onlyDots _ (lower ▸ List.mem_map_of_mem inside)
    have spec := isPathChar_spec (isPathChar_of_isNameChar (plain c inside))
    rw [dot, spec.2.2.1.2 dot, id]
  exact String.toList_inj.mp (itself.symm.trans lower)

theorem asciiLower_ne_of_percent {name other : String}
    (plain : ∀ c ∈ name.toList, isNameChar c = true) (percent : '%' ∈ other.toList) :
    Text.asciiLower name ≠ other := by
  intro same
  rw [← same, asciiLower_toList] at percent
  obtain ⟨c, inside, lower⟩ := List.mem_map.mp percent
  exact (isPathChar_spec (isPathChar_of_isNameChar (plain c inside))).2.2.1.1 lower

theorem isDriveLetter_of_plain {text : String} (plain : ∀ c ∈ text.toList, isPathChar c = true) :
    isDriveLetter text = false := by
  unfold isDriveLetter
  split
  · rename_i c mark shape
    have inside : mark ∈ text.toList := by
      rw [shape]
      exact List.mem_cons_of_mem _ List.mem_cons_self
    obtain ⟨_, _, noColon, noBar, _⟩ := (isPathChar_spec (plain mark inside)).2.1
    rw [beq_false_of_ne noColon, beq_false_of_ne noBar, Bool.or_false, Bool.and_false]
  · rfl

namespace IsName

variable {name : String} (isName : IsName name)

include isName

theorem isSingleDot_eq : isSingleDot name = false := by
  rw [isSingleDot, beq_false_of_ne isName.notHere,
    beq_false_of_ne (asciiLower_ne_of_percent isName.plain (by decide)), Bool.or_false]

theorem isDoubleDot_eq : isDoubleDot name = false := by
  have onlyDots : ∀ c ∈ "..".toList, c = '.' := by
    intro c inside
    simpa using inside
  have notDots : Text.asciiLower name ≠ ".." := fun same =>
    isName.notAbove (eq_of_asciiLower_eq isName.plain onlyDots same)
  unfold isDoubleDot
  dsimp only
  rw [beq_false_of_ne notDots,
    beq_false_of_ne (asciiLower_ne_of_percent isName.plain (by decide : '%' ∈ ".%2e".toList)),
    beq_false_of_ne (asciiLower_ne_of_percent isName.plain (by decide : '%' ∈ "%2e.".toList)),
    beq_false_of_ne (asciiLower_ne_of_percent isName.plain (by decide : '%' ∈ "%2e%2e".toList))]
  rfl

theorem isDriveLetter_eq : isDriveLetter name = false :=
  isDriveLetter_of_plain fun c inside => isPathChar_of_isNameChar (isName.plain c inside)

end IsName

/-- Names are put one below the other. -/
theorem resolve_of_names (file : Bool) (done : List String) {names : List String}
    (nonempty : names ≠ []) (all : ∀ name ∈ names, IsName name) :
    resolve file done names = done.reverse ++ names := by
  induction names generalizing done with
  | nil => exact absurd rfl nonempty
  | cons name rest ih =>
      obtain ⟨first, later⟩ := List.forall_mem_cons.mp all
      cases rest with
      | nil =>
          rw [resolve, first.isDoubleDot_eq, first.isSingleDot_eq, first.isDriveLetter_eq,
            Bool.and_false]
          simp only [Bool.false_eq_true, if_false, List.reverse_cons]
      | cons second others =>
          rw [resolve, first.isDoubleDot_eq, first.isSingleDot_eq, first.isDriveLetter_eq,
            Bool.and_false]
          · simp only [Bool.false_eq_true, if_false]
            rw [ih (name :: done) (List.cons_ne_nil _ _) later, List.reverse_cons, List.append_assoc,
              List.singleton_append]
          · exact List.cons_ne_nil _ _

/-- A path of plain names that starts with one. -/
structure IsPlainPath (text : String) : Prop where
  plain : ∀ c ∈ text.toList, isPathChar c = true
  relative : text.toList.head? ≠ some '/'
  names : ∀ name ∈ Text.split '/' text, IsName name

theorem split_ne_nil (text : String) : Text.split '/' text ≠ [] :=
  fun none => Text.splitChars_ne_nil '/' text.toList (List.map_eq_nil_iff.mp none)

/-- Nothing leads to the folder itself. -/
theorem renewed_of_empty {base : Url} {above : List String} {text : String}
    (below : base.path = .segments (above ++ [""])) (bare : base.query = none)
    (empty : text.toList = []) :
    (renewed base (Parts.ofChars [])).path = .segments (above ++ Text.split '/' text) ∧
      (renewed base (Parts.ofChars [])).query = none ∧
      (renewed base (Parts.ofChars [])).hasHost = base.hasHost := by
  rw [Text.split, empty]
  exact ⟨below, bare, rfl⟩

section Below

variable {base : Url} {above : List String} {text : String} (isPath : IsPlainPath text)
  (below : base.path = .segments (above ++ [""])) (bare : base.query = none)

include isPath

theorem noSlash_of_plain {special : Bool} {c : Char} {rest : List Char}
    (shape : text.toList = c :: rest) : isSlash special c = false := by
  have notSlash : c ≠ '/' := by
    rintro rfl
    exact isPath.relative (by rw [shape]; rfl)
  have noBackslash := (isPathChar_spec (isPath.plain c (shape ▸ List.mem_cons_self))).2.1.2.2.2.2
  rw [isSlash, beq_false_of_ne notSlash, beq_false_of_ne noBackslash, Bool.and_false, Bool.or_false]

theorem isRelative_of_plain : isRelative text = true := by
  unfold isRelative
  dsimp only
  rw [significant_of_plain isPath.plain, takeScheme?_of_plain isPath.plain]
  cases shape : text.toList with
  | nil => rfl
  | cons c rest =>
      have noSlash : isSlash true c = false := noSlash_of_plain isPath shape
      rw [isSlash, Bool.true_and, Bool.or_eq_false_iff] at noSlash
      rw [List.head?_cons, Option.all_some, bne, bne, noSlash.1, noSlash.2]
      rfl

theorem resolve_of_plain (file special : Bool) (done : List String) :
    resolve file done (pathSegments special text.toList) =
      done.reverse ++ Text.split '/' text := by
  rw [pathSegments_of_plain isPath.plain]
  exact resolve_of_names file done (split_ne_nil text) isPath.names

theorem head?_split_of_plain (nonempty : text ≠ "") : (Text.split '/' text).head? ≠ some "" := by
  cases shape : text.toList with
  | nil => exact absurd (String.toList_eq_nil_iff.mp shape) nonempty
  | cons c rest =>
      have notSlash : c ≠ '/' := by
        rintro rfl
        exact isPath.relative (by rw [shape]; rfl)
      obtain ⟨first, later, _, split⟩ := Text.splitChars_cons '/' c rest
      intro empty
      rw [Text.split, shape, split, if_neg notSlash, List.map_cons, List.head?_cons,
        Option.some.injEq] at empty
      have none := congrArg String.toList empty
      rw [String.toList_ofList] at none
      cases none

/-- A path of names on a host, below others. -/
theorem fileAt_of_plain (host : Host) (apart : above.head? ≠ some "") (nonempty : text ≠ "") :
    (fileAt host above text.toList).path = .segments (above ++ Text.split '/' text) ∧
      (fileAt host above text.toList).query = none ∧
      (fileAt host above text.toList).host = some host := by
  have named : (above ++ Text.split '/' text).head? ≠ some "" := by
    rw [List.head?_append]
    cases above with
    | nil => exact head?_split_of_plain isPath nonempty
    | cons first rest => exact apart
  have counted : (above ++ Text.split '/' text).dropWhile (·.isEmpty) =
      above ++ Text.split '/' text := by
    cases whole : above ++ Text.split '/' text with
    | nil => rfl
    | cons first rest =>
        rw [whole, List.head?_cons] at named
        have some_ : first.isEmpty = false := by
          rw [Bool.eq_false_iff, ne_eq, String.isEmpty_iff]
          exact fun empty => named (congrArg some empty)
        rw [List.dropWhile_cons_of_neg (by rw [some_]; exact Bool.false_ne_true)]
  have some_ : (above ++ Text.split '/' text).isEmpty = false := by
    rw [List.isEmpty_eq_false_iff]
    exact List.append_ne_nil_of_right_ne_nil _ (split_ne_nil text)
  have noDrive : (above.isEmpty && (above ++ Text.split '/' text).head?.any isDriveLetter) =
      false := by
    cases above with
    | nil =>
        cases names : Text.split '/' text with
        | nil => rfl
        | cons first rest =>
            exact (isPath.names first (names ▸ List.mem_cons_self)).isDriveLetter_eq
    | cons first rest => rfl
  unfold fileAt
  dsimp only
  rw [ofChars_of_plain isPath.plain, resolve_of_plain isPath, List.reverse_reverse, counted, some_,
    noDrive]
  exact ⟨rfl, rfl, rfl⟩

include below bare

theorem readFile_of_plain (apart : above.head? ≠ some "") :
    ∃ place, readFile (some base) text.toList = .ok place ∧
      place.path = .segments (above ++ Text.split '/' text) ∧ place.query = none ∧
      place.hasHost = base.hasHost := by
  cases shape : text.toList with
  | nil => exact ⟨_, rfl, renewed_of_empty below bare shape⟩
  | cons c rest =>
      have spec := (isPathChar_spec (isPath.plain c (shape ▸ List.mem_cons_self))).2.1
      have noMark : ¬ (c = '?' ∨ c = '#') := not_or.mpr ⟨spec.2.1, spec.1⟩
      have noDrive : startsWithDrive (c :: rest) = false := by
        rw [startsWithDrive, isDriveLetter_of_plain, Bool.false_and]
        intro other inside
        rw [String.toList_ofList, ← shape] at inside
        exact isPath.plain other (List.mem_of_mem_take inside)
      have own : folder true base.path = above := by
        rw [below, folder, List.getLast?_concat]
        exact List.dropLast_concat
      have nonempty : text ≠ "" := by
        rintro rfl
        cases shape
      refine ⟨fileAt (base.host.getD (.plain "")) above (c :: rest), ?_, ?_⟩
      · unfold readFile
        dsimp only
        rw [noSlash_of_plain isPath shape, own, if_neg noMark, noDrive]
        rfl
      · rw [← shape]
        obtain ⟨path, query, host⟩ := fileAt_of_plain isPath _ apart nonempty
        refine ⟨path, query, ?_⟩
        rw [hasHost, hasHost, host]
        cases base.host with
        | none => rfl
        | some own => rfl

theorem readReference_of_plain :
    ∃ place, base.readReference text.toList = .ok place ∧
      place.path = .segments (above ++ Text.split '/' text) ∧ place.query = none ∧
      place.hasHost = base.hasHost := by
  have lastIsEmpty : folder false base.path = above := by
    rw [below, folder, Bool.false_and]
    exact List.dropLast_concat
  unfold readReference
  rw [ofChars_of_plain isPath.plain]
  dsimp only
  cases shape : text.toList with
  | nil => exact ⟨_, rfl, renewed_of_empty below bare shape⟩
  | cons c rest =>
      dsimp only
      rw [noSlash_of_plain isPath shape, lastIsEmpty, ← shape, resolve_of_plain isPath,
        List.reverse_reverse]
      exact ⟨_, rfl, rfl, rfl, rfl⟩

/-- Below a folder a path of names leads to these names. -/
theorem join_of_plain (apart : above.head? ≠ some "") :
    ∃ place, base.join text = .ok place ∧
      place.path = .segments (above ++ Text.split '/' text) ∧ place.query = none ∧
      place.hasHost = base.hasHost := by
  unfold join
  dsimp only
  rw [significant_of_plain isPath.plain, takeScheme?_of_plain isPath.plain]
  dsimp only
  rw [below]
  dsimp only
  split
  · exact readFile_of_plain isPath below bare apart
  · exact readReference_of_plain isPath below bare

end Below

end PresenceGateway.Url
