import Mathlib.Algebra.Group.Int.Defs
import PresenceGateway.Dsm.Envelope
/-!
When an answer can be read. An object is read as a record when its keys are texts and no field of the
record is written twice; what is in its other members makes no difference. So an envelope can be read
exactly when its flag, its data and its code can, and the data is read whether the call succeeded or
not.
-/
namespace PresenceGateway

namespace Numeral

/-! ### Integers as they are written -/

def signed (numeral : Numeral) : Int :=
  if numeral.negative then -numeral.coefficient else numeral.coefficient

/-- The numeral stands for an integer, whether or not it is written like one. -/
def Denotes (numeral : Numeral) (value : Int) : Prop :=
  numeral.signed * 10 ^ numeral.scale.toNat = value * 10 ^ (-numeral.scale).toNat

/-- Written with digits alone, and not as minus zero. -/
def Integral (numeral : Numeral) : Prop :=
  numeral.isPlain = true ∧ ¬ (numeral.negative = true ∧ numeral.signed = 0)

theorem denotes_iff_of_isPlain {numeral : Numeral} {value : Int} (plain : numeral.isPlain = true) :
    numeral.Denotes value ↔ numeral.signed = value := by
  have parts := Bool.and_eq_true_iff.mp plain
  have fraction := List.isEmpty_iff.mp parts.1
  have exponent := Option.isNone_iff_eq_none.mp parts.2
  have scale : numeral.scale = 0 := by
    rw [Numeral.scale, fraction, exponent]
    rfl
  rw [Denotes, scale, Int.neg_zero, Int.toNat_zero, pow_zero, Int.mul_one, Int.mul_one]

theorem integral_iff {numeral : Numeral} :
    (numeral.isPlain && !(numeral.negative && numeral.signed == 0)) = true ↔ numeral.Integral := by
  rw [Bool.and_eq_true_iff, Bool.not_eq_true', Bool.eq_false_iff, ne_eq, Bool.and_eq_true_iff,
    beq_iff_eq]
  rfl

end Numeral

namespace Json.Number

theorem ofNumeral?_eq (numeral : Numeral) :
    ofNumeral? numeral =
      if fits : -0x8000000000000000 ≤ numeral.signed ∧ numeral.signed < 0x10000000000000000 then
        if numeral.isPlain && !(numeral.negative && numeral.signed == 0) then
          some (.integer numeral.signed fits)
        else (scaled? numeral).map .double
      else (scaled? numeral).map .double := rfl

theorem ofNumeral?_of_integral {numeral : Numeral} (integral : numeral.Integral)
    (fits : -0x8000000000000000 ≤ numeral.signed ∧ numeral.signed < 0x10000000000000000) :
    ofNumeral? numeral = some (.integer numeral.signed fits) := by
  rw [ofNumeral?_eq, dif_pos fits, if_pos (Numeral.integral_iff.mpr integral)]

theorem integral_of_ofNumeral? {numeral : Numeral} {value : Int}
    {fits : -0x8000000000000000 ≤ value ∧ value < 0x10000000000000000}
    (read : ofNumeral? numeral = some (.integer value fits)) :
    numeral.Integral ∧ numeral.signed = value := by
  have double : (scaled? numeral).map Number.double ≠
      some (.integer value fits) := by
    cases scaled? numeral <;> simp
  rw [ofNumeral?_eq] at read
  split at read
  · split at read
    · rename_i whole
      exact ⟨Numeral.integral_iff.mp whole, (Number.integer.inj (Option.some.inj read))⟩
    · exact absurd read double
  · exact absurd read double

end Json.Number

namespace Dsm

open Json (Tree StringUnits)

/-! ### Records that are written as objects -/

def named (members : List (StringUnits × Tree)) : List (String × Tree) :=
  members.filterMap fun member => member.1.text?.map fun key => (key, member.2)

/-- What the members of one name hold, in order. -/
def called (name : String) (members : List (StringUnits × Tree)) : List Tree :=
  ((named members).filter fun member => member.1 = name).map (·.2)

def Spelled (members : List (StringUnits × Tree)) : Prop :=
  ∀ member ∈ members, ∃ key, member.1.text? = some key

theorem mapM_text_eq_some_iff {members : List (StringUnits × Tree)}
    {found : List (String × Tree)} :
    (members.mapM fun member => member.1.text?.map fun key => (key, member.2)) = some found ↔
      Spelled members ∧ found = named members := by
  induction members generalizing found with
  | nil =>
      rw [List.mapM_nil]
      constructor
      · intro same
        refine ⟨fun member impossible => ?_, (Option.some.inj same).symm⟩
        cases impossible
      · rintro ⟨_, rfl⟩
        rfl
  | cons member rest ih =>
      obtain ⟨units, tree⟩ := member
      unfold Spelled named at ih ⊢
      rw [List.mapM_cons, List.forall_mem_cons, List.filterMap_cons]
      dsimp only
      cases units.text? with
      | none => simp
      | some key =>
          rw [Option.map_some, Option.bind_eq_bind, Option.bind_some]
          constructor
          · intro read
            obtain ⟨later, laterRead, same⟩ := Option.bind_eq_some_iff.mp read
            obtain ⟨spelled, rfl⟩ := ih.mp laterRead
            exact ⟨⟨⟨key, rfl⟩, spelled⟩, (Option.some.inj same).symm⟩
          · rintro ⟨⟨_, spelled⟩, rfl⟩
            exact Option.bind_eq_some_iff.mpr ⟨_, ih.mpr ⟨spelled, rfl⟩, rfl⟩

namespace Read

theorem member_named_eq_some_iff {members : List (StringUnits × Tree)} {name : String}
    {found : Option Tree} :
    member (named members) name = some found ↔ called name members = found.toList := by
  unfold member called
  cases (named members).filter fun member => member.1 = name with
  | nil => cases found <;> simp
  | cons first rest =>
      cases rest with
      | nil => cases found <;> simp [eq_comm]
      | cons second rest => cases found <;> simp

theorem fields_object {names : List String} {needed levels : Nat}
    {members : List (StringUnits × Tree)} {found : List (Option Tree)} :
    fields names needed (levels + 1) (.object members) = some found ↔
      Spelled members ∧ names.mapM (member (named members)) = some found := by
  refine Option.bind_eq_some_iff.trans ?_
  constructor
  · rintro ⟨pairs, read, rest⟩
    obtain ⟨spelled, rfl⟩ := mapM_text_eq_some_iff.mp read
    exact ⟨spelled, rest⟩
  · rintro ⟨spelled, rest⟩
    exact ⟨_, mapM_text_eq_some_iff.mpr ⟨spelled, rfl⟩, rest⟩

theorem fields_object_one {name : String} {needed levels : Nat}
    {members : List (StringUnits × Tree)} {found : Option Tree} :
    fields [name] needed (levels + 1) (.object members) = some [found] ↔
      Spelled members ∧ called name members = found.toList := by
  rw [fields_object, ← member_named_eq_some_iff, List.mapM_cons, List.mapM_nil]
  cases member (named members) name with
  | none => simp
  | some held => simp

theorem fields_object_three {first second third : String} {needed levels : Nat}
    {members : List (StringUnits × Tree)} {a b c : Option Tree} :
    fields [first, second, third] needed (levels + 1) (.object members) = some [a, b, c] ↔
      Spelled members ∧ called first members = a.toList ∧ called second members = b.toList ∧
        called third members = c.toList := by
  rw [fields_object, ← member_named_eq_some_iff, ← member_named_eq_some_iff,
    ← member_named_eq_some_iff, List.mapM_cons, List.mapM_cons, List.mapM_cons, List.mapM_nil]
  cases member (named members) first <;> cases member (named members) second <;>
    cases member (named members) third <;> simp

end Read

/-! ### Integers and codes -/

def IsCode (code : Int) : Prop :=
  -0x8000000000000000 ≤ code ∧ code ≤ 0x7FFFFFFFFFFFFFFF

namespace Read

/-- Reads an integer between bounds off a number. -/
theorem integer_number {low high value : Int} {levels : Nat} {numeral : Numeral}
    (above : -0x8000000000000000 ≤ low) (below : high < 0x10000000000000000) :
    integer low high levels (.number numeral) = some value ↔
      numeral.Integral ∧ numeral.Denotes value ∧ low ≤ value ∧ value ≤ high := by
  unfold integer
  dsimp only
  constructor
  · intro read
    split at read
    · rename_i found fits isInteger
      obtain ⟨integral, rfl⟩ := Json.Number.integral_of_ofNumeral? isInteger
      obtain ⟨inside, same⟩ := Option.ite_none_right_eq_some.mp read
      cases Option.some.inj same
      exact ⟨integral, (Numeral.denotes_iff_of_isPlain integral.1).mpr rfl, inside⟩
    · cases read
  · rintro ⟨integral, denotes, inside⟩
    obtain rfl := (Numeral.denotes_iff_of_isPlain integral.1).mp denotes
    rw [Json.Number.ofNumeral?_of_integral integral
      ⟨Int.le_trans above inside.1, Int.lt_of_le_of_lt inside.2 below⟩]
    exact if_pos inside

theorem integer_eq_some_iff {low high value : Int} {levels : Nat} {tree : Tree}
    (above : -0x8000000000000000 ≤ low) (below : high < 0x10000000000000000) :
    integer low high levels tree = some value ↔
      ∃ numeral, tree = .number numeral ∧ numeral.Integral ∧ numeral.Denotes value ∧
        low ≤ value ∧ value ≤ high := by
  cases tree with
  | number numeral =>
      rw [integer_number above below]
      constructor
      · exact fun means => ⟨numeral, rfl, means⟩
      · rintro ⟨_, same, means⟩
        cases same
        exact means
  | _ => simp [integer]

theorem required_eq_some_iff {α : Type} {read : Reader α} {levels : Nat} {found : Option Tree}
    {value : α} :
    required read levels found = some value ↔
      ∃ tree, found.toList = [tree] ∧ read levels tree = some value := by
  cases found <;> simp [required]

end Read

/-! ### The parts of an envelope -/

/-- A tree from which a session id is read: a text alone in an array, or under its name in an object
where nothing else is. -/
inductive GivesId : Tree → String → Prop where
  | placed {units : StringUnits} {sid : String} (text : units.text? = some sid) :
      GivesId (.array [.string units]) sid
  | called {members : List (StringUnits × Tree)} {units : StringUnits} {sid : String}
      (spelled : Spelled members) (once : called "sid" members = [.string units])
      (text : units.text? = some sid) : GivesId (.object members) sid

def GivesCode (fields : List (StringUnits × Tree)) (code : Int) : Prop :=
  Spelled fields ∧ ∃ numeral, called "code" fields = [.number numeral] ∧ numeral.Integral ∧
    numeral.Denotes code ∧ IsCode code

/-- What a member that need not be there gives: nothing when it is absent or null. -/
inductive Offers {α : Type} (read : Tree → Option α) : List Tree → Option α → Prop where
  | absent : Offers read [] none
  | null : Offers read [.null] none
  | given {tree : Tree} {value : α} (present : tree ≠ .null) (given : read tree = some value) :
      Offers read [tree] (some value)

theorem Offers.exists_toList {α : Type} {read : Tree → Option α} {held : List Tree}
    {result : Option α} (offers : Offers read held result) :
    ∃ found : Option Tree, held = found.toList := by
  cases offers with
  | absent => exact ⟨none, rfl⟩
  | null => exact ⟨some .null, rfl⟩
  | given => exact ⟨some _, rfl⟩

namespace Read

theorem text_eq_some_iff {levels : Nat} {tree : Tree} {found : String} :
    text levels tree = some found ↔ ∃ units, tree = .string units ∧ units.text? = some found := by
  cases tree with
  | string units =>
      constructor
      · exact fun read => ⟨units, rfl, read⟩
      · rintro ⟨_, same, read⟩
        cases same
        exact read
  | _ => simp [text]

theorem flag_eq_some_iff {levels : Nat} {tree : Tree} {value : Bool} :
    flag levels tree = some value ↔ tree = .bool value := by
  cases tree <;> simp [flag]

theorem code_object {levels : Nat} {members : List (StringUnits × Tree)} {value : Int} :
    code (levels + 1) (.object members) = some value ↔ GivesCode members value := by
  unfold code GivesCode
  constructor
  · intro read
    split at read
    · rename_i found fields
      obtain ⟨spelled, once⟩ := fields_object_one.mp fields
      obtain ⟨tree, here, read⟩ := required_eq_some_iff.mp read
      obtain ⟨numeral, rfl, means⟩ := (integer_eq_some_iff (by decide) (by decide)).mp read
      exact ⟨spelled, numeral, once.trans here, means⟩
    · cases read
  · rintro ⟨spelled, numeral, once, means⟩
    have fields : fields ["code"] 1 (levels + 1) (.object members) =
        some [some (.number numeral)] := fields_object_one.mpr ⟨spelled, once⟩
    rw [fields]
    exact (@integer_eq_some_iff _ _ _ levels _ (by decide) (by decide)).mpr ⟨numeral, rfl, means⟩

theorem fields_array_one {name : String} {levels : Nat} {items : List Tree} {found : Option Tree} :
    fields [name] 1 (levels + 1) (.array items) = some [found] ↔
      ∃ tree, items = [tree] ∧ found = some tree := by
  cases items with
  | nil => simp [fields]
  | cons first rest =>
      cases rest with
      | nil => simp [fields, eq_comm]
      | cons second rest => simp [fields]

theorem sessionId_eq_some_iff {levels : Nat} {tree : Tree} {sid : String} :
    sessionId (levels + 1) tree = some sid ↔ GivesId tree sid := by
  have readAs (found : Option Tree) (fields : fields ["sid"] 1 (levels + 1) tree = some [found]) :
      sessionId (levels + 1) tree = required text levels found := by
    rw [sessionId, fields]
    rfl
  constructor
  · intro read
    unfold sessionId at read
    split at read
    · rename_i found fields
      obtain ⟨held, here, read⟩ := required_eq_some_iff.mp read
      obtain ⟨units, rfl, read⟩ := text_eq_some_iff.mp read
      cases tree with
      | array items =>
          obtain ⟨_, rfl, rfl⟩ := fields_array_one.mp fields
          cases here
          exact .placed read
      | object members =>
          obtain ⟨spelled, once⟩ := fields_object_one.mp fields
          exact .called spelled (once.trans here) read
      | _ => cases fields
    · cases read
  · intro gives
    cases gives with
    | placed read =>
        rw [readAs _ (fields_array_one.mpr ⟨_, rfl, rfl⟩)]
        exact read
    | called spelled once read =>
        rw [readAs (some (.string _)) (fields_object_one.mpr ⟨spelled, once⟩)]
        exact read

theorem optional_eq_some_iff {α : Type} {read : Reader α} {levels : Nat} {found : Option Tree}
    {result : Option α} :
    optional read levels found = some result ↔ Offers (read levels) found.toList result := by
  have whole {tree : Tree} (present : tree ≠ .null) :
      optional read levels (some tree) = (read levels tree).map some := by
    cases tree with
    | null => exact absurd rfl present
    | _ => rfl
  constructor
  · intro answer
    cases found with
    | none =>
        cases answer
        exact .absent
    | some tree =>
        by_cases null : tree = .null
        · subst null
          cases answer
          exact .null
        · rw [whole null] at answer
          obtain ⟨value, given, rfl⟩ := Option.map_eq_some_iff.mp answer
          exact .given null given
  · intro offers
    cases found with
    | none =>
        cases offers
        rfl
    | some tree =>
        cases offers with
        | null => rfl
        | given present given => rw [whole present, given, Option.map_some]

/-- An envelope is read off an object exactly when all its parts are. -/
theorem envelope_object {α : Type} {data : Reader α} {levels : Nat}
    {members : List (StringUnits × Tree)} {answer : Envelope α} :
    envelope data (levels + 1) (.object members) = some answer ↔
      Spelled members ∧ called "success" members = [.bool answer.success] ∧
        Offers (data levels) (called "data" members) answer.data ∧
        Offers (code levels) (called "error" members) answer.code := by
  unfold envelope
  constructor
  · intro read
    split at read
    · rename_i success found failure fields
      obtain ⟨spelled, successHere, dataHere, errorHere⟩ := fields_object_three.mp fields
      split at read
      · rename_i flag value code flagRead dataRead codeRead
        cases read
        obtain ⟨tree, here, flagRead⟩ := required_eq_some_iff.mp flagRead
        cases flag_eq_some_iff.mp flagRead
        refine ⟨spelled, successHere.trans here, ?_, ?_⟩
        · rw [dataHere]
          exact optional_eq_some_iff.mp dataRead
        · rw [errorHere]
          exact optional_eq_some_iff.mp codeRead
      · cases read
    · cases read
  · rintro ⟨spelled, success, offersData, offersCode⟩
    obtain ⟨found, dataHere⟩ := offersData.exists_toList
    obtain ⟨failure, errorHere⟩ := offersCode.exists_toList
    have fields : fields ["success", "data", "error"] 3 (levels + 1) (.object members) =
        some [some (.bool answer.success), found, failure] :=
      fields_object_three.mpr ⟨spelled, success, dataHere, errorHere⟩
    rw [dataHere] at offersData
    rw [errorHere] at offersCode
    have flagRead : required flag levels (some (.bool answer.success)) = some answer.success := rfl
    rw [fields]
    dsimp only
    rw [Nat.add_sub_cancel, flagRead, optional_eq_some_iff.mpr offersData,
      optional_eq_some_iff.mpr offersCode]

end Read

end Dsm

end PresenceGateway
