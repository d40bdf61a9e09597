import PresenceGateway.Payload.Validator
import PresenceGateway.Proofs.Json.Truth
import PresenceGateway.Proofs.Sequencing
/-!
Which payloads are accepted, and which failure is reported.

`Check` names the checks of a payload in their order and says of each, on the payload alone, when it
passes. A payload is accepted when all of them pass. Otherwise the first that fails is reported, and
`Refuses` says how. A payload whose secret is refused is judged by its secret alone.
-/
namespace PresenceGateway.Payload

open Json (Value Members)

/-! ### What a payload holds -/

def field? (payload : Value) (key : String) : Option Value :=
  payload.members?.bind fun members => members.get? key

def dataField? (payload : Value) (key : String) : Option Value :=
  (field? payload "data").bind fun data => field? data key

def itemsOf : Option Value → List Value
  | some (.array items) => items
  | _ => []

def listed (payload : Value) : List Value :=
  itemsOf (dataField? payload "observations")

/-! ### The checks -/

inductive Check where
  | object
  | secretGiven
  | secretRight
  | version
  | type
  | data
  | list
  | observations
deriving DecidableEq

namespace Check

def place : Check → Nat
  | object => 0
  | secretGiven => 1
  | secretRight => 2
  | version => 3
  | type => 4
  | data => 5
  | list => 6
  | observations => 7

def Passes (configured : String) (payload : Value) : Check → Prop
  | object => ∃ members, payload = .object members
  | secretGiven => ∃ secret, field? payload "secret" = some secret ∧ ¬secret.Falsy
  | secretRight => field? payload "secret" = some (.string configured)
  | version => field? payload "version" = some (.string "2.0") ∨
      field? payload "version" = some (.string "2.1")
  | type => field? payload "type" = some (.string "DevicesSeen") ∨
      field? payload "type" = some (.string "BluetoothDevicesSeen")
  | data => ∃ members, field? payload "data" = some (.object members)
  | list => dataField? payload "observations" = none ∨
      dataField? payload "observations" = some .null ∨
      ∃ items, dataField? payload "observations" = some (.array items)
  | observations => ∀ item ∈ listed payload,
      ∃ observation, Observation.decode item = .ok observation

def PassBefore (configured : String) (payload : Value) (place : Nat) : Prop :=
  ∀ earlier : Check, earlier.place < place → earlier.Passes configured payload

def FailsFirst (configured : String) (payload : Value) (check : Check) : Prop :=
  ¬check.Passes configured payload ∧ PassBefore configured payload check.place

theorem place_injective {first second : Check} (same : first.place = second.place) :
    first = second := by
  cases first <;> cases second <;> first | rfl | cases same

theorem passBefore_first (configured : String) (payload : Value) :
    PassBefore configured payload object.place := by
  intro earlier impossible
  exact absurd impossible (Nat.not_lt_zero _)

theorem PassBefore.next {configured : String} {payload : Value} (check : Check)
    (before : PassBefore configured payload check.place)
    (passes : check.Passes configured payload) :
    PassBefore configured payload (check.place + 1) := by
  intro earlier within
  by_cases same : earlier.place = check.place
  · rw [place_injective same]
    exact passes
  · exact before earlier (by omega)

theorem FailsFirst.unique {configured : String} {payload : Value} {first second : Check}
    (left : first.FailsFirst configured payload) (right : second.FailsFirst configured payload) :
    first = second := by
  apply place_injective
  apply Nat.le_antisymm
  · exact Nat.le_of_not_lt fun later => right.1 (left.2 second later)
  · exact Nat.le_of_not_lt fun later => left.1 (right.2 first later)

end Check

/-- How a name that was not understood is shown: a text as it is, any other value as JSON. -/
def shown : Option Value → String
  | none => "<missing>"
  | some (.string name) => name
  | some value => value.text

/-- What is said of a payload when a check fails. Of the observations the least one that cannot be
read is named. -/
inductive Refuses (payload : Value) : Check → Rejection → Prop where
  | object : Refuses payload .object (.malformed "payload must be a JSON object")
  | secretGiven : Refuses payload .secretGiven .missingSecret
  | secretRight : Refuses payload .secretRight .invalidSecret
  | version : Refuses payload .version (.invalidVersion (shown (field? payload "version")))
  | type : Refuses payload .type (.invalidType (shown (field? payload "type")))
  | data : Refuses payload .data (.malformed "data must be an object")
  | list : Refuses payload .list (.malformed "data.observations must be an array")
  | observations {index : Nat} {item : Value} {cause : Json.DecodeError}
      (found : (listed payload)[index]? = some item)
      (unreadable : Observation.decode item = .error cause)
      (least : ∀ earlier < index, ∀ item, (listed payload)[earlier]? = some item →
        ∃ observation, Observation.decode item = .ok observation) :
      Refuses payload .observations (.invalidObservation index cause.message)

/-- A failing check leaves no choice of what is said. -/
theorem Refuses.unique {payload : Value} {check : Check} {first second : Rejection}
    (left : Refuses payload check first) (right : Refuses payload check second) :
    first = second := by
  cases left with
  | observations foundLeft unreadableLeft leastLeft =>
      rename_i index item cause
      cases right with
      | observations foundRight unreadableRight leastRight =>
          rename_i place other failure
          have sameIndex : index = place := by
            apply Nat.le_antisymm
            · apply Nat.le_of_not_lt
              intro earlier
              obtain ⟨observation, readable⟩ := leastLeft place earlier other foundRight
              rw [unreadableRight] at readable
              cases readable
            · apply Nat.le_of_not_lt
              intro earlier
              obtain ⟨observation, readable⟩ := leastRight index earlier item foundLeft
              rw [unreadableLeft] at readable
              cases readable
          subst sameIndex
          obtain rfl : item = other := Option.some.inj (foundLeft.symm.trans foundRight)
          obtain rfl : cause = failure :=
            Except.error.inj (unreadableLeft.symm.trans unreadableRight)
          rfl
  | _ =>
      cases right
      rfl

/-- What an accepted payload says: its own secret, version, type and access point, and the
observations that its items are read as, in their order. -/
structure Says (payload : Value) (request : Request) : Prop where
  secret : field? payload "secret" = some (.string request.secret)
  version : field? payload "version" = some (.string request.version.text)
  type : field? payload "type" = some (.string request.observationType.text)
  apMac : ∀ value, request.apMac = some value ↔
    dataField? payload "apMac" = some value ∧ value ≠ .null
  observations : (listed payload).map Observation.decode = request.observations.map .ok

/-! ### The single checks -/

theorem checkSecret_eq_ok_iff (configured : String) (provided : Option Value) (secret : String) :
    checkSecret configured provided = .ok secret ↔
      secret = configured ∧ provided = some (.string configured) ∧ configured ≠ "" := by
  unfold checkSecret
  cases provided with
  | none => simp
  | some value =>
      cases value with
      | string text =>
          by_cases empty : text = ""
          · subst empty
            simp only [Option.filter, Value.isTruthy]
            constructor
            · intro accepted
              simp at accepted
            · rintro ⟨_, same, nonempty⟩
              simp only [Option.some.injEq, Value.string.injEq] at same
              exact absurd same.symm nonempty
          · by_cases same : text = configured
            · subst same
              simp [Option.filter, Value.isTruthy, empty, eq_comm (a := text)]
            · simp [Option.filter, Value.isTruthy, empty, same]
      | null => simp [Option.filter, Value.isTruthy]
      | bool flag => cases flag <;> simp [Option.filter, Value.isTruthy]
      | number number =>
          cases truthy : (Value.number number).isTruthy <;> simp [Option.filter, truthy]
      | array items =>
          cases truthy : (Value.array items).isTruthy <;> simp [Option.filter, truthy]
      | object members =>
          cases truthy : (Value.object members).isTruthy <;> simp [Option.filter, truthy]

theorem checkSecret_eq_error {configured : String} {provided : Option Value} {cause : Rejection}
    (refused : checkSecret configured provided = .error cause) :
    (cause = .missingSecret ∧ ∀ secret, provided = some secret → secret.Falsy) ∨
      (cause = .invalidSecret ∧ (∃ secret, provided = some secret ∧ ¬secret.Falsy) ∧
        provided ≠ some (.string configured)) := by
  unfold checkSecret at refused
  cases provided with
  | none =>
      refine .inl ⟨?_, fun secret impossible => by cases impossible⟩
      simpa using refused.symm
  | some value =>
      cases truthy : value.isTruthy with
      | false =>
          refine .inl ⟨?_, ?_⟩
          · simpa [Option.filter, truthy] using refused.symm
          · rintro secret same
            cases same
            exact (Value.isTruthy_eq_false_iff value).mp truthy
      | true =>
          have present : ¬value.Falsy := by
            rw [← Value.isTruthy_eq_false_iff, truthy]
            decide
          simp only [Option.filter, truthy, if_true] at refused
          refine .inr ⟨?_, ⟨value, rfl, present⟩, ?_⟩
          · cases value with
            | string text =>
                simp only at refused
                split at refused
                · cases refused
                · exact (Except.error.inj refused).symm
            | _ => exact (Except.error.inj refused).symm
          · intro same
            cases same
            simp at refused

section Names

variable {α : Type} {parse : String → Option α} {refuse : String → Rejection} {found : Option Value}

theorem checkName_eq_ok_iff {meaning : α} :
    checkName parse refuse found = .ok meaning ↔
      ∃ name, found = some (.string name) ∧ parse name = some meaning := by
  unfold checkName
  split
  · rename_i name
    cases parsed : parse name with
    | none => simp [parsed]
    | some other => simp [parsed]
  · rename_i other
    constructor
    · intro accepted
      cases accepted
    · rintro ⟨name, same, _⟩
      exact absurd same (other name)

theorem checkName_eq_error {cause : Rejection}
    (refused : checkName parse refuse found = .error cause) :
    cause = refuse (shown found) ∧ ∀ name, found = some (.string name) → parse name = none := by
  unfold checkName at refused
  split at refused
  · rename_i name
    cases parsed : parse name with
    | none =>
        rw [parsed] at refused
        refine ⟨(Except.error.inj refused).symm, ?_⟩
        intro other same
        cases same
        exact parsed
    | some meaning =>
        rw [parsed] at refused
        cases refused
  · rename_i other
    refine ⟨?_, fun name same => absurd same (other name)⟩
    cases found with
    | none => exact (Except.error.inj refused).symm
    | some value =>
        cases value with
        | string name => exact absurd rfl (other name)
        | _ => exact (Except.error.inj refused).symm

end Names

theorem ApiVersion_parse_eq_some_iff (name : String) (version : ApiVersion) :
    ApiVersion.parse? name = some version ↔ name = version.text := by
  unfold ApiVersion.parse?
  cases version <;> simp only [ApiVersion.text] <;> split <;> simp_all

theorem ObservationType_parse_eq_some_iff (name : String) (type : ObservationType) :
    ObservationType.parse? name = some type ↔ name = type.text := by
  unfold ObservationType.parse?
  cases type <;> simp only [ObservationType.text] <;> split <;> simp_all

theorem checkData_eq_ok_iff {found : Option Value} {data : Members} :
    checkData found = .ok data ↔ found = some (.object data) := by
  unfold checkData
  split
  · simp
  · rename_i other
    constructor
    · intro accepted
      cases accepted
    · intro same
      exact absurd same (other data)

theorem checkData_eq_error {found : Option Value} {cause : Rejection}
    (refused : checkData found = .error cause) :
    cause = .dataNotAnObject ∧ ∀ data, found ≠ some (.object data) := by
  unfold checkData at refused
  split at refused
  · cases refused
  · rename_i other
    exact ⟨(Except.error.inj refused).symm, other⟩

def IsList (found : Option Value) : Prop :=
  found = none ∨ found = some .null ∨ ∃ items, found = some (.array items)

theorem checkList_eq_ok_iff {found : Option Value} {items : List Value} :
    checkList found = .ok items ↔ IsList found ∧ items = itemsOf found := by
  unfold checkList IsList
  split
  · simp [itemsOf, eq_comm]
  · simp [itemsOf, eq_comm]
  · simp [itemsOf, eq_comm]
  · rename_i notNull notArray
    simp_all

theorem checkList_eq_error {found : Option Value} {cause : Rejection}
    (refused : checkList found = .error cause) :
    cause = .observationsNotAList ∧ ¬IsList found := by
  unfold checkList at refused
  unfold IsList
  split at refused
  · cases refused
  · cases refused
  · cases refused
  · rename_i notNull notArray
    refine ⟨(Except.error.inj refused).symm, ?_⟩
    simp_all

theorem checkObservations_eq_ok_iff (index : Nat) (items : List Value)
    (observations : List Observation) :
    checkObservations index items = .ok observations ↔
      items.map Observation.decode = observations.map .ok := by
  induction items generalizing index observations with
  | nil => cases observations <;> simp [checkObservations]
  | cons item rest ih =>
      rw [checkObservations]
      cases decoded : Observation.decode item with
      | error cause => cases observations <;> simp [decoded]
      | ok observation =>
          cases observations with
          | nil => cases checkObservations (index + 1) rest <;> simp
          | cons first others =>
              rw [List.map_cons, List.map_cons, List.cons.injEq, decoded, ← ih (index + 1) others]
              cases later : checkObservations (index + 1) rest <;> simp

/-- The failure of a list of observations is that of its first item that cannot be read. -/
theorem checkObservations_eq_error {index : Nat} {items : List Value} {cause : Rejection}
    (refused : checkObservations index items = .error cause) :
    ∃ place item failure, items[place]? = some item ∧ Observation.decode item = .error failure ∧
      (∀ earlier < place, ∀ other, items[earlier]? = some other →
        ∃ observation, Observation.decode other = .ok observation) ∧
      cause = .invalidObservation (index + place) failure.message := by
  induction items generalizing index cause with
  | nil => simp [checkObservations] at refused
  | cons item rest ih =>
      rw [checkObservations] at refused
      cases decoded : Observation.decode item with
      | error failure =>
          rw [decoded] at refused
          refine ⟨0, item, failure, rfl, decoded, ?_, (Except.error.inj refused).symm⟩
          intro earlier impossible
          omega
      | ok observation =>
          simp only [decoded] at refused
          cases later : checkObservations (index + 1) rest with
          | ok others =>
              rw [later] at refused
              cases refused
          | error first =>
              rw [later] at refused
              obtain ⟨place, other, failure, found, unreadable, least, worded⟩ := ih later
              refine ⟨place + 1, other, failure, found, unreadable, ?_, ?_⟩
              · intro earlier before candidate at_
                cases earlier with
                | zero =>
                    cases at_
                    exact ⟨observation, decoded⟩
                | succ earlier => exact least earlier (by omega) candidate at_
              · rw [← Except.error.inj refused, worded]
                congr 1
                omega

/-! ### The checks together -/

theorem dataField?_eq {payload : Value} {data : Members}
    (found : field? payload "data" = some (.object data)) (key : String) :
    dataField? payload key = data.get? key := by
  rw [dataField?, found]
  rfl

theorem present_eq_some_iff (found : Option Value) (value : Value) :
    Json.Decode.present found = some value ↔ found = some value ∧ value ≠ .null := by
  unfold Json.Decode.present
  split
  · constructor
    · intro impossible
      cases impossible
    · rintro ⟨same, notNull⟩
      exact absurd (Option.some.inj same).symm notNull
  · rename_i notNull
    constructor
    · rintro rfl
      refine ⟨rfl, ?_⟩
      rintro rfl
      exact notNull rfl
    · exact fun both => both.1

theorem secretGiven_passes {configured text : String} {payload : Value}
    (found : field? payload "secret" = some (.string text)) (nonempty : text ≠ "") :
    Check.secretGiven.Passes configured payload := by
  refine ⟨_, found, ?_⟩
  intro falsy
  cases falsy
  exact nonempty rfl

theorem version_passes {configured : String} {payload : Value} {version : ApiVersion}
    (found : field? payload "version" = some (.string version.text)) :
    Check.version.Passes configured payload := by
  cases version with
  | v2_0 => exact .inl found
  | v2_1 => exact .inr found

theorem type_passes {configured : String} {payload : Value} {type : ObservationType}
    (found : field? payload "type" = some (.string type.text)) :
    Check.type.Passes configured payload := by
  cases type with
  | devicesSeen => exact .inl found
  | bluetoothDevicesSeen => exact .inr found

/-- Everything that an accepted payload satisfies, and everything that is taken from it. -/
theorem validate_eq_ok {configured : String} {members : Members} {validated : Validated}
    (accepted : validate configured members = .ok validated) :
    (∀ check : Check, check.Passes configured (.object members)) ∧ configured ≠ "" ∧
      Says (.object members) validated.request ∧
      validated = if listed (.object members) = [] then .empty validated.request
        else .ready validated.request := by
  unfold validate at accepted
  rw [bind_eq_ok_iff] at accepted
  obtain ⟨secret, secretOk, accepted⟩ := accepted
  rw [bind_eq_ok_iff] at accepted
  obtain ⟨version, versionOk, accepted⟩ := accepted
  rw [bind_eq_ok_iff] at accepted
  obtain ⟨type, typeOk, accepted⟩ := accepted
  rw [bind_eq_ok_iff] at accepted
  obtain ⟨data, dataOk, accepted⟩ := accepted
  rw [bind_eq_ok_iff] at accepted
  obtain ⟨items, itemsOk, accepted⟩ := accepted
  rw [bind_eq_ok_iff] at accepted
  obtain ⟨observations, observationsOk, accepted⟩ := accepted
  obtain ⟨rfl, secretFound, nonempty⟩ := (checkSecret_eq_ok_iff _ _ _).mp secretOk
  obtain ⟨versionName, versionFound, versionParsed⟩ := checkName_eq_ok_iff.mp versionOk
  obtain rfl := (ApiVersion_parse_eq_some_iff _ _).mp versionParsed
  obtain ⟨typeName, typeFound, typeParsed⟩ := checkName_eq_ok_iff.mp typeOk
  obtain rfl := (ObservationType_parse_eq_some_iff _ _).mp typeParsed
  have dataFound : field? (.object members) "data" = some (.object data) :=
    checkData_eq_ok_iff.mp dataOk
  have inData := dataField?_eq dataFound
  obtain ⟨isList, itemsEq⟩ := checkList_eq_ok_iff.mp itemsOk
  have listedEq : items = listed (.object members) := by
    rw [itemsEq, listed, inData]
  have decoded := (checkObservations_eq_ok_iff 0 items observations).mp observationsOk
  rw [listedEq] at decoded
  cases accepted
  have emptyIff : observations.isEmpty = true ↔ listed (.object members) = [] := by
    rw [List.isEmpty_iff, ← List.map_eq_nil_iff (f := Observation.decode), decoded,
      List.map_eq_nil_iff]
  refine ⟨?_, nonempty, ?_, ?_⟩
  · intro check
    cases check with
    | object => exact ⟨members, rfl⟩
    | secretGiven => exact secretGiven_passes secretFound nonempty
    | secretRight => exact secretFound
    | version => exact version_passes versionFound
    | type => exact type_passes typeFound
    | data => exact ⟨data, dataFound⟩
    | list =>
        change IsList (dataField? (.object members) "observations")
        rw [inData]
        exact isList
    | observations =>
        intro item member
        have image : Observation.decode item ∈
            observations.map (Except.ok (ε := Json.DecodeError)) := by
          rw [← decoded]
          exact List.mem_map_of_mem member
        obtain ⟨observation, _, same⟩ := List.mem_map.mp image
        exact ⟨observation, same.symm⟩
  · by_cases empty : observations.isEmpty = true
    all_goals
      simp only [empty, Bool.false_eq_true, if_true, if_false, Validated.request]
      refine ⟨secretFound, versionFound, typeFound, ?_, decoded⟩
      intro value
      rw [inData]
      exact present_eq_some_iff _ _
  · by_cases empty : observations.isEmpty = true
    · simp only [empty, emptyIff.mp empty, if_true, Validated.request]
    · have some_listed : ¬listed (.object members) = [] := fun none => empty (emptyIff.mpr none)
      simp only [empty, some_listed, Bool.false_eq_true, if_false, Validated.request]

theorem validate_eq_error {configured : String} {members : Members} {cause : Rejection}
    (refused : validate configured members = .error cause) :
    ∃ check : Check, check.FailsFirst configured (.object members) ∧
      Refuses (.object members) check cause := by
  unfold validate at refused
  have start : Check.PassBefore configured (.object members) Check.secretGiven.place :=
    (Check.passBefore_first configured _).next .object ⟨members, rfl⟩
  rw [bind_eq_error_iff] at refused
  rcases refused with failed | ⟨secret, secretOk, refused⟩
  · rcases checkSecret_eq_error failed with ⟨rfl, missing⟩ | ⟨rfl, given, different⟩
    · refine ⟨.secretGiven, ⟨?_, start⟩, .secretGiven⟩
      rintro ⟨secret, found, present⟩
      exact present (missing secret found)
    · exact ⟨.secretRight, ⟨different, start.next .secretGiven given⟩, .secretRight⟩
  obtain ⟨rfl, secretFound, nonempty⟩ := (checkSecret_eq_ok_iff _ _ _).mp secretOk
  have given : Check.secretGiven.Passes secret (.object members) :=
    secretGiven_passes secretFound nonempty
  have secretPasses : Check.PassBefore secret (.object members) Check.version.place :=
    Check.PassBefore.next .secretRight (start.next .secretGiven given) secretFound
  rw [bind_eq_error_iff] at refused
  rcases refused with failed | ⟨version, versionOk, refused⟩
  · obtain ⟨rfl, unknown⟩ := checkName_eq_error failed
    refine ⟨.version, ⟨?_, secretPasses⟩, .version⟩
    rintro (found | found)
    · exact absurd (unknown _ found) (by decide)
    · exact absurd (unknown _ found) (by decide)
  obtain ⟨versionName, versionFound, versionParsed⟩ := checkName_eq_ok_iff.mp versionOk
  obtain rfl := (ApiVersion_parse_eq_some_iff _ _).mp versionParsed
  have versionPasses : Check.PassBefore secret (.object members) Check.type.place :=
    Check.PassBefore.next .version secretPasses (version_passes versionFound)
  rw [bind_eq_error_iff] at refused
  rcases refused with failed | ⟨type, typeOk, refused⟩
  · obtain ⟨rfl, unknown⟩ := checkName_eq_error failed
    refine ⟨.type, ⟨?_, versionPasses⟩, .type⟩
    rintro (found | found)
    · exact absurd (unknown _ found) (by decide)
    · exact absurd (unknown _ found) (by decide)
  obtain ⟨typeName, typeFound, typeParsed⟩ := checkName_eq_ok_iff.mp typeOk
  obtain rfl := (ObservationType_parse_eq_some_iff _ _).mp typeParsed
  have typePasses : Check.PassBefore secret (.object members) Check.data.place :=
    Check.PassBefore.next .type versionPasses (type_passes typeFound)
  rw [bind_eq_error_iff] at refused
  rcases refused with failed | ⟨data, dataOk, refused⟩
  · obtain ⟨rfl, noData⟩ := checkData_eq_error failed
    refine ⟨.data, ⟨?_, typePasses⟩, .data⟩
    rintro ⟨data, found⟩
    exact noData data found
  have dataFound : field? (.object members) "data" = some (.object data) :=
    checkData_eq_ok_iff.mp dataOk
  have inData := dataField?_eq dataFound
  have dataPasses : Check.PassBefore secret (.object members) Check.list.place :=
    Check.PassBefore.next .data typePasses ⟨data, dataFound⟩
  rw [bind_eq_error_iff] at refused
  rcases refused with failed | ⟨items, itemsOk, refused⟩
  · obtain ⟨rfl, noList⟩ := checkList_eq_error failed
    rw [← inData] at noList
    exact ⟨.list, ⟨noList, dataPasses⟩, .list⟩
  obtain ⟨isList, itemsEq⟩ := checkList_eq_ok_iff.mp itemsOk
  rw [← inData] at isList itemsEq
  have listPasses : Check.PassBefore secret (.object members) Check.observations.place :=
    Check.PassBefore.next .list dataPasses isList
  rw [bind_eq_error_iff] at refused
  rcases refused with failed | ⟨observations, observationsOk, refused⟩
  · obtain ⟨place, item, failure, found, unreadable, least, rfl⟩ :=
      checkObservations_eq_error failed
    rw [itemsEq] at found least
    refine ⟨.observations, ⟨?_, listPasses⟩, ?_⟩
    · intro all
      obtain ⟨observation, readable⟩ := all item (List.mem_of_getElem? found)
      rw [unreadable] at readable
      cases readable
    · rw [Nat.zero_add]
      exact .observations found unreadable least
  cases refused

/-! ### Any JSON value -/

theorem validateValue_eq_ok {configured : String} {payload : Value} {validated : Validated}
    (accepted : validateValue configured payload = .ok validated) :
    (∀ check : Check, check.Passes configured payload) ∧ configured ≠ "" ∧
      Says payload validated.request ∧
      validated = if listed payload = [] then .empty validated.request
        else .ready validated.request := by
  cases payload with
  | object members => exact validate_eq_ok accepted
  | _ => cases accepted

theorem validateValue_eq_error {configured : String} {payload : Value} {cause : Rejection}
    (refused : validateValue configured payload = .error cause) :
    ∃ check : Check, check.FailsFirst configured payload ∧ Refuses payload check cause := by
  have notObject (other : ∀ members, payload ≠ .object members)
      (said : cause = .notAnObject) :
      ∃ check : Check, check.FailsFirst configured payload ∧ Refuses payload check cause := by
    refine ⟨.object, ⟨?_, Check.passBefore_first configured payload⟩, said ▸ .object⟩
    rintro ⟨members, same⟩
    exact other members same
  cases payload with
  | object members => exact validate_eq_error refused
  | _ =>
      apply notObject
      · intro members impossible
        cases impossible
      · exact (Except.error.inj refused).symm

/-- A payload without the configured secret is refused for the entry of its secret. -/
theorem validateValue_of_checkSecret_error {configured : String} {members : Members}
    {cause : Rejection} (refused : checkSecret configured (members.get? "secret") = .error cause) :
    validateValue configured (.object members) = .error cause := by
  change validate configured members = .error cause
  unfold validate
  rw [refused]
  rfl

/-- A value is accepted exactly when all checks pass on it, and then what it says is what is taken
from it; otherwise the first check that fails decides what is said. When the secret is refused,
nothing but the secret has a part in that, and an empty configured secret accepts nothing. -/
theorem validateValue_reports_first_failure (configured : String) (payload : Value) :
    ((∃ validated, validateValue configured payload = .ok validated) ↔
      ∀ check : Check, check.Passes configured payload) ∧
    (∀ validated, validateValue configured payload = .ok validated →
      configured ≠ "" ∧ Says payload validated.request ∧
        validated = if listed payload = [] then .empty validated.request
          else .ready validated.request) ∧
    (∀ cause, validateValue configured payload = .error cause ↔
      ∃ check : Check, check.FailsFirst configured payload ∧ Refuses payload check cause) ∧
    (∀ members others : Members, members.get? "secret" = others.get? "secret" →
      ¬(Check.secretGiven.Passes configured (.object members) ∧
        Check.secretRight.Passes configured (.object members)) →
      ∃ cause, validateValue configured (.object members) = .error cause ∧
        validateValue configured (.object others) = .error cause) := by
  refine ⟨?_, ?_, ?_, ?_⟩
  · constructor
    · rintro ⟨validated, accepted⟩
      exact (validateValue_eq_ok accepted).1
    · intro all
      rcases ok_or_error (validateValue configured payload) with accepted | ⟨cause, refused⟩
      · exact accepted
      · obtain ⟨check, first, _⟩ := validateValue_eq_error refused
        exact absurd (all check) first.1
  · intro validated accepted
    exact (validateValue_eq_ok accepted).2
  · intro cause
    constructor
    · exact validateValue_eq_error
    · rintro ⟨check, first, refuses⟩
      rcases ok_or_error (validateValue configured payload) with
        ⟨validated, accepted⟩ | ⟨other, refused⟩
      · exact absurd ((validateValue_eq_ok accepted).1 check) first.1
      · obtain ⟨otherCheck, otherFirst, otherRefuses⟩ := validateValue_eq_error refused
        rw [otherFirst.unique first] at otherRefuses
        rw [refused, otherRefuses.unique refuses]
  · intro members others same fails
    rcases ok_or_error (checkSecret configured (members.get? "secret")) with
      ⟨secret, accepted⟩ | ⟨cause, refused⟩
    · obtain ⟨_, found, nonempty⟩ := (checkSecret_eq_ok_iff _ _ _).mp accepted
      exact absurd ⟨secretGiven_passes found nonempty, found⟩ fails
    · refine ⟨cause, validateValue_of_checkSecret_error refused, ?_⟩
      rw [same] at refused
      exact validateValue_of_checkSecret_error refused

end PresenceGateway.Payload
