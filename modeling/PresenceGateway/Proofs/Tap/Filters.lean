import Mathlib.Logic.Relation
import PresenceGateway.Proofs.Tap.Streams
import PresenceGateway.Proofs.Text.SmallLetters
/-!
Which stages a written filter stands for. Each of its items is blank, names a stage, or is unknown, and
nothing else about it counts; nor does the place of an item, unless it is the first unknown one.
-/
namespace PresenceGateway.Tap

open Text (solidItems)

/-! ### Stages and their names -/

theorem Stage.parse?_text (stage : Stage) : parse? stage.text = some stage := by
  cases stage <;> rfl

theorem Stage.parse?_eq_some_iff {name : String} {stage : Stage} :
    parse? name = some stage ↔ name = stage.text := by
  constructor
  · intro found
    have named := List.find?_some found
    exact (of_decide_eq_true named).symm
  · rintro rfl
    exact stage.parse?_text

theorem Stage.parse?_eq_none_iff {name : String} :
    parse? name = none ↔ ∀ stage : Stage, name ≠ stage.text := by
  rw [Option.eq_none_iff_forall_ne_some]
  exact forall_congr' fun _ => not_congr parse?_eq_some_iff

theorem Stage.isSteadyText_text (stage : Stage) : Text.IsSteadyText stage.text := by
  have each : stage.text.toList.all Text.steadySet.holds = true := by cases stage <;> rfl
  exact List.all_eq_true.mp each

/-- Names are those of stages, all of them or up to a first one that is not. -/
theorem names_known_or (names : List String) :
    (∃ stages : List Stage, names = stages.map Stage.text) ∨
      ∃ (stages : List Stage) (name : String) (rest : List String),
        names = stages.map Stage.text ++ name :: rest ∧ ∀ stage : Stage, name ≠ stage.text := by
  induction names with
  | nil => exact .inl ⟨[], rfl⟩
  | cons name rest ih =>
      cases found : Stage.parse? name with
      | none => exact .inr ⟨[], name, rest, rfl, Stage.parse?_eq_none_iff.mp found⟩
      | some stage =>
          obtain rfl := Stage.parse?_eq_some_iff.mp found
          rcases ih with ⟨stages, rfl⟩ | ⟨stages, unknown, later, rfl, other⟩
          · exact .inl ⟨stage :: stages, rfl⟩
          · exact .inr ⟨stage :: stages, unknown, later, rfl, other⟩

theorem exists_texts_iff (names : List String) :
    (∃ stages : List Stage, names = stages.map Stage.text) ↔
      ∀ name ∈ names, ∃ stage : Stage, name = stage.text := by
  constructor
  · rintro ⟨stages, rfl⟩ name inside
    obtain ⟨stage, _, same⟩ := List.mem_map.mp inside
    exact ⟨stage, same.symm⟩
  · intro each
    rcases names_known_or names with known | ⟨stages, name, rest, rfl, unknown⟩
    · exact known
    · obtain ⟨stage, same⟩ := each name (by simp)
      exact absurd same (unknown stage)

namespace Filter

theorem stagesOf_append (stages : List Stage) (rest : List String) :
    stagesOf (stages.map Stage.text ++ rest) = (stagesOf rest).map (stages ++ ·) := by
  induction stages with
  | nil =>
      rw [List.map_nil, List.nil_append]
      cases stagesOf rest <;> rfl
  | cons stage later ih =>
      rw [List.map_cons, List.cons_append, stagesOf, Stage.parse?_text]
      dsimp only
      rw [ih]
      cases stagesOf rest <;> rfl

theorem stagesOf_texts (stages : List Stage) : stagesOf (stages.map Stage.text) = .ok stages := by
  have whole := stagesOf_append stages []
  rwa [List.append_nil, stagesOf, Except.map, List.append_nil] at whole

theorem stagesOf_of_unknown {name : String} (unknown : ∀ stage : Stage, name ≠ stage.text)
    (stages : List Stage) (rest : List String) :
    stagesOf (stages.map Stage.text ++ name :: rest) = .error { name } := by
  rw [stagesOf_append, stagesOf, Stage.parse?_eq_none_iff.mpr unknown]
  rfl

theorem stagesOf_eq_ok_iff {names : List String} {stages : List Stage} :
    stagesOf names = .ok stages ↔ names = stages.map Stage.text := by
  constructor
  · intro known
    rcases names_known_or names with ⟨others, rfl⟩ | ⟨others, name, rest, rfl, unknown⟩
    · rw [stagesOf_texts] at known
      cases known
      rfl
    · rw [stagesOf_of_unknown unknown] at known
      cases known
  · rintro rfl
    exact stagesOf_texts stages

theorem stagesOf_eq_error_iff {names : List String} {cause : UnknownStage} :
    stagesOf names = .error cause ↔
      ∃ (stages : List Stage) (rest : List String),
        names = stages.map Stage.text ++ cause.name :: rest ∧
          ∀ stage : Stage, cause.name ≠ stage.text := by
  constructor
  · intro refused
    rcases names_known_or names with ⟨stages, rfl⟩ | ⟨stages, name, rest, rfl, unknown⟩
    · rw [stagesOf_texts] at refused
      cases refused
    · rw [stagesOf_of_unknown unknown] at refused
      cases refused
      exact ⟨stages, rest, rfl, unknown⟩
  · rintro ⟨stages, rest, rfl, unknown⟩
    exact stagesOf_of_unknown unknown stages rest

theorem accepts_ofStages (stages : List Stage) (stage : Stage) :
    (ofStages stages).accepts stage = true ↔ stages = [] ∨ stage ∈ stages := by
  cases stages with
  | nil => exact iff_of_true rfl (.inl rfl)
  | cons first rest =>
      rw [or_iff_right (List.cons_ne_nil first rest)]
      exact List.contains_iff_mem

/-! ### Items -/

def nameOf (item : String) : String :=
  Text.lowerCase (Text.trim item)

def Names (item : String) (stage : Stage) : Prop :=
  nameOf item = stage.text

theorem names_eq (text : String) : names text = (solidItems text).map nameOf := rfl

theorem exists_stages_iff (items : List String) :
    (∃ stages : List Stage, items.map nameOf = stages.map Stage.text) ↔
      ∀ item ∈ items, ∃ stage, Names item stage := by
  rw [exists_texts_iff, List.forall_mem_map]
  rfl

theorem parse_eq_ok_iff {text : String} {filter : Filter} :
    parse text = .ok filter ↔
      ∃ stages, (solidItems text).map nameOf = stages.map Stage.text ∧ ofStages stages = filter := by
  unfold parse
  rw [names_eq]
  constructor
  · intro parsed
    cases found : stagesOf ((solidItems text).map nameOf) with
    | error cause =>
        rw [found] at parsed
        cases parsed
    | ok stages =>
        rw [found] at parsed
        exact ⟨stages, stagesOf_eq_ok_iff.mp found, Except.ok.inj parsed⟩
  · rintro ⟨stages, known, rfl⟩
    rw [stagesOf_eq_ok_iff.mpr known]
    rfl

theorem exists_parse_iff (text : String) :
    (∃ filter, parse text = .ok filter) ↔
      ∀ item ∈ solidItems text, ∃ stage, Names item stage := by
  rw [← exists_stages_iff]
  constructor
  · rintro ⟨filter, parsed⟩
    obtain ⟨stages, known, _⟩ := parse_eq_ok_iff.mp parsed
    exact ⟨stages, known⟩
  · rintro ⟨stages, known⟩
    exact ⟨_, parse_eq_ok_iff.mpr ⟨stages, known, rfl⟩⟩

theorem parse_eq_error_iff {text : String} {cause : UnknownStage} :
    parse text = .error cause ↔
      ∃ before item after, solidItems text = before ++ item :: after ∧
        (∀ earlier ∈ before, ∃ stage, Names earlier stage) ∧ (∀ stage, ¬ Names item stage) ∧
          cause.name = nameOf item := by
  have same : parse text = .error cause ↔ stagesOf ((solidItems text).map nameOf) = .error cause := by
    rw [parse, names_eq]
    cases stagesOf ((solidItems text).map nameOf) with
    | error other => simp only [Except.map, Except.error.injEq]
    | ok stages => exact iff_of_false nofun nofun
  rw [same, stagesOf_eq_error_iff]
  constructor
  · rintro ⟨stages, rest, shape, unknown⟩
    obtain ⟨before, later, split, known, follows⟩ := List.map_eq_append_iff.mp shape
    obtain ⟨item, after, rfl, named, _⟩ := List.map_eq_cons_iff.mp follows
    refine ⟨before, item, after, split, (exists_stages_iff before).mp ⟨stages, known⟩, ?_, named.symm⟩
    rw [← named] at unknown
    exact unknown
  · rintro ⟨before, item, after, shape, known, unknown, named⟩
    obtain ⟨stages, texts⟩ := (exists_stages_iff before).mpr known
    refine ⟨stages, after.map nameOf, ?_, named.symm ▸ unknown⟩
    rw [shape, List.map_append, List.map_cons, texts, named]

/-- A filter accepts the stages that its items name, and all stages if there is no item. -/
theorem accepts_iff {text : String} {filter : Filter} (parsed : parse text = .ok filter)
    (stage : Stage) :
    filter.accepts stage = true ↔
      solidItems text = [] ∨ ∃ item ∈ solidItems text, Names item stage := by
  obtain ⟨stages, known, rfl⟩ := parse_eq_ok_iff.mp parsed
  have injective {first second : Stage} (same : first.text = second.text) : first = second := by
    rw [← Stage.parse?_eq_some_iff, Stage.parse?_text] at same
    exact Option.some.inj same
  have nothing : stages = [] ↔ solidItems text = [] := by
    rw [← List.map_eq_nil_iff (f := Stage.text), ← known, List.map_eq_nil_iff]
  have among : stage ∈ stages ↔ stage.text ∈ stages.map Stage.text := by
    constructor
    · exact List.mem_map_of_mem
    · intro inside
      obtain ⟨other, listed, same⟩ := List.mem_map.mp inside
      exact injective same ▸ listed
  rw [accepts_ofStages, nothing, among, ← known, List.mem_map]
  rfl

/-- Two lists between which a comma is put choose what either of them chooses. -/
theorem parse_append {first second : String} {one other : Filter} (parsed : parse first = .ok one)
    (further : parse second = .ok other) (left : solidItems first ≠ [])
    (right : solidItems second ≠ []) :
    ∃ both, parse (first ++ "," ++ second) = .ok both ∧
      ∀ stage, both.accepts stage = (one.accepts stage || other.accepts stage) := by
  have items := Text.solidItems_append first second
  have known := (exists_parse_iff first).mp ⟨one, parsed⟩
  have familiar := (exists_parse_iff second).mp ⟨other, further⟩
  obtain ⟨both, whole⟩ := (exists_parse_iff (first ++ "," ++ second)).mpr (by
    rw [items, List.forall_mem_append]
    exact ⟨known, familiar⟩)
  refine ⟨both, whole, fun stage => ?_⟩
  rw [Bool.eq_iff_iff, Bool.or_eq_true, accepts_iff whole, accepts_iff parsed, accepts_iff further,
    items, List.append_eq_nil_iff, or_iff_right left, or_iff_right right,
    or_iff_right fun nothing => left nothing.1]
  simp only [List.mem_append, or_and_right, exists_or]

/-! ### Edits that make no difference -/

/-- A change of the items of a list: two neighbours change places, an item is said again, its case or
the blanks around it change, or there is one more comma. -/
inductive Edit : List String → List String → Prop where
  | swaps (front : List String) (first second : String) (rest : List String) :
      Edit (front ++ first :: second :: rest) (front ++ second :: first :: rest)
  | repeats {front rest : List String} {item : String} (said : item ∈ front ++ rest) :
      Edit (front ++ rest) (front ++ item :: rest)
  | recases (front rest : List String) {item other : String}
      (same : Text.lowerCase item = Text.lowerCase other) :
      Edit (front ++ item :: rest) (front ++ other :: rest)
  | pads (front rest : List String) (item : String) {before after : String}
      (left : Text.isBlankText before = true) (right : Text.isBlankText after = true) :
      Edit (front ++ item :: rest) (front ++ (before ++ item ++ after) :: rest)
  | separates (front rest : List String) {item : String} (blank : Text.isBlankText item = true) :
      Edit (front ++ rest) (front ++ item :: rest)

def Reads (item : String) (found : Option Stage) : Prop :=
  nameOf item ≠ "" ∧ Stage.parse? (nameOf item) = found

def Shows (items : List String) (found : Option Stage) : Prop :=
  ∃ item ∈ items, Reads item found

theorem nameOf_eq_empty_iff (item : String) : nameOf item = "" ↔ Text.isBlankText item = true :=
  (Text.lowerCase_eq_empty_iff _).trans (Text.trim_eq_empty_iff item)

theorem nameOf_padded {before after : String} (left : Text.isBlankText before = true)
    (right : Text.isBlankText after = true) (item : String) :
    nameOf (before ++ item ++ after) = nameOf item := by
  have trimmed : Text.trim (before ++ item ++ after) = Text.trim item := by
    rw [← String.toList_inj, Text.trim_toList, Text.trim_toList, String.toList_append,
      String.toList_append, List.append_assoc]
    exact Text.trimChars_padded (List.all_eq_true.mp left) (List.all_eq_true.mp right) item.toList
  rw [nameOf, trimmed, nameOf]

theorem reads_of_recased {item other : String} (same : Text.lowerCase item = Text.lowerCase other)
    (found : Option Stage) : Reads item found ↔ Reads other found := by
  have alike {word : String} (steady : Text.IsSteadyText word) :
      nameOf item = word ↔ nameOf other = word :=
    ⟨Text.lowerCase_trim_eq steady same, Text.lowerCase_trim_eq steady same.symm⟩
  have stages : Stage.parse? (nameOf item) = Stage.parse? (nameOf other) := by
    apply Option.ext
    intro stage
    rw [Stage.parse?_eq_some_iff, Stage.parse?_eq_some_iff, alike stage.isSteadyText_text]
  have blank : nameOf item = "" ↔ nameOf other = "" := alike (List.forall_mem_nil _)
  rw [Reads, Reads, stages, ne_eq, blank]

theorem shows_insert (front rest : List String) (item : String) (found : Option Stage) :
    Shows (front ++ item :: rest) found ↔ Reads item found ∨ Shows (front ++ rest) found := by
  unfold Shows
  simp only [List.mem_append, List.mem_cons, or_and_right, exists_or, exists_eq_left]
  exact or_left_comm

theorem Edit.shows_iff {items others : List String} (edit : Edit items others)
    (found : Option Stage) : Shows items found ↔ Shows others found := by
  cases edit with
  | swaps front first second rest =>
      rw [shows_insert, shows_insert, shows_insert, shows_insert]
      exact or_left_comm
  | @repeats front rest item said =>
      rw [shows_insert]
      exact (or_iff_right_of_imp fun reads => ⟨item, said, reads⟩).symm
  | recases front rest same => rw [shows_insert, shows_insert, reads_of_recased same]
  | pads front rest item left right =>
      rw [shows_insert, shows_insert, Reads, Reads, nameOf_padded left right]
  | separates front rest blank =>
      rw [shows_insert]
      exact (or_iff_right fun reads => reads.1 ((nameOf_eq_empty_iff _).mpr blank)).symm

theorem mem_solidItems_iff {text item : String} :
    item ∈ solidItems text ↔ item ∈ Text.split ',' text ∧ nameOf item ≠ "" := by
  rw [Text.mem_solidItems_iff, ne_eq, nameOf_eq_empty_iff, Bool.not_eq_true]

theorem exists_parse_iff_shows (text : String) :
    (∃ filter, parse text = .ok filter) ↔ ¬ Shows (Text.split ',' text) none := by
  rw [exists_parse_iff]
  constructor
  · rintro each ⟨item, listed, solid, unknown⟩
    obtain ⟨stage, named⟩ := each item (mem_solidItems_iff.mpr ⟨listed, solid⟩)
    exact Stage.parse?_eq_none_iff.mp unknown stage named
  · intro never item inside
    obtain ⟨listed, solid⟩ := mem_solidItems_iff.mp inside
    by_contra unnamed
    exact never ⟨item, listed, solid, Stage.parse?_eq_none_iff.mpr (not_exists.mp unnamed)⟩

theorem accepts_iff_shows {text : String} {filter : Filter} (parsed : parse text = .ok filter)
    (stage : Stage) :
    filter.accepts stage = true ↔
      (∀ found, ¬ Shows (Text.split ',' text) found) ∨ Shows (Text.split ',' text) stage := by
  have nothing : solidItems text = [] ↔ ∀ found, ¬ Shows (Text.split ',' text) found := by
    rw [List.eq_nil_iff_forall_not_mem]
    constructor
    · rintro empty found ⟨item, listed, solid, _⟩
      exact empty item (mem_solidItems_iff.mpr ⟨listed, solid⟩)
    · intro never item inside
      obtain ⟨listed, solid⟩ := mem_solidItems_iff.mp inside
      exact never _ ⟨item, listed, solid, rfl⟩
  have something : (∃ item ∈ solidItems text, Names item stage) ↔
      Shows (Text.split ',' text) stage := by
    simp only [mem_solidItems_iff, Shows, Reads, Stage.parse?_eq_some_iff, Names, and_assoc]
  rw [accepts_iff parsed, nothing, something]

theorem shows_of_edits {items others : List String} (edits : Relation.EqvGen Edit items others)
    (found : Option Stage) : Shows items found ↔ Shows others found := by
  induction edits with
  | rel _ _ edit => exact edit.shows_iff found
  | refl => exact Iff.rfl
  | symm _ _ _ ih => exact ih.symm
  | trans _ _ _ _ _ first second => exact first.trans second

/-- However often such changes are made, forwards or backwards, a written filter stays accepted and
chooses the same stages. -/
theorem parse_of_edits {text other : String} {filter : Filter} (parsed : parse text = .ok filter)
    (edits : Relation.EqvGen Edit (Text.split ',' text) (Text.split ',' other)) :
    ∃ edited, parse other = .ok edited ∧ ∀ stage, edited.accepts stage = filter.accepts stage := by
  have shows := shows_of_edits edits
  have accepted := (exists_parse_iff_shows text).mp ⟨filter, parsed⟩
  rw [shows, ← exists_parse_iff_shows] at accepted
  obtain ⟨edited, whole⟩ := accepted
  refine ⟨edited, whole, fun stage => ?_⟩
  rw [Bool.eq_iff_iff, accepts_iff_shows whole, accepts_iff_shows parsed]
  simp only [shows]

end Filter

/-- A written filter is refused exactly if some item that is not blank names no stage, and for the first
such item. Otherwise a stream that never lags shows exactly the events of the named stages in the order
in which they were published, or all events if there are no names. Two lists with a comma between them
choose what either chooses, and neither the order of the items nor repetitions, case, blanks or further
commas make a difference. -/
theorem Filter.shows_named_stages (text : String) :
    (∀ cause, parse text = .error cause ↔
      ∃ before item after, solidItems text = before ++ item :: after ∧
        (∀ earlier ∈ before, ∃ stage, Names earlier stage) ∧ (∀ stage, ¬ Names item stage) ∧
          cause.name = nameOf item) ∧
    ((∃ filter, parse text = .ok filter) ↔
      ∀ item ∈ solidItems text, ∃ stage, Names item stage) ∧
    ∀ filter, parse text = .ok filter →
      (∀ stage, filter.accepts stage = true ↔
        solidItems text = [] ∨ ∃ item ∈ solidItems text, Names item stage) ∧
      (∀ hub time, ∀ rounds : List Round,
        (∀ round ∈ rounds, round.published.length ≤ Hub.capacity) →
          (Stream.follow hub (Stream.start hub filter time) rounds).filterMap Frame.event? =
            (rounds.flatMap Round.published).filter fun event => filter.accepts event.stage) ∧
      (∀ other further, parse other = .ok further →
        solidItems text ≠ [] → solidItems other ≠ [] →
          ∃ both, parse (text ++ "," ++ other) = .ok both ∧
            ∀ stage, both.accepts stage = (filter.accepts stage || further.accepts stage)) ∧
      ∀ other, Relation.EqvGen Edit (Text.split ',' text) (Text.split ',' other) →
        ∃ edited, parse other = .ok edited ∧
          ∀ stage, edited.accepts stage = filter.accepts stage := by
  refine ⟨fun _ => parse_eq_error_iff, exists_parse_iff text, fun filter parsed => ?_⟩
  refine ⟨accepts_iff parsed, fun hub time rounds few => ?_, fun other further known left right => ?_,
    fun other edits => parse_of_edits parsed edits⟩
  · exact Stream.follow_events rfl few
  · exact parse_append parsed known left right

def eventOf (stage : Stage) : Event :=
  { Event.heartbeat with stage }

theorem Filter.shows_named_stages_of_two :
    parse "ingress,policy" = .error { name := "policy" } ∧
    ∃ filter, parse "ingress, Dispatch" = .ok filter ∧
      (Stream.follow Hub.empty (Stream.start Hub.empty filter 0)
        [{ published := [eventOf .ingress, eventOf .normalizer], time := 1 },
          { published := [], time := 30 },
          { published := [eventOf .dispatch], time := 31 }]).filterMap Frame.event? =
        [eventOf .ingress, eventOf .dispatch] ∧
      (∃ both, parse "ingress, Dispatch,normalizer" = .ok both ∧
        ∀ stage, both.accepts stage = true) ∧
      ∃ edited, parse "DISPATCH,ingress" = .ok edited ∧
        ∀ stage, edited.accepts stage = filter.accepts stage := by
  obtain ⟨_, _, accepted⟩ := shows_named_stages "ingress, Dispatch"
  obtain ⟨_, streams, unions, edits⟩ := accepted { stages := some [.ingress, .dispatch] } rfl
  have recased : Edit ["ingress", " Dispatch"] ["ingress", " DISPATCH"] :=
    .recases ["ingress"] [] (by decide)
  have bare : Edit ["ingress", "DISPATCH"] ["ingress", " DISPATCH"] :=
    .pads ["ingress"] [] "DISPATCH" (show Text.isBlankText " " = true by decide)
      (show Text.isBlankText "" = true by decide)
  have swapped : Edit ["ingress", "DISPATCH"] ["DISPATCH", "ingress"] :=
    .swaps [] "ingress" "DISPATCH" []
  refine ⟨?_, _, rfl, streams Hub.empty 0 _ (by decide), ?_, ?_⟩
  · exact ((shows_named_stages "ingress,policy").1 _).mpr
      ⟨["ingress"], "policy", [], rfl, by simpa using ⟨.ingress, rfl⟩,
        Stage.parse?_eq_none_iff.mp rfl, rfl⟩
  · obtain ⟨both, parsed, accepts⟩ := unions "normalizer" { stages := some [.normalizer] } rfl
      (by decide) (by decide)
    refine ⟨both, parsed, fun stage => ?_⟩
    rw [accepts]
    cases stage <;> rfl
  · exact edits "DISPATCH,ingress" (.trans _ _ _ (.rel _ _ recased)
      (.trans _ _ _ (.symm _ _ (.rel _ _ bare)) (.rel _ _ swapped)))

end PresenceGateway.Tap
