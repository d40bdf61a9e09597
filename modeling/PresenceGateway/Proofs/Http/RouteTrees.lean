import Mathlib.Data.List.Basic
import PresenceGateway.Http.RouteTree
import PresenceGateway.Proofs.Http.Patterns
/-!
What a tree of patterns holds, and how it grows.

`routes` lists the patterns of a tree with their values, and adding a pattern adds one route. `Formed`
is what every tree has that is built by adding: the branches beside each other begin differently, and
none of them with a mark.
-/
namespace PresenceGateway.Http

open Pattern (literal isMark)

/-! ### A label and a pattern -/

/-- How far a pattern follows the label of a branch: not at all, to a place inside of it, or
through. -/
inductive Meeting (label : List Char) : Pattern → Prop where
  | apart {pattern : Pattern} (differs : pattern.head? ≠ label.head?.map .char) :
      Meeting label pattern
  | inside {upper lower : List Char} {left : Pattern} (upperSome : upper ≠ []) (lowerSome : lower ≠ [])
      (whole : label = upper ++ lower) (differs : left.head? ≠ lower.head?.map .char) :
      Meeting label (literal upper ++ left)
  | through (left : Pattern) : Meeting label (literal label ++ left)

theorem Meeting.of (label : List Char) (pattern : Pattern) : Meeting label pattern := by
  induction label generalizing pattern with
  | nil => exact .through pattern
  | cons c label ih =>
      by_cases starts : pattern.head? = some (.char c)
      · obtain ⟨later, rfl⟩ := List.head?_eq_some_iff.mp starts
        cases ih later with
        | apart differs =>
            cases label with
            | nil => exact .through later
            | cons d label =>
                exact @Meeting.inside _ [c] (d :: label) later (List.cons_ne_nil _ _)
                  (List.cons_ne_nil _ _) rfl differs
        | @inside upper lower left upperSome lowerSome whole differs =>
            exact @Meeting.inside _ (c :: upper) lower left (List.cons_ne_nil _ _) lowerSome
              (congrArg (c :: ·) whole) differs
        | through left => exact .through left
      · exact .apart starts

namespace RouteTree

variable {α : Type} {value : α}

theorem shared_inside (upper : List Char) {lower : List Char} {left : Pattern}
    (differs : lower ≠ [] → left.head? ≠ lower.head?.map .char) :
    shared (upper ++ lower) (literal upper ++ left) = upper.length := by
  induction upper with
  | nil =>
      cases lower with
      | nil => rfl
      | cons c lower =>
          cases left with
          | nil => rfl
          | cons piece left =>
              cases piece with
              | char d =>
                  have different : c ≠ d := by
                    rintro rfl
                    exact differs (List.cons_ne_nil _ _) rfl
                  exact if_neg different
              | segment => rfl
              | rest => rfl
  | cons c upper ih =>
      change (if c = c then shared (upper ++ lower) (literal upper ++ left) + 1 else 0) = _
      rw [if_pos rfl, ih]
      rfl

/-! ### Adding, by how far the pattern follows the first branch -/

section Static

variable {label upper lower : List Char} {held : Option α} {below others : RouteTree α}
  {pattern left : Pattern}

theorem add?_apart (nonempty : pattern ≠ []) (differs : pattern.head? ≠ label.head?.map .char) :
    add? value pattern (static label held below others) =
      (add? value pattern others).map (static label held below) := by
  cases pattern with
  | nil => exact absurd rfl nonempty
  | cons piece pattern =>
      cases piece with
      | char c =>
          have apart : ¬label.head? = some c := by
            intro same
            rw [same] at differs
            exact differs rfl
          rw [add?, if_neg apart]
      | segment =>
          rw [add?]
          simp
      | rest =>
          rw [add?]
          simp

/-- What becomes of a branch that a pattern follows, wholly or up to where its label is split. -/
theorem add?_shared (upperSome : upper ≠ [])
    (differs : lower ≠ [] → left.head? ≠ lower.head?.map .char) :
    add? value (literal upper ++ left) (static (upper ++ lower) held below others) =
      if lower ≠ [] then
        if left = [] then some (static upper (some value) (static lower held below nil) others)
        else (single? value left).map fun new => static upper none (static lower held below new) others
      else if left = [] then
        if held.isSome then none else some (static upper (some value) below others)
      else (add? value left below).map (static upper held · others) := by
  have common := shared_inside upper differs
  cases upper with
  | nil => exact absurd rfl upperSome
  | cons c upper =>
      have pattern_eq : literal (c :: upper) ++ left = .char c :: (literal upper ++ left) := rfl
      rw [pattern_eq] at common ⊢
      have remainder : (Piece.char c :: (literal upper ++ left)).drop (c :: upper).length = left := by
        rw [← pattern_eq]
        exact List.drop_left' (List.length_map _)
      have starts : (c :: upper ++ lower).head? = some c := rfl
      rw [add?, if_pos starts]
      simp only [common, remainder, List.drop_left, List.take_left, List.isEmpty_iff]
      cases lower with
      | nil => simp
      | cons d lower => simp

theorem add?_inside_end (upperSome : upper ≠ []) (lowerSome : lower ≠ []) :
    add? value (literal upper) (static (upper ++ lower) held below others) =
      some (static upper (some value) (static lower held below nil) others) := by
  have differs (some : lower ≠ []) : ([] : Pattern).head? ≠ lower.head?.map .char := by
    cases lower with
    | nil => exact absurd rfl some
    | cons c lower => simp
  rw [← List.append_nil (literal upper), add?_shared upperSome differs, if_pos lowerSome, if_pos rfl]

theorem add?_inside (upperSome : upper ≠ []) (lowerSome : lower ≠ []) (leftSome : left ≠ [])
    (differs : left.head? ≠ lower.head?.map .char) :
    add? value (literal upper ++ left) (static (upper ++ lower) held below others) =
      (single? value left).map fun new =>
        static upper none (static lower held below new) others := by
  rw [add?_shared upperSome fun _ => differs, if_pos lowerSome, if_neg leftSome]

theorem add?_through_end (labelSome : label ≠ []) :
    add? value (literal label) (static label held below others) =
      if held.isSome then none else some (static label (some value) below others) := by
  have added : add? value (literal label ++ []) (static (label ++ []) held below others) = _ :=
    add?_shared labelSome (absurd rfl ·)
  rwa [List.append_nil, List.append_nil, if_neg (not_not.mpr rfl), if_pos rfl] at added

theorem add?_through (labelSome : label ≠ []) (leftSome : left ≠ []) :
    add? value (literal label ++ left) (static label held below others) =
      (add? value left below).map (static label held · others) := by
  have added : add? value (literal label ++ left) (static (label ++ []) held below others) = _ :=
    add?_shared labelSome (absurd rfl ·)
  rwa [List.append_nil, if_neg (not_not.mpr rfl), if_neg leftSome] at added

end Static

/-! ### The routes of a tree -/

def behind (front : Pattern) (held : Option α) (below : List (Pattern × α)) :
    List (Pattern × α) :=
  held.toList.map (fun value => (front, value)) ++ below.map fun route => (front ++ route.1, route.2)

def routes : RouteTree α → List (Pattern × α)
  | nil => []
  | static label held below others => behind (literal label) held below.routes ++ others.routes
  | segment held below => behind [.segment] held below.routes
  | rest value => [([.rest], value)]

theorem mem_behind {front pattern : Pattern} {held : Option α} {below : List (Pattern × α)} :
    (pattern, value) ∈ behind front held below ↔
      (pattern = front ∧ held = some value) ∨
        ∃ later, pattern = front ++ later ∧ (later, value) ∈ below := by
  unfold behind
  rw [List.mem_append, List.mem_map, List.mem_map]
  apply or_congr
  · constructor
    · rintro ⟨other, here, same⟩
      cases same
      exact ⟨rfl, Option.mem_toList.mp here⟩
    · rintro ⟨rfl, here⟩
      exact ⟨value, Option.mem_toList.mpr here, rfl⟩
  · constructor
    · rintro ⟨⟨later, other⟩, inside, same⟩
      cases same
      exact ⟨later, rfl, inside⟩
    · rintro ⟨later, rfl, inside⟩
      exact ⟨(later, value), inside, rfl⟩

theorem behind_none_behind (front middle : Pattern) (held : Option α) (below : List (Pattern × α)) :
    behind front none (behind middle held below) = behind (front ++ middle) held below := by
  unfold behind
  simp [Function.comp_def, List.append_assoc]

theorem behind_perm (front : Pattern) (held : Option α) {pattern : Pattern}
    {below grown : List (Pattern × α)} (added : grown.Perm ((pattern, value) :: below)) :
    (behind front held grown).Perm ((front ++ pattern, value) :: behind front held below) :=
  ((added.map _).append_left _).trans List.perm_middle

/-! ### Trees that are built by adding -/

/-- What holds of every tree that is built by adding: the labels of static branches have no marks,
branches beside each other begin differently, and behind a segment another one begins. -/
inductive Formed : RouteTree α → Prop where
  | nil : Formed nil
  | static {label : List Char} {held : Option α} {below others : RouteTree α} (labelSome : label ≠ [])
      (plain : ∀ c ∈ label, isMark c = false)
      (apart : ∀ route ∈ others.routes, route.1.head? ≠ label.head?.map .char)
      (formedBelow : Formed below) (formedOthers : Formed others) :
      Formed (static label held below others)
  | segment {held : Option α} {below : RouteTree α}
      (stops : below = nil ∨ ∃ label inner deeper, below = static ('/' :: label) inner deeper nil)
      (formedBelow : Formed below) : Formed (segment held below)
  | rest (value : α) : Formed (rest value)

theorem single?_char {c : Char} {pattern : Pattern} {tree : RouteTree α}
    (made : single? value (.char c :: pattern) = some tree) :
    ∃ label held below, tree = static (c :: label) held below nil := by
  induction pattern generalizing c tree with
  | nil =>
      cases made
      exact ⟨[], _, _, rfl⟩
  | cons piece pattern ih =>
      cases piece with
      | char d =>
          obtain ⟨later, laterMade, rfl⟩ := Option.map_eq_some_iff.mp made
          obtain ⟨label, held, below, rfl⟩ := ih laterMade
          exact ⟨d :: label, held, below, rfl⟩
      | segment =>
          obtain ⟨later, _, rfl⟩ := Option.map_eq_some_iff.mp made
          exact ⟨[], none, later, rfl⟩
      | rest =>
          rw [single?] at made
          split at made
          · obtain ⟨later, _, rfl⟩ := Option.map_eq_some_iff.mp made
            exact ⟨[], none, later, rfl⟩
          · cases made

theorem formed_character {c : Char} {held : Option α} {below : RouteTree α}
    (plain : isMark c = false) (formed : Formed below) : Formed (static [c] held below nil) :=
  .static (List.cons_ne_nil _ _) (List.forall_mem_singleton.mpr plain)
    (fun _ impossible => absurd impossible List.not_mem_nil) formed .nil

theorem character_routes {c : Char} {pattern : Pattern} {below : RouteTree α} (plain : isMark c = false)
    (spec : Formed below ∧ below.routes = [(pattern, value)]) :
    Formed (static [c] none below nil) ∧
      (static [c] none below nil).routes = [(.char c :: pattern, value)] := by
  refine ⟨formed_character plain spec.1, ?_⟩
  rw [routes, spec.2]
  rfl

theorem single?_routes {pattern : Pattern} {tree : RouteTree α} (proper : pattern.Proper)
    (made : single? value pattern = some tree) : Formed tree ∧ tree.routes = [(pattern, value)] := by
  induction proper generalizing tree with
  | done => cases made
  | @char c pattern plain later ih =>
      cases pattern with
      | nil =>
          cases made
          exact ⟨formed_character plain .nil, rfl⟩
      | cons piece pattern =>
          cases piece with
          | char d =>
              obtain ⟨inner, innerMade, rfl⟩ := Option.map_eq_some_iff.mp made
              obtain ⟨label, held, below, rfl⟩ := single?_char innerMade
              obtain ⟨formed, routes_eq⟩ := ih innerMade
              constructor
              · cases formed with
                | static labelSome plainLabel apart formedBelow formedOthers =>
                    exact .static (List.cons_ne_nil _ _) (List.forall_mem_cons.mpr ⟨plain, plainLabel⟩)
                      (fun _ impossible => absurd impossible List.not_mem_nil) formedBelow .nil
              · rw [routes, routes, List.append_nil] at routes_eq
                change behind ([.char c] ++ literal (d :: label)) held below.routes ++ [] = _
                rw [List.append_nil, ← behind_none_behind, routes_eq]
                rfl
          | segment =>
              obtain ⟨inner, innerMade, rfl⟩ := Option.map_eq_some_iff.mp made
              exact character_routes plain (ih innerMade)
          | rest =>
              rw [single?] at made
              split at made
              · obtain ⟨inner, innerMade, rfl⟩ := Option.map_eq_some_iff.mp made
                exact character_routes plain (ih innerMade)
              · cases made
  | @segment pattern stops later ih =>
      cases pattern with
      | nil =>
          cases made
          exact ⟨.segment (.inl rfl) .nil, rfl⟩
      | cons piece pattern =>
          obtain ⟨inner, innerMade, rfl⟩ := Option.map_eq_some_iff.mp made
          obtain ⟨formed, routes_eq⟩ := ih innerMade
          have starts : piece = .char '/' := by
            rcases stops with impossible | starts
            · cases impossible
            · exact Option.some.inj starts
          subst starts
          refine ⟨.segment (.inr (single?_char innerMade)) formed, ?_⟩
          rw [routes, routes_eq]
          rfl
  | rest =>
      cases made
      exact ⟨.rest value, rfl⟩

theorem Formed.routes_ne_nil {tree : RouteTree α} (formed : Formed tree) :
    ∀ route ∈ tree.routes, route.1 ≠ [] := by
  induction formed with
  | nil => exact fun _ impossible => absurd impossible List.not_mem_nil
  | static labelSome plain apart formedBelow formedOthers ihBelow ihOthers =>
      rintro ⟨pattern, value⟩ inside
      rcases List.mem_append.mp inside with here | later
      · rcases mem_behind.mp here with ⟨rfl, _⟩ | ⟨deeper, rfl, _⟩
        · exact Pattern.literal_ne_nil labelSome
        · exact List.append_ne_nil_of_left_ne_nil (Pattern.literal_ne_nil labelSome) _
      · exact ihOthers _ later
  | segment stops formedBelow ih =>
      rintro ⟨pattern, value⟩ inside
      rcases mem_behind.mp inside with ⟨rfl, _⟩ | ⟨later, rfl, _⟩
      · exact List.cons_ne_nil _ _
      · exact List.cons_ne_nil _ _
  | rest other => exact List.forall_mem_singleton.mpr (List.cons_ne_nil _ _)

/-- A branch whose label is split keeps its routes below the second part, and has the new ones beside
them. -/
theorem split_routes {upper lower : List Char} {held : Option α} {below others new : RouteTree α}
    (ended : Option α)
    (formed : Formed (static (upper ++ lower) held below others)) (upperSome : upper ≠ [])
    (lowerSome : lower ≠ []) (formedNew : Formed new)
    (differs : ∀ route ∈ new.routes, route.1.head? ≠ lower.head?.map .char) :
    Formed (static upper ended (static lower held below new) others) ∧
      (static upper ended (static lower held below new) others).routes.Perm
        (behind (literal upper) ended new.routes ++
          (static (upper ++ lower) held below others).routes) := by
  cases formed with
  | static labelSome plain apart formedBelow formedOthers =>
      obtain ⟨plainUpper, plainLower⟩ := List.forall_mem_append.mp plain
      rw [List.head?_append_of_ne_nil _ upperSome] at apart
      refine ⟨.static upperSome plainUpper apart
        (.static lowerSome plainLower differs formedBelow formedNew) formedOthers, ?_⟩
      simp only [routes]
      rw [Pattern.literal_append, ← behind_none_behind, ← List.append_assoc]
      apply List.Perm.append_right
      unfold behind
      simp only [List.map_append, List.append_assoc, Option.toList_none, List.map_nil,
        List.nil_append]
      apply List.Perm.append_left
      exact (List.append_assoc _ _ _ ▸ List.perm_append_comm)

theorem beside_routes {c : Char} {pattern : Pattern} {wildcard new : RouteTree α}
    (proper : Pattern.Proper (.char c :: pattern)) (formed : Formed wildcard)
    (wild : ∀ route ∈ wildcard.routes, route.1.head? ≠ some (.char c))
    (made : single? value (.char c :: pattern) = some new) :
    Formed (beside wildcard new) ∧
      (beside wildcard new).routes = (.char c :: pattern, value) :: wildcard.routes := by
  obtain ⟨formedNew, routes_eq⟩ := single?_routes proper made
  obtain ⟨label, held, below, rfl⟩ := single?_char made
  cases formedNew with
  | static labelSome plain apart formedBelow formedOthers =>
      refine ⟨.static labelSome plain wild formedBelow formed, ?_⟩
      rw [routes, routes, List.append_nil] at routes_eq
      rw [beside, routes, routes_eq]
      rfl

/-- Where all patterns go on with a slash, they still do after another one is added that does. -/
theorem stops_add? {pattern : Pattern} {tree grown : RouteTree α}
    (starts : pattern.head? = some (.char '/'))
    (stops : tree = nil ∨ ∃ label held below, tree = static ('/' :: label) held below nil)
    (added : add? value pattern tree = some grown) :
    ∃ label held below, grown = static ('/' :: label) held below nil := by
  rcases stops with rfl | ⟨label, held, below, rfl⟩
  · obtain ⟨later, rfl⟩ := List.head?_eq_some_iff.mp starts
    exact single?_char added
  · cases Meeting.of ('/' :: label) pattern with
    | apart differs => exact absurd starts differs
    | @inside upper lower left upperSome lowerSome whole differs =>
        obtain ⟨upper, rfl⟩ : ∃ more, upper = '/' :: more := by
          cases upper with
          | nil => exact absurd rfl upperSome
          | cons c upper =>
              cases whole
              exact ⟨upper, rfl⟩
        rw [whole] at added
        by_cases ends : left = []
        · rw [ends, List.append_nil, add?_inside_end upperSome lowerSome] at added
          cases added
          exact ⟨_, _, _, rfl⟩
        · rw [add?_inside upperSome lowerSome ends differs] at added
          obtain ⟨_, _, rfl⟩ := Option.map_eq_some_iff.mp added
          exact ⟨_, _, _, rfl⟩
    | through left =>
        by_cases ends : left = []
        · rw [ends, List.append_nil, add?_through_end (List.cons_ne_nil _ _)] at added
          split at added
          · cases added
          · cases added
            exact ⟨_, _, _, rfl⟩
        · rw [add?_through (List.cons_ne_nil _ _) ends] at added
          obtain ⟨_, _, rfl⟩ := Option.map_eq_some_iff.mp added
          exact ⟨_, _, _, rfl⟩

/-- A tree to which a pattern is added has one route more, and is formed as before. -/
theorem add?_routes {tree grown : RouteTree α} {pattern : Pattern} (formed : Formed tree)
    (proper : pattern.Proper) (nonempty : pattern ≠ [])
    (added : add? value pattern tree = some grown) :
    Formed grown ∧ grown.routes.Perm ((pattern, value) :: tree.routes) := by
  induction formed generalizing pattern grown with
  | nil =>
      rw [add?] at added
      obtain ⟨formed, routes_eq⟩ := single?_routes proper added
      exact ⟨formed, .of_eq routes_eq⟩
  | @static label held below others labelSome plain apart formedBelow formedOthers ihBelow ihOthers =>
      have whole : Formed (static label held below others) :=
        .static labelSome plain apart formedBelow formedOthers
      cases Meeting.of label pattern with
      | apart differs =>
          rw [add?_apart nonempty differs] at added
          obtain ⟨grownOthers, laterAdded, rfl⟩ := Option.map_eq_some_iff.mp added
          obtain ⟨formed, perm⟩ := ihOthers proper nonempty laterAdded
          refine ⟨.static labelSome plain ?_ formedBelow formed, ?_⟩
          · intro route inside
            rcases List.mem_cons.mp (perm.subset inside) with rfl | old
            · exact differs
            · exact apart route old
          · exact (perm.append_left _).trans List.perm_middle
      | @inside upper lower left upperSome lowerSome same differs =>
          subst same
          by_cases ends : left = []
          · subst ends
            rw [List.append_nil] at added ⊢
            rw [add?_inside_end upperSome lowerSome] at added
            cases added
            exact split_routes (some value) whole upperSome lowerSome .nil
              fun _ impossible => absurd impossible List.not_mem_nil
          · rw [add?_inside upperSome lowerSome ends differs] at added
            obtain ⟨new, made, rfl⟩ := Option.map_eq_some_iff.mp added
            obtain ⟨formedNew, routes_eq⟩ := single?_routes proper.of_literal_append.2 made
            obtain ⟨formed, perm⟩ := split_routes none whole upperSome lowerSome formedNew
              (routes_eq ▸ List.forall_mem_singleton.mpr differs)
            rw [routes_eq] at perm
            exact ⟨formed, perm⟩
      | through left =>
          by_cases ends : left = []
          · subst ends
            rw [List.append_nil] at added ⊢
            rw [add?_through_end labelSome] at added
            cases held with
            | some other => cases added
            | none =>
                cases added
                exact ⟨.static labelSome plain apart formedBelow formedOthers, .refl _⟩
          · rw [add?_through labelSome ends] at added
            obtain ⟨grownBelow, laterAdded, rfl⟩ := Option.map_eq_some_iff.mp added
            obtain ⟨formed, perm⟩ := ihBelow proper.of_literal_append.2 ends laterAdded
            exact ⟨.static labelSome plain apart formed formedOthers,
              (behind_perm _ held perm).append_right _⟩
  | @segment held below stops formedBelow ih =>
      cases pattern with
      | nil => exact absurd rfl nonempty
      | cons piece pattern =>
          cases piece with
          | char c =>
              obtain ⟨new, made, rfl⟩ := Option.map_eq_some_iff.mp added
              obtain ⟨formed, routes_eq⟩ := beside_routes proper (.segment stops formedBelow) (by
                rintro ⟨other, held⟩ inside
                rcases mem_behind.mp inside with ⟨rfl, _⟩ | ⟨later, rfl, _⟩ <;> simp) made
              exact ⟨formed, .of_eq routes_eq⟩
          | segment =>
              rw [add?] at added
              split at added
              · rename_i ends
                obtain rfl := List.isEmpty_iff.mp ends
                cases held with
                | some other => cases added
                | none =>
                    cases added
                    exact ⟨.segment stops formedBelow, .refl _⟩
              · rename_i ends
                have patternSome : pattern ≠ [] := fun empty => ends (List.isEmpty_iff.mpr empty)
                obtain ⟨grownBelow, laterAdded, rfl⟩ := Option.map_eq_some_iff.mp added
                cases proper with
                | segment slashed later =>
                    obtain ⟨formed, perm⟩ := ih later patternSome laterAdded
                    have starts := slashed.resolve_left patternSome
                    exact ⟨.segment (.inr (stops_add? starts stops laterAdded)) formed,
                      behind_perm _ held perm⟩
          | rest => cases added
  | rest other =>
      cases pattern with
      | nil => exact absurd rfl nonempty
      | cons piece pattern =>
          cases piece with
          | char c =>
              obtain ⟨new, made, rfl⟩ := Option.map_eq_some_iff.mp added
              obtain ⟨formed, routes_eq⟩ := beside_routes proper (.rest other)
                (List.forall_mem_singleton.mpr (by simp)) made
              exact ⟨formed, .of_eq routes_eq⟩
          | segment => cases added
          | rest => cases added

/-- A tree that is built from routes has these routes. -/
theorem ofList?_routes {given : List (Pattern × α)} {tree : RouteTree α}
    (proper : ∀ route ∈ given, route.1.Proper ∧ route.1 ≠ []) (built : ofList? given = some tree) :
    Formed tree ∧ tree.routes.Perm given := by
  have grown (start : RouteTree α) (formed : Formed start)
      (built : given.foldlM (fun tree route => add? route.2 route.1 tree) start = some tree) :
      Formed tree ∧ tree.routes.Perm (given ++ start.routes) := by
    clear * - proper formed built
    induction given generalizing start with
    | nil =>
        cases built
        exact ⟨formed, .refl _⟩
    | cons route given ih =>
        obtain ⟨⟨properRoute, nonempty⟩, proper⟩ := List.forall_mem_cons.mp proper
        rw [List.foldlM_cons] at built
        obtain ⟨next, added, built⟩ := Option.bind_eq_some_iff.mp built
        obtain ⟨formedNext, perm⟩ := add?_routes formed properRoute nonempty added
        obtain ⟨formedTree, permTree⟩ := ih proper next formedNext built
        exact ⟨formedTree, permTree.trans ((perm.append_left _).trans List.perm_middle)⟩
  obtain ⟨formed, perm⟩ := grown nil .nil built
  refine ⟨formed, perm.trans ?_⟩
  rw [routes, List.append_nil]

end RouteTree

end PresenceGateway.Http
