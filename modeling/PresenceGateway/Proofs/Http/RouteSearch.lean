import PresenceGateway.Proofs.Http.RouteTrees
/-!
What a search of a tree of patterns finds.

A search finds nothing but a value whose pattern the path follows. A path that spells a pattern of the
tree is led to it, whatever the other patterns are: no static branch begins with a mark, and beside the
static branch that the path follows there is no other.
-/
namespace PresenceGateway.Http.RouteTree

open Pattern (literal isMark)

variable {α : Type} {value : α}

/-! ### Single branches -/

theorem without_ne_found (path : List Char) : Search.without path ≠ .found value := by
  unfold Search.without
  split
  · intro impossible
    cases impossible
  · intro impossible
    cases impossible

theorem ending_eq_found {held : Option α} {path : List Char}
    (found : Search.ending path held = .found value) : held = some value := by
  cases held with
  | none => exact absurd found (without_ne_found path)
  | some other =>
      cases found
      rfl

theorem follow_eq_found {label path : List Char} {held : Option α} {below : List Char → Search α}
    (found : follow label held below path = .found value) :
    (path = label ∧ held = some value) ∨ ∃ later, path = label ++ later ∧ below later = .found value := by
  unfold follow at found
  split at found
  · rename_i starts
    obtain ⟨later, rfl⟩ := List.isPrefixOf_iff_prefix.mp starts
    split at found
    · rename_i same
      have ended : later = [] := by
        rw [List.length_append] at same
        exact List.length_eq_zero_iff.mp (by omega)
      subst ended
      exact .inl ⟨List.append_nil _, ending_eq_found found⟩
    · rw [List.drop_left] at found
      exact .inr ⟨later, rfl, found⟩
  · split at found
    · cases found
    · exact absurd found (without_ne_found path)

theorem follow_label {label : List Char} {held : Option α} (here : held = some value)
    (below : List Char → Search α) : follow label held below label = .found value := by
  subst here
  unfold follow
  rw [if_pos (List.isPrefixOf_iff_prefix.mpr (List.prefix_refl _)), if_pos rfl]
  rfl

theorem follow_append (label : List Char) {later : List Char} (held : Option α)
    (below : List Char → Search α) (laterSome : later ≠ []) :
    follow label held below (label ++ later) = below later := by
  unfold follow
  rw [if_pos (List.isPrefixOf_iff_prefix.mpr (List.prefix_append _ _)), if_neg, List.drop_left]
  rw [List.length_append]
  have := List.length_pos_iff.mpr laterSome
  omega

theorem search_of_follow {ends : Bool} {label path : List Char} {held : Option α}
    {below others : RouteTree α} (same : label.head? = path.head?)
    (stays : strays ends label path = false)
    (found : follow label held (search held.isSome below) path = .found value) :
    search ends (static label held below others) path = .found value := by
  rw [search, if_pos same, if_neg (by rw [stays]; decide), found]

theorem segment_eq_found {ends : Bool} {held : Option α} {below : RouteTree α} {path : List Char}
    (stops : below = nil ∨ ∃ label inner deeper, below = static ('/' :: label) inner deeper nil)
    (found : search ends (segment held below) path = .found value) :
    (path.dropWhile (· ≠ '/') = [] ∧ held = some value) ∨
      search false below (path.dropWhile (· ≠ '/')) = .found value := by
  have slashed := Pattern.stops_dropWhile path
  rw [search.eq_def] at found
  dsimp only at found
  generalize path.dropWhile (· ≠ '/') = later at found slashed ⊢
  cases later with
  | nil =>
      refine .inl ⟨rfl, ?_⟩
      cases held with
      | some other =>
          cases found
          rfl
      | none =>
          rcases stops with rfl | ⟨label, inner, deeper, rfl⟩
          · cases found
          · dsimp only at found
            split at found
            · cases found
            · cases found
  | cons c later =>
      rcases stops with rfl | ⟨label, inner, deeper, rfl⟩
      · dsimp only at found
        split at found
        · cases found
        · cases found
      · have starts : c = '/' := by
          rcases slashed with impossible | starts
          · cases impossible
          · exact Option.some.inj starts
        subst starts
        dsimp only at found
        split at found
        · cases found
        · exact .inr (search_of_follow rfl rfl found)

/-! ### Whole trees -/

/-- A search finds only what stands at a pattern that the path follows. -/
theorem search_sound {tree : RouteTree α} (formed : Formed tree) {ends : Bool} {path : List Char}
    (found : search ends tree path = .found value) :
    ∃ pattern, (pattern, value) ∈ tree.routes ∧ pattern.Matches path := by
  induction formed generalizing ends path with
  | nil => exact absurd found (without_ne_found path)
  | @static label held below others labelSome plain apart formedBelow formedOthers ihBelow ihOthers =>
      have beside (later : search ends others path = .found value) :
          ∃ pattern, (pattern, value) ∈ (static label held below others).routes ∧
            pattern.Matches path := by
        obtain ⟨pattern, inside, followed⟩ := ihOthers later
        exact ⟨pattern, List.mem_append_right _ inside, followed⟩
      rw [search] at found
      split at found
      · split at found
        · cases found
        · split at found
          · exact beside found
          · rcases follow_eq_found found with ⟨rfl, here⟩ | ⟨later, rfl, deeper⟩
            · refine ⟨literal path, List.mem_append_left _ (mem_behind.mpr (.inl ⟨rfl, here⟩)), ?_⟩
              have followed := Pattern.Matches.literal_append path .done
              rwa [List.append_nil, List.append_nil] at followed
            · obtain ⟨pattern, inside, followed⟩ := ihBelow deeper
              exact ⟨literal label ++ pattern,
                List.mem_append_left _ (mem_behind.mpr (.inr ⟨pattern, rfl, inside⟩)),
                followed.literal_append label⟩
      · exact beside found
  | segment stops formedBelow ih =>
      rcases segment_eq_found stops found with ⟨ended, rfl⟩ | deeper
      · refine ⟨[.segment], mem_behind.mpr (.inl ⟨rfl, rfl⟩), .segment ?_⟩
        rw [ended]
        exact .done
      · obtain ⟨pattern, inside, followed⟩ := ih deeper
        exact ⟨.segment :: pattern, mem_behind.mpr (.inr ⟨pattern, rfl, inside⟩), .segment followed⟩
  | rest other =>
      cases found
      exact ⟨[.rest], List.mem_singleton.mpr rfl, .rest path⟩

theorem segment_found {ends : Bool} {held : Option α} {below : RouteTree α} {path : List Char}
    (stops : below = nil ∨ ∃ label inner deeper, below = static ('/' :: label) inner deeper nil)
    (laterSome : path.dropWhile (· ≠ '/') ≠ [])
    (found : search held.isSome below (path.dropWhile (· ≠ '/')) = .found value) :
    search ends (segment held below) path = .found value := by
  have slashed := Pattern.stops_dropWhile path
  rw [search.eq_def]
  dsimp only
  generalize path.dropWhile (· ≠ '/') = later at laterSome found slashed ⊢
  cases later with
  | nil => exact absurd rfl laterSome
  | cons c later =>
      rcases stops with rfl | ⟨label, inner, deeper, rfl⟩
      · exact absurd found (without_ne_found _)
      · have same : ('/' :: label).head? = (c :: later).head? :=
          (slashed.resolve_left laterSome).symm
        rw [search, if_pos same] at found
        dsimp only
        split
        · rename_i strays
          rw [if_pos strays] at found
          cases found
        · rename_i stays
          rw [if_neg stays] at found
          split at found
          · exact absurd found (without_ne_found _)
          · exact found

theorem strays_append {ends : Bool} {label later : List Char} (labelSome : label ≠ [])
    (laterSome : later ≠ []) : strays ends label (label ++ later) = false := by
  have longer : label ++ later ≠ ['/'] := by
    intro lone
    have length := congrArg List.length lone
    have := List.length_pos_iff.mpr labelSome
    have := List.length_pos_iff.mpr laterSome
    simp only [List.length_append, List.length_singleton] at length
    omega
  simp [strays, longer]

theorem strays_self (ends : Bool) (label : List Char) : strays ends label label = false := by
  by_cases lone : label = ['/']
  · simp [strays, lone]
  · simp [strays, lone]

/-- A path that spells a pattern of a tree is led to the value that stands there. -/
theorem search_complete {tree : RouteTree α} (formed : Formed tree) {ends : Bool} {pattern : Pattern}
    {path : List Char} (inside : (pattern, value) ∈ tree.routes) (spells : pattern.Spells path) :
    search ends tree path = .found value := by
  induction formed generalizing ends pattern path with
  | nil => cases inside
  | @static label held below others labelSome plain apart formedBelow formedOthers ihBelow ihOthers =>
      rcases List.mem_append.mp inside with inside | inside
      · rcases mem_behind.mp inside with ⟨rfl, here⟩ | ⟨later, rfl, deeper⟩
        · obtain rfl := spells.of_literal
          exact search_of_follow rfl (strays_self ends path) (follow_label here _)
        · obtain ⟨cs, rfl, spellsLater⟩ := spells.of_literal_append
          have csSome := spellsLater.ne_nil (formedBelow.routes_ne_nil (later, value) deeper)
          refine search_of_follow (List.head?_append_of_ne_nil _ labelSome).symm
            (strays_append labelSome csSome) ?_
          rw [follow_append label held _ csSome]
          exact ihBelow deeper spellsLater
      -- A path that begins as the label does would spell a pattern that begins so, too: a mark at its
      -- head is not in the label.
      · have differs : label.head? ≠ path.head? := by
          intro same
          apply apart _ inside
          cases label with
          | nil => exact absurd rfl labelSome
          | cons c label =>
              cases spells with
              | done => cases same
              | char plainChar later =>
                  cases same
                  rfl
              | segment marked =>
                  cases same
                  rw [plain _ List.mem_cons_self] at marked
                  cases marked
              | rest marked =>
                  cases same
                  rw [plain _ List.mem_cons_self] at marked
                  cases marked
        rw [search, if_neg differs]
        exact ihOthers inside spells
  | segment stops formedBelow ih =>
      have later_of (mark : Char) (name cs : List Char) (marked : isMark mark = true)
          (within : ∀ c ∈ name, c ≠ '/') (ended : Pattern.Stops cs) :
          (mark :: (name ++ cs)).dropWhile (· ≠ '/') = cs :=
        @Pattern.dropWhile_segment (mark :: name) cs
          (List.forall_mem_cons.mpr ⟨Pattern.ne_slash_of_isMark marked, within⟩) ended
      rcases mem_behind.mp inside with ⟨rfl, rfl⟩ | ⟨later, rfl, deeper⟩
      · cases spells with
        | segment marked within ended spellsLater =>
            cases spellsLater
            rw [search.eq_def]
            dsimp only
            rw [later_of _ _ _ marked within ended]
      · cases spells with
        | segment marked within ended spellsLater =>
            have later_eq := later_of _ _ _ marked within ended
            apply segment_found stops
            · rw [later_eq]
              exact spellsLater.ne_nil (formedBelow.routes_ne_nil (later, value) deeper)
            · rw [later_eq]
              exact ih deeper spellsLater
  | rest other =>
      cases List.mem_singleton.mp inside
      rfl

theorem find?_eq_some_iff {tree : RouteTree α} {path : String} :
    find? tree path = some value ↔ search false tree path.toList = .found value := by
  unfold find?
  split
  · rename_i other found
    rw [found]
    simp
  · rename_i notFound
    exact iff_of_false (Option.some_ne_none _).symm fun found => notFound value found

end PresenceGateway.Http.RouteTree
