import PresenceGateway.Proofs.Http.RouteTrees
/-!
When a pattern is not added to a tree.

To a tree without wildcards a pattern is added unless it is there already, or asks for the rest of a path
inside a segment. The latter is not noticed where the static part of the pattern ends inside of another
pattern.
-/
namespace PresenceGateway.Http.RouteTree

open Pattern (literal)

variable {α : Type} {value : α}

/-! ### Patterns that end in a segment -/

/-- A pattern that asks for the rest of the path behind a character other than a slash. -/
def Hangs (pattern : Pattern) : Prop :=
  ∃ front c, pattern = front ++ [.char c, .rest] ∧ c ≠ '/'

theorem hangs_cons {piece : Piece} {pattern : Pattern} (nonempty : pattern ≠ [])
    (notRest : pattern ≠ [.rest]) : Hangs (piece :: pattern) ↔ Hangs pattern := by
  constructor
  · rintro ⟨front, c, split, notSlash⟩
    cases front with
    | nil =>
        cases split
        exact absurd rfl notRest
    | cons first front =>
        cases split
        exact ⟨front, c, rfl, notSlash⟩
  · rintro ⟨front, c, rfl, notSlash⟩
    exact ⟨piece :: front, c, rfl, notSlash⟩

theorem not_hangs_single (piece : Piece) : ¬Hangs [piece] := by
  rintro ⟨front, c, split, _⟩
  have lengths := congrArg List.length split
  simp only [List.length_append, List.length_cons, List.length_nil] at lengths
  omega

theorem single?_eq_none_iff {pattern : Pattern} (proper : pattern.Proper) (nonempty : pattern ≠ []) :
    single? value pattern = none ↔ Hangs pattern := by
  induction proper with
  | done => exact absurd rfl nonempty
  | @char c pattern plain later ih =>
      cases pattern with
      | nil => exact iff_of_false (Option.some_ne_none _) (not_hangs_single _)
      | cons piece pattern =>
          have laterSome : piece :: pattern ≠ [] := List.cons_ne_nil _ _
          cases piece with
          | char d =>
              rw [hangs_cons laterSome (by simp), ← ih laterSome]
              exact Option.map_eq_none_iff
          | segment =>
              rw [hangs_cons laterSome (by simp), ← ih laterSome]
              exact Option.map_eq_none_iff
          | rest =>
              cases later
              rw [single?]
              by_cases slash : c = '/'
              · subst slash
                refine iff_of_false (by simp [single?]) ?_
                rintro ⟨front, c, split, notSlash⟩
                have split : [] ++ [Piece.char '/', .rest] = front ++ [.char c, .rest] := split
                obtain ⟨_, same⟩ := List.append_inj' split rfl
                cases same
                exact notSlash rfl
              · rw [if_neg slash]
                exact iff_of_true rfl ⟨[], c, rfl, slash⟩
  | @segment pattern stops later ih =>
      cases pattern with
      | nil => exact iff_of_false (Option.some_ne_none _) (not_hangs_single _)
      | cons piece pattern =>
          have laterSome : piece :: pattern ≠ [] := List.cons_ne_nil _ _
          rw [hangs_cons laterSome, ← ih laterSome]
          · exact Option.map_eq_none_iff
          · rcases stops with impossible | starts
            · cases impossible
            · cases starts
              simp
  | rest => exact iff_of_false (Option.some_ne_none _) (not_hangs_single _)

/-! ### Patterns that are refused -/

inductive Plain : RouteTree α → Prop where
  | nil : Plain nil
  | static {label : List Char} {held : Option α} {below others : RouteTree α}
      (leads : ∃ route, route ∈ behind (literal label) held below.routes)
      (plainBelow : Plain below) (plainOthers : Plain others) :
      Plain (static label held below others)

def Taken (tree : RouteTree α) (pattern : Pattern) : Prop :=
  ∃ value, (pattern, value) ∈ tree.routes

def Reached (tree : RouteTree α) (pattern : Pattern) : Prop :=
  ∃ route ∈ tree.routes, pattern <+: route.1

/-- A pattern that asks for the rest of the path inside a segment, and not where another pattern of the
tree goes on. -/
def Misplaced (tree : RouteTree α) (pattern : Pattern) : Prop :=
  ∃ front c, pattern = front ++ [.char c, .rest] ∧ c ≠ '/' ∧ ¬Reached tree (front ++ [.char c])

theorem split_hanging {upper : List Char} {left front : Pattern} {c : Char} (leftSome : left ≠ [])
    (split : literal upper ++ left = front ++ [.char c, .rest]) :
    (left = [.rest] ∧ literal upper = front ++ [.char c]) ∨
      ∃ middle, left = middle ++ [.char c, .rest] ∧ front = literal upper ++ middle := by
  rcases List.append_eq_append_iff.mp split with ⟨middle, rfl, rfl⟩ | ⟨middle, whole, ending⟩
  · exact .inr ⟨middle, rfl, rfl⟩
  · cases middle with
    | nil => exact .inr ⟨[], ending.symm, by simpa using whole.symm⟩
    | cons first middle =>
        cases middle with
        | nil =>
            cases ending
            exact .inl ⟨rfl, whole⟩
        | cons second middle =>
            have lengths := congrArg List.length ending
            have := List.length_pos_iff.mpr leftSome
            simp only [List.length_cons, List.length_append, List.length_nil] at lengths
            omega

section Static

variable {label : List Char} {held : Option α} {below others : RouteTree α} {pattern : Pattern}

theorem head?_of_mem_behind {route : Pattern × α} (labelSome : label ≠ [])
    (inside : route ∈ behind (literal label) held below.routes) :
    route.1.head? = label.head?.map .char := by
  obtain ⟨pattern, value⟩ := route
  cases label with
  | nil => exact absurd rfl labelSome
  | cons c label =>
      rcases mem_behind.mp inside with ⟨rfl, _⟩ | ⟨later, rfl, _⟩
      · rfl
      · rfl

theorem head?_eq_of_before {first second : Pattern} (firstSome : first ≠ []) (before : first <+: second) :
    first.head? = second.head? := by
  obtain ⟨later, rfl⟩ := before
  exact (List.head?_append_of_ne_nil _ firstSome).symm

theorem reached_apart (labelSome : label ≠ []) (nonempty : pattern ≠ [])
    (differs : pattern.head? ≠ label.head?.map .char) :
    Reached (static label held below others) pattern ↔ Reached others pattern := by
  constructor
  · rintro ⟨route, inside, before⟩
    rcases List.mem_append.mp inside with inside | inside
    · rw [head?_eq_of_before nonempty before] at differs
      exact absurd (head?_of_mem_behind labelSome inside) differs
    · exact ⟨route, inside, before⟩
  · rintro ⟨route, inside, before⟩
    exact ⟨route, List.mem_append_right _ inside, before⟩

theorem taken_apart (labelSome : label ≠ []) (differs : pattern.head? ≠ label.head?.map .char) :
    Taken (static label held below others) pattern ↔ Taken others pattern := by
  constructor
  · rintro ⟨value, inside⟩
    rcases List.mem_append.mp inside with inside | inside
    · exact absurd (head?_of_mem_behind labelSome inside) differs
    · exact ⟨value, inside⟩
  · rintro ⟨value, inside⟩
    exact ⟨value, List.mem_append_right _ inside⟩

theorem not_reached_others (labelSome : label ≠ [])
    (apart : ∀ route ∈ others.routes, route.1.head? ≠ label.head?.map .char) (later : Pattern) :
    ¬Reached others (literal label ++ later) := by
  rintro ⟨route, inside, before⟩
  apply apart route inside
  have whole : literal label ++ later ≠ [] :=
    List.append_ne_nil_of_left_ne_nil (Pattern.literal_ne_nil labelSome) _
  rw [← head?_eq_of_before whole before]
  cases label with
  | nil => exact absurd rfl labelSome
  | cons c label => rfl

theorem reached_upper {upper lower : List Char} (whole : label = upper ++ lower)
    (leads : ∃ route, route ∈ behind (literal label) held below.routes) :
    Reached (static label held below others) (literal upper) := by
  subst whole
  obtain ⟨⟨pattern, value⟩, inside⟩ := leads
  refine ⟨(pattern, value), List.mem_append_left _ inside, ?_⟩
  rw [Pattern.literal_append] at inside
  rcases mem_behind.mp inside with ⟨rfl, _⟩ | ⟨later, rfl, _⟩
  · exact List.prefix_append _ _
  · rw [List.append_assoc]
    exact List.prefix_append _ _

theorem reached_through (labelSome : label ≠ [])
    (apart : ∀ route ∈ others.routes, route.1.head? ≠ label.head?.map .char) (nonempty : pattern ≠ []) :
    Reached (static label held below others) (literal label ++ pattern) ↔ Reached below pattern := by
  constructor
  · rintro ⟨⟨whole, value⟩, inside, before⟩
    rcases List.mem_append.mp inside with inside | inside
    · rcases mem_behind.mp inside with ⟨rfl, _⟩ | ⟨later, rfl, deeper⟩
      · have shorter := before.length_le
        have := List.length_pos_iff.mpr nonempty
        simp only [List.length_append] at shorter
        omega
      · exact ⟨(later, value), deeper, (List.prefix_append_right_inj _).mp before⟩
    · exact absurd ⟨_, inside, before⟩ (not_reached_others labelSome apart pattern)
  · rintro ⟨⟨later, value⟩, inside, before⟩
    exact ⟨(literal label ++ later, value),
      List.mem_append_left _ (mem_behind.mpr (.inr ⟨later, rfl, inside⟩)),
      (List.prefix_append_right_inj _).mpr before⟩

theorem taken_through (labelSome : label ≠ [])
    (apart : ∀ route ∈ others.routes, route.1.head? ≠ label.head?.map .char) (nonempty : pattern ≠ []) :
    Taken (static label held below others) (literal label ++ pattern) ↔ Taken below pattern := by
  constructor
  · rintro ⟨value, inside⟩
    rcases List.mem_append.mp inside with inside | inside
    · rcases mem_behind.mp inside with ⟨same, _⟩ | ⟨later, same, deeper⟩
      · exact absurd (List.append_right_eq_self.mp same) nonempty
      · obtain rfl := List.append_cancel_left same
        exact ⟨value, deeper⟩
    · exact absurd ⟨_, inside, List.prefix_refl _⟩ (not_reached_others labelSome apart pattern)
  · rintro ⟨value, inside⟩
    exact ⟨value, List.mem_append_left _ (mem_behind.mpr (.inr ⟨pattern, rfl, inside⟩))⟩

theorem taken_label (labelSome : label ≠ [])
    (apart : ∀ route ∈ others.routes, route.1.head? ≠ label.head?.map .char)
    (formedBelow : Formed below) :
    Taken (static label held below others) (literal label) ↔ held.isSome := by
  constructor
  · rintro ⟨value, inside⟩
    rcases List.mem_append.mp inside with inside | inside
    · rcases mem_behind.mp inside with ⟨_, here⟩ | ⟨later, same, deeper⟩
      · rw [here]
        rfl
      · exact absurd (List.append_right_eq_self.mp same.symm)
          (formedBelow.routes_ne_nil (later, value) deeper)
    · have reached : Reached others (literal label ++ []) :=
        ⟨_, inside, (List.append_nil _).symm ▸ List.prefix_refl _⟩
      exact absurd reached (not_reached_others labelSome apart [])
  · intro here
    obtain ⟨value, rfl⟩ := Option.isSome_iff_exists.mp here
    exact ⟨value, List.mem_append_left _ (mem_behind.mpr (.inl ⟨rfl, rfl⟩))⟩

theorem misplaced_apart (labelSome : label ≠ []) (differs : pattern.head? ≠ label.head?.map .char) :
    Misplaced (static label held below others) pattern ↔ Misplaced others pattern := by
  unfold Misplaced
  refine exists_congr fun front => exists_congr fun c => and_congr_right fun split =>
    and_congr_right fun _ => not_congr (reached_apart labelSome (by simp) ?_)
  have before : front ++ [.char c] <+: pattern := ⟨[.rest], by rw [split]; simp⟩
  rwa [head?_eq_of_before (by simp) before]

theorem misplaced_through (labelSome : label ≠ [])
    (apart : ∀ route ∈ others.routes, route.1.head? ≠ label.head?.map .char)
    (leads : ∃ route, route ∈ behind (literal label) held below.routes) (nonempty : pattern ≠ []) :
    Misplaced (static label held below others) (literal label ++ pattern) ↔
      Misplaced below pattern := by
  constructor
  · rintro ⟨front, c, split, notSlash, unreached⟩
    rcases split_hanging nonempty split with ⟨_, whole⟩ | ⟨middle, rfl, rfl⟩
    -- Where the label ends, another pattern goes on: the wildcard is not misplaced there.
    · rw [← whole] at unreached
      exact absurd (reached_upper (List.append_nil label).symm leads) unreached
    · refine ⟨middle, c, rfl, notSlash, ?_⟩
      rwa [List.append_assoc, reached_through labelSome apart (by simp)] at unreached
  · rintro ⟨front, c, rfl, notSlash, unreached⟩
    refine ⟨literal label ++ front, c, (List.append_assoc _ _ _).symm, notSlash, ?_⟩
    rwa [List.append_assoc, reached_through labelSome apart (by simp)]

theorem not_taken_inside {upper lower : List Char} {left : Pattern} (upperSome : upper ≠ [])
    (lowerSome : lower ≠ []) (differs : left.head? ≠ lower.head?.map .char)
    (apart : ∀ route ∈ others.routes, route.1.head? ≠ upper.head?.map .char) :
    ¬Taken (static (upper ++ lower) held below others) (literal upper ++ left) := by
  rintro ⟨value, inside⟩
  rcases List.mem_append.mp inside with inside | inside
  · rw [Pattern.literal_append, ← behind_none_behind] at inside
    rcases mem_behind.mp inside with ⟨_, impossible⟩ | ⟨later, same, deeper⟩
    · cases impossible
    · obtain rfl := List.append_cancel_left same
      exact differs (head?_of_mem_behind lowerSome deeper)
  · exact not_reached_others upperSome apart left ⟨_, inside, List.prefix_refl _⟩

theorem misplaced_inside {upper lower : List Char} {left : Pattern} (upperSome : upper ≠ [])
    (lowerSome : lower ≠ []) (leftSome : left ≠ []) (differs : left.head? ≠ lower.head?.map .char)
    (apart : ∀ route ∈ others.routes, route.1.head? ≠ upper.head?.map .char)
    (leads : ∃ route, route ∈ behind (literal (upper ++ lower)) held below.routes) :
    Misplaced (static (upper ++ lower) held below others) (literal upper ++ left) ↔ Hangs left := by
  constructor
  · rintro ⟨front, c, split, notSlash, unreached⟩
    rcases split_hanging leftSome split with ⟨_, whole⟩ | ⟨middle, rfl, rfl⟩
    · rw [← whole] at unreached
      exact absurd (reached_upper rfl leads) unreached
    · exact ⟨middle, c, rfl, notSlash⟩
  · rintro ⟨front, c, rfl, notSlash⟩
    refine ⟨literal upper ++ front, c, (List.append_assoc _ _ _).symm, notSlash, ?_⟩
    rw [List.append_assoc]
    rintro ⟨⟨whole, value⟩, inside, before⟩
    rcases List.mem_append.mp inside with inside | inside
    · rw [Pattern.literal_append, ← behind_none_behind] at inside
      rcases mem_behind.mp inside with ⟨_, impossible⟩ | ⟨later, rfl, deeper⟩
      · cases impossible
      · have within := (List.prefix_append_right_inj _).mp before
        have heads := head?_eq_of_before (by simp) within
        rw [head?_of_mem_behind lowerSome deeper] at heads
        apply differs
        rw [← heads]
        exact (head?_eq_of_before (by simp) ⟨[.rest], by simp⟩).symm
    · exact not_reached_others upperSome apart _ ⟨_, inside, before⟩

end Static

/-- To a tree without wildcards a pattern is added unless it is there, or is misplaced. -/
theorem add?_eq_none_iff {tree : RouteTree α} (plain : Plain tree) (formed : Formed tree)
    {pattern : Pattern} (proper : pattern.Proper) (nonempty : pattern ≠ []) :
    add? value pattern tree = none ↔ Taken tree pattern ∨ Misplaced tree pattern := by
  induction plain generalizing pattern with
  | nil =>
      rw [add?, single?_eq_none_iff proper nonempty]
      constructor
      · rintro ⟨front, c, split, notSlash⟩
        refine .inr ⟨front, c, split, notSlash, ?_⟩
        rintro ⟨_, impossible, _⟩
        cases impossible
      · rintro (⟨_, impossible⟩ | ⟨front, c, split, notSlash, _⟩)
        · cases impossible
        · exact ⟨front, c, split, notSlash⟩
  | @static label held below others leads plainBelow plainOthers ihBelow ihOthers =>
      cases formed with
      | static labelSome unmarked apart formedBelow formedOthers =>
          cases Meeting.of label pattern with
          | apart differs =>
              rw [add?_apart nonempty differs, Option.map_eq_none_iff,
                ihOthers formedOthers proper nonempty, taken_apart labelSome differs,
                misplaced_apart labelSome differs]
          | @inside upper lower left upperSome lowerSome whole differs =>
              subst whole
              rw [List.head?_append_of_ne_nil _ upperSome] at apart
              have free : ¬Taken (static (upper ++ lower) held below others) (literal upper ++ left) :=
                not_taken_inside upperSome lowerSome differs apart
              by_cases ends : left = []
              · subst ends
                rw [List.append_nil] at free ⊢
                rw [add?_inside_end upperSome lowerSome]
                refine iff_of_false (Option.some_ne_none _) (not_or.mpr ⟨free, ?_⟩)
                rintro ⟨front, c, split, _⟩
                exact Pattern.literal_ne_hanging split
              · rw [add?_inside upperSome lowerSome ends differs, Option.map_eq_none_iff,
                  single?_eq_none_iff proper.of_literal_append.2 ends,
                  misplaced_inside upperSome lowerSome ends differs apart leads]
                exact (or_iff_right free).symm
          | through left =>
              by_cases ends : left = []
              · subst ends
                rw [List.append_nil, add?_through_end labelSome,
                  taken_label labelSome apart formedBelow, or_iff_left]
                · cases held with
                  | none => exact iff_of_false (Option.some_ne_none _) Bool.false_ne_true
                  | some other => exact iff_of_true rfl rfl
                · rintro ⟨front, c, split, _⟩
                  exact Pattern.literal_ne_hanging split
              · rw [add?_through labelSome ends, Option.map_eq_none_iff,
                  ihBelow formedBelow proper.of_literal_append.2 ends,
                  taken_through labelSome apart ends, misplaced_through labelSome apart leads ends]

end PresenceGateway.Http.RouteTree
