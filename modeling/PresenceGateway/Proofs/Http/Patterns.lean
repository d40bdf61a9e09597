import Mathlib.Data.List.TakeWhile
import PresenceGateway.Http.Pattern
/-!
Patterns and the paths that follow them.

`Reads` says how a text is read as a pattern, and `Proper` which patterns come of that. `Matches` says
which paths follow a pattern, and `Spells` which of them do so with a mark where a wildcard begins, as
the text of the pattern itself does. A request cuts off what stands behind the first `?` or `#`, so that
a text follows its own pattern as a request only if these characters stand in the name of its last
wildcard.
-/
namespace PresenceGateway.Http.Pattern

/-! ### Reading -/

/-- The name of a wildcard: not empty, and with neither a mark nor a slash. -/
structure IsName (name : List Char) : Prop where
  nonempty : name ≠ []
  plain : ∀ c ∈ name, isMark c = false
  inside : ∀ c ∈ name, c ≠ '/'

def Stops (cs : List Char) : Prop :=
  cs = [] ∨ cs.head? = some '/'

/-- How characters are read as a pattern. -/
inductive Reads : List Char → Pattern → Prop where
  | done : Reads [] []
  | char {c : Char} {cs : List Char} {pattern : Pattern} (plain : isMark c = false)
      (later : Reads cs pattern) : Reads (c :: cs) (.char c :: pattern)
  | segment {name cs : List Char} {pattern : Pattern} (named : IsName name) (stops : Stops cs)
      (later : Reads cs pattern) : Reads (':' :: (name ++ cs)) (.segment :: pattern)
  | rest {name : List Char} (named : IsName name) : Reads ('*' :: name) [.rest]

theorem takeWhile_segment {name cs : List Char} (inside : ∀ c ∈ name, c ≠ '/') (stops : Stops cs) :
    (name ++ cs).takeWhile (· ≠ '/') = name := by
  rw [List.takeWhile_append_of_pos fun c member => decide_eq_true (inside c member)]
  have ended : cs.takeWhile (· ≠ '/') = [] := by
    rcases stops with rfl | starts
    · rfl
    · obtain ⟨rest, rfl⟩ := List.head?_eq_some_iff.mp starts
      rfl
  rw [ended, List.append_nil]

theorem dropWhile_segment {name cs : List Char} (inside : ∀ c ∈ name, c ≠ '/') (stops : Stops cs) :
    (name ++ cs).dropWhile (· ≠ '/') = cs := by
  rw [List.dropWhile_append_of_pos fun c member => decide_eq_true (inside c member)]
  rcases stops with rfl | starts
  · rfl
  · obtain ⟨rest, rfl⟩ := List.head?_eq_some_iff.mp starts
    rfl

theorem stops_dropWhile (cs : List Char) : Stops (cs.dropWhile (· ≠ '/')) := by
  induction cs with
  | nil => exact .inl rfl
  | cons c cs ih =>
      rw [List.dropWhile_cons]
      split
      · exact ih
      · rename_i slash
        refine .inr ?_
        simpa using slash

theorem reads_of_ofChars? {cs : List Char} {pattern : Pattern} (read : ofChars? cs = some pattern) :
    Reads cs pattern := by
  induction cs using ofChars?.induct generalizing pattern with
  | case1 =>
      rw [ofChars?] at read
      cases read
      exact .done
  | case2 cs name =>
      rename_i invalid
      rw [ofChars?, if_pos invalid] at read
      cases read
  | case3 cs name =>
      rename_i valid ih
      rw [ofChars?, if_neg valid] at read
      obtain ⟨later, laterRead, rfl⟩ := Option.map_eq_some_iff.mp read
      rw [Bool.or_eq_true, not_or] at valid
      have named : IsName name := by
        refine ⟨?_, ?_, ?_⟩
        · simpa using valid.1
        · simpa using valid.2
        · intro c member
          simpa using List.mem_takeWhile_imp member
      rw [← List.takeWhile_append_dropWhile (p := (· ≠ '/')) (l := cs)]
      exact .segment named (stops_dropWhile cs) (ih laterRead)
  | case4 cs invalid =>
      rw [ofChars?, if_pos invalid] at read
      cases read
  | case5 cs valid =>
      rw [ofChars?, if_neg valid] at read
      cases read
      simp only [Bool.or_eq_true, not_or] at valid
      obtain ⟨⟨nonempty, slashless⟩, plain⟩ := valid
      refine .rest ⟨by simpa using nonempty, by simpa using plain, ?_⟩
      rintro c member rfl
      exact slashless (by simpa using member)
  | case6 c cs notSegment notRest ih =>
      rw [ofChars?] at read
      · obtain ⟨later, laterRead, rfl⟩ := Option.map_eq_some_iff.mp read
        refine .char ?_ (ih laterRead)
        simpa [isMark] using ⟨notSegment, notRest⟩
      · exact notSegment
      · exact notRest

theorem ofChars?_of_reads {cs : List Char} {pattern : Pattern} (reads : Reads cs pattern) :
    ofChars? cs = some pattern := by
  induction reads with
  | done => rw [ofChars?]
  | @char c cs pattern plain later ih =>
      have notMark : c ≠ ':' ∧ c ≠ '*' := by simpa [isMark] using plain
      rw [ofChars?, ih]
      · rfl
      · exact notMark.1
      · exact notMark.2
  | @segment name cs pattern named stops later ih =>
      rw [ofChars?, takeWhile_segment named.inside stops, dropWhile_segment named.inside stops, ih]
      rw [if_neg]
      · rfl
      · simpa using ⟨named.nonempty, named.plain⟩
  | @rest name named =>
      rw [ofChars?, if_neg]
      simp only [Bool.or_eq_true, not_or]
      refine ⟨⟨by simpa using named.nonempty, ?_⟩, by simpa using named.plain⟩
      intro member
      exact named.inside '/' (by simpa using member) rfl

theorem ofChars?_eq_some_iff (cs : List Char) (pattern : Pattern) :
    ofChars? cs = some pattern ↔ Reads cs pattern :=
  ⟨reads_of_ofChars?, ofChars?_of_reads⟩

theorem parse?_eq_some_iff (text : String) (pattern : Pattern) :
    parse? text = some pattern ↔ text.toList.head? = some '/' ∧ Reads text.toList pattern ∧
      pattern.count .segment ≤ segmentLimit := by
  unfold parse?
  split
  · rename_i slashed
    rw [Option.filter_eq_some_iff, ofChars?_eq_some_iff, decide_eq_true_iff]
    exact (and_iff_right slashed).symm
  · rename_i slashless
    exact iff_of_false (Option.some_ne_none _).symm fun read => slashless read.1

/-! ### Patterns that are read -/

/-- Patterns of unmarked characters in which a wildcard ends where a segment does. -/
inductive Proper : Pattern → Prop where
  | done : Proper []
  | char {c : Char} {pattern : Pattern} (plain : isMark c = false) (later : Proper pattern) :
      Proper (.char c :: pattern)
  | segment {pattern : Pattern} (stops : pattern = [] ∨ pattern.head? = some (.char '/'))
      (later : Proper pattern) : Proper (.segment :: pattern)
  | rest : Proper [.rest]

def literal (cs : List Char) : Pattern :=
  cs.map .char

theorem literal_append (upper lower : List Char) :
    literal (upper ++ lower) = literal upper ++ literal lower :=
  List.map_append

theorem literal_ne_nil {label : List Char} (labelSome : label ≠ []) : literal label ≠ [] := by
  simpa [literal] using labelSome

theorem mem_literal {text : List Char} {piece : Piece} (inside : piece ∈ literal text) :
    ∃ c, piece = .char c := by
  obtain ⟨c, _, rfl⟩ := List.mem_map.mp inside
  exact ⟨c, rfl⟩

theorem count_segment_literal (text : List Char) : (literal text).count .segment = 0 := by
  refine List.count_eq_zero.mpr fun inside => ?_
  obtain ⟨c, impossible⟩ := mem_literal inside
  cases impossible

/-- A text without wildcards does not ask for the rest of a path. -/
theorem literal_ne_hanging {text : List Char} {front : Pattern} {c : Char} :
    literal text ≠ front ++ [.char c, .rest] := by
  intro split
  have inside : Piece.rest ∈ literal text := by
    rw [split]
    simp
  obtain ⟨d, impossible⟩ := mem_literal inside
  cases impossible

theorem Reads.eq_nil {cs : List Char} (reads : Reads cs []) : cs = [] := by
  cases reads
  rfl

theorem Reads.stops {cs : List Char} {pattern : Pattern} (reads : Reads cs pattern)
    (stops : Stops cs) : pattern = [] ∨ pattern.head? = some (.char '/') := by
  rcases stops with rfl | starts
  · cases reads
    exact .inl rfl
  · obtain ⟨later, rfl⟩ := List.head?_eq_some_iff.mp starts
    cases reads
    exact .inr rfl

theorem Reads.proper {cs : List Char} {pattern : Pattern} (reads : Reads cs pattern) :
    Proper pattern := by
  induction reads with
  | done => exact .done
  | char plain later ih => exact .char plain ih
  | segment named stops later ih => exact .segment (later.stops stops) ih
  | rest named => exact .rest

theorem reads_literal {text : List Char} (plain : ∀ c ∈ text, isMark c = false) :
    Reads text (literal text) := by
  induction text with
  | nil => exact .done
  | cons c text ih =>
      obtain ⟨first, others⟩ := List.forall_mem_cons.mp plain
      exact .char first (ih others)

theorem Reads.of_literal {cs text : List Char} (reads : Reads cs (literal text)) : cs = text := by
  induction text generalizing cs with
  | nil => exact reads.eq_nil
  | cons c text ih =>
      cases reads with
      | char plain later => rw [ih later]

theorem Proper.of_literal_append {label : List Char} {pattern : Pattern}
    (proper : Proper (literal label ++ pattern)) :
    (∀ c ∈ label, isMark c = false) ∧ Proper pattern := by
  induction label with
  | nil => exact ⟨fun c impossible => absurd impossible List.not_mem_nil, proper⟩
  | cons c label ih =>
      cases proper with
      | char plain later =>
          obtain ⟨others, proper⟩ := ih later
          exact ⟨List.forall_mem_cons.mpr ⟨plain, others⟩, proper⟩

/-! ### Paths that follow a pattern -/

inductive Matches : Pattern → List Char → Prop where
  | done : Matches [] []
  | char (c : Char) {cs : List Char} {pattern : Pattern} (later : Matches pattern cs) :
      Matches (.char c :: pattern) (c :: cs)
  | segment {cs : List Char} {pattern : Pattern}
      (later : Matches pattern (cs.dropWhile (· ≠ '/'))) : Matches (.segment :: pattern) cs
  | rest (cs : List Char) : Matches [.rest] cs

/-- The paths that follow a pattern and have a mark where a wildcard begins. -/
inductive Spells : Pattern → List Char → Prop where
  | done : Spells [] []
  | char {c : Char} {cs : List Char} {pattern : Pattern} (plain : isMark c = false)
      (later : Spells pattern cs) : Spells (.char c :: pattern) (c :: cs)
  | segment {mark : Char} {name cs : List Char} {pattern : Pattern} (marked : isMark mark = true)
      (inside : ∀ c ∈ name, c ≠ '/') (stops : Stops cs) (later : Spells pattern cs) :
      Spells (.segment :: pattern) (mark :: (name ++ cs))
  | rest {mark : Char} (marked : isMark mark = true) (cs : List Char) : Spells [.rest] (mark :: cs)

theorem Matches.literal_append (label : List Char) {pattern : Pattern} {cs : List Char}
    (followed : Matches pattern cs) : Matches (literal label ++ pattern) (label ++ cs) := by
  induction label with
  | nil => exact followed
  | cons c label ih => exact .char c ih

theorem Spells.literal {label : List Char} (plain : ∀ c ∈ label, isMark c = false) :
    Spells (literal label) label := by
  induction label with
  | nil => exact .done
  | cons c label ih =>
      obtain ⟨first, others⟩ := List.forall_mem_cons.mp plain
      exact .char first (ih others)

theorem Spells.of_literal_append {label : List Char} {pattern : Pattern} {path : List Char}
    (spells : Spells (Pattern.literal label ++ pattern) path) :
    ∃ cs, path = label ++ cs ∧ Spells pattern cs := by
  induction label generalizing path with
  | nil => exact ⟨path, rfl, spells⟩
  | cons c label ih =>
      cases spells with
      | char plain later =>
          obtain ⟨cs, rfl, spells⟩ := ih later
          exact ⟨cs, rfl, spells⟩

theorem Spells.of_literal {label path : List Char} (spells : Spells (Pattern.literal label) path) :
    path = label := by
  rw [← List.append_nil (Pattern.literal label)] at spells
  obtain ⟨cs, rfl, ended⟩ := spells.of_literal_append
  cases ended
  exact List.append_nil label

theorem Spells.ne_nil {pattern : Pattern} {path : List Char} (spells : Spells pattern path)
    (nonempty : pattern ≠ []) : path ≠ [] := by
  cases spells with
  | done => exact absurd rfl nonempty
  | _ => exact List.cons_ne_nil _ _

/-! ### Texts as requests -/

/-- A character behind which a request says nothing about its path. -/
def Cuts (c : Char) : Prop :=
  c = '?' ∨ c = '#'

instance : DecidablePred Cuts :=
  fun c => inferInstanceAs (Decidable (c = '?' ∨ c = '#'))

/-- What a request says about its path when its target is a text. -/
def cut (cs : List Char) : List Char :=
  (cs.takeWhile (· ≠ '#')).takeWhile (· ≠ '?')

/-- A text that is cut nowhere, or only in the name of its last wildcard. -/
def Uncut (cs : List Char) : Prop :=
  (∀ c ∈ cs, ¬Cuts c) ∨
    ∃ front mark name, cs = front ++ mark :: name ∧ isMark mark = true ∧ (∀ c ∈ name, c ≠ '/') ∧
      ∀ c ∈ front, ¬Cuts c

theorem cut_cons_of_cuts {c : Char} (cuts : Cuts c) (cs : List Char) : cut (c :: cs) = [] := by
  rcases cuts with rfl | rfl
  · rfl
  · rfl

theorem cut_cons {c : Char} (kept : ¬Cuts c) (cs : List Char) : cut (c :: cs) = c :: cut cs := by
  obtain ⟨notQuery, notFragment⟩ := not_or.mp kept
  unfold cut
  rw [List.takeWhile_cons_of_pos (by simpa using notFragment),
    List.takeWhile_cons_of_pos (by simpa using notQuery)]

theorem cut_append {front : List Char} (kept : ∀ c ∈ front, ¬Cuts c) (cs : List Char) :
    cut (front ++ cs) = front ++ cut cs := by
  induction front with
  | nil => rfl
  | cons c front ih =>
      obtain ⟨first, others⟩ := List.forall_mem_cons.mp kept
      rw [List.cons_append, cut_cons first, ih others]
      rfl

theorem cut_append_of_cuts {front : List Char} (cuts : ¬∀ c ∈ front, ¬Cuts c) (cs : List Char) :
    cut (front ++ cs) = cut front := by
  induction front with
  | nil => exact absurd (fun c impossible => absurd impossible List.not_mem_nil) cuts
  | cons c front ih =>
      rw [List.cons_append]
      by_cases first : Cuts c
      · rw [cut_cons_of_cuts first, cut_cons_of_cuts first]
      · rw [cut_cons first, cut_cons first, ih]
        intro others
        exact cuts (List.forall_mem_cons.mpr ⟨first, others⟩)

theorem cut_subset (cs : List Char) : cut cs ⊆ cs := by
  unfold cut
  exact fun c member => (List.takeWhile_prefix _).subset ((List.takeWhile_prefix _).subset member)

theorem not_cuts_of_isMark {c : Char} (marked : isMark c = true) : ¬Cuts c := by
  rintro (rfl | rfl)
  · cases marked
  · cases marked

theorem ne_slash_of_isMark {c : Char} (marked : isMark c = true) : c ≠ '/' := by
  rintro rfl
  cases marked

theorem stops_cut {cs : List Char} (stops : Stops cs) : Stops (cut cs) := by
  rcases stops with rfl | starts
  · exact .inl rfl
  · obtain ⟨later, rfl⟩ := List.head?_eq_some_iff.mp starts
    rw [cut_cons (by rintro (impossible | impossible) <;> cases impossible)]
    exact .inr rfl

theorem Uncut.cons {c : Char} {cs : List Char} (kept : ¬Cuts c) (uncut : Uncut cs) :
    Uncut (c :: cs) := by
  rcases uncut with whole | ⟨front, mark, name, rfl, marked, inside, whole⟩
  · exact .inl (List.forall_mem_cons.mpr ⟨kept, whole⟩)
  · exact .inr ⟨c :: front, mark, name, rfl, marked, inside, List.forall_mem_cons.mpr ⟨kept, whole⟩⟩

theorem Uncut.of_cons {c : Char} {cs : List Char} (plain : isMark c = false)
    (uncut : Uncut (c :: cs)) : ¬Cuts c ∧ Uncut cs := by
  rcases uncut with whole | ⟨front, mark, name, split, marked, inside, whole⟩
  · obtain ⟨first, others⟩ := List.forall_mem_cons.mp whole
    exact ⟨first, .inl others⟩
  · cases front with
    | nil =>
        cases split
        rw [plain] at marked
        cases marked
    | cons first front =>
        cases split
        obtain ⟨kept, whole⟩ := List.forall_mem_cons.mp whole
        exact ⟨kept, .inr ⟨front, mark, name, rfl, marked, inside, whole⟩⟩

theorem Uncut.append {front cs : List Char} (kept : ∀ c ∈ front, ¬Cuts c) (uncut : Uncut cs) :
    Uncut (front ++ cs) := by
  induction front with
  | nil => exact uncut
  | cons c front ih =>
      obtain ⟨first, others⟩ := List.forall_mem_cons.mp kept
      exact .cons first (ih others)

theorem Uncut.of_append {front cs : List Char} (plain : ∀ c ∈ front, isMark c = false)
    (uncut : Uncut (front ++ cs)) : (∀ c ∈ front, ¬Cuts c) ∧ Uncut cs := by
  induction front with
  | nil => exact ⟨fun c impossible => absurd impossible List.not_mem_nil, uncut⟩
  | cons c front ih =>
      obtain ⟨first, others⟩ := List.forall_mem_cons.mp plain
      obtain ⟨kept, uncut⟩ := Uncut.of_cons first uncut
      obtain ⟨keptAll, uncut⟩ := ih others uncut
      exact ⟨List.forall_mem_cons.mpr ⟨kept, keptAll⟩, uncut⟩

/-- Behind the mark of a wildcard a text is cut nowhere, or nothing but its name follows. -/
theorem Uncut.of_wildcard {mark : Char} {cs : List Char} (uncut : Uncut (mark :: cs)) :
    Uncut cs ∨ ∀ c ∈ cs, c ≠ '/' := by
  rcases uncut with whole | ⟨front, other, name, split, otherMarked, inside, whole⟩
  · exact .inl (.inl fun c member => whole c (List.mem_cons_of_mem _ member))
  · cases front with
    | nil =>
        cases split
        exact .inr inside
    | cons first front =>
        cases split
        exact .inl (.inr ⟨front, other, name, rfl, otherMarked, inside,
          (List.forall_mem_cons.mp whole).2⟩)

/-- A text that is cut nowhere but in its last name follows its pattern as a request does. -/
theorem Reads.spells_cut {cs : List Char} {pattern : Pattern} (reads : Reads cs pattern)
    (uncut : Uncut cs) : Spells pattern (cut cs) := by
  induction reads with
  | done => exact .done
  | char plain later ih =>
      obtain ⟨kept, uncut⟩ := Uncut.of_cons plain uncut
      rw [cut_cons kept]
      exact .char plain (ih uncut)
  | @segment name cs pattern named stops later ih =>
      rw [cut_cons (not_cuts_of_isMark rfl)]
      have behind (uncut : Uncut (name ++ cs)) :
          Spells (.segment :: pattern) (':' :: cut (name ++ cs)) := by
        obtain ⟨kept, uncut⟩ := Uncut.of_append named.plain uncut
        rw [cut_append kept]
        exact .segment rfl named.inside (stops_cut stops) (ih uncut)
      rcases Uncut.of_wildcard uncut with uncut | inside
      · exact behind uncut
      · have ended : cs = [] := by
          rcases stops with ended | starts
          · exact ended
          · obtain ⟨more, rfl⟩ := List.head?_eq_some_iff.mp starts
            exact absurd rfl (inside '/' (List.mem_append_right _ List.mem_cons_self))
        subst ended
        cases later
        rw [List.append_nil, ← List.append_nil (cut name)]
        exact .segment rfl (fun c member => named.inside c (cut_subset name member)) (.inl rfl) .done
  | rest named =>
      rw [cut_cons (not_cuts_of_isMark rfl)]
      exact .rest rfl _

/-- A text that follows its own pattern as a request is cut nowhere but in its last name. -/
theorem Reads.uncut_of_matches {cs : List Char} {pattern : Pattern} (reads : Reads cs pattern)
    (followed : Matches pattern (cut cs)) : Uncut cs := by
  induction reads with
  | done => exact .inl fun c impossible => absurd impossible List.not_mem_nil
  | @char c cs pattern plain later ih =>
      by_cases cuts : Cuts c
      · rw [cut_cons_of_cuts cuts] at followed
        cases followed
      · rw [cut_cons cuts] at followed
        cases followed with
        | char _ followed => exact .cons cuts (ih followed)
  | @segment name cs pattern named stops later ih =>
      rw [cut_cons (not_cuts_of_isMark rfl)] at followed
      cases followed with
      | segment followed =>
          rw [List.dropWhile_cons_of_pos (by decide)] at followed
          by_cases kept : ∀ c ∈ name, ¬Cuts c
          · rw [cut_append kept, dropWhile_segment named.inside (stops_cut stops)] at followed
            exact .cons (not_cuts_of_isMark rfl) (.append kept (ih followed))
          -- The request ends inside of the name, so the path has nothing left for another segment.
          · rw [cut_append_of_cuts kept] at followed
            have ended : (cut name).dropWhile (· ≠ '/') = [] :=
              List.dropWhile_eq_nil_iff.mpr fun c member =>
                decide_eq_true (named.inside c (cut_subset name member))
            rw [ended] at followed
            rcases later.stops stops with rfl | starts
            · rw [later.eq_nil, List.append_nil]
              exact .inr ⟨[], ':', name, rfl, rfl, named.inside, by simp⟩
            · obtain ⟨more, rfl⟩ := List.head?_eq_some_iff.mp starts
              cases followed
  | rest named => exact .inr ⟨[], '*', _, rfl, rfl, named.inside, by simp⟩

end PresenceGateway.Http.Pattern
