import PresenceGateway.Nas.Registry
import PresenceGateway.Proofs.Lookup
import PresenceGateway.Proofs.Nas.Setup
/-!
Whole runs of a registry: insertions, unloads and reloads of any ids in any order, whatever the NAS
answers.

A registry holds for each id the runtime that was bound to it last, unless the id was unloaded or
reloaded since. The unload calls of a run are those for the runtimes that were removed, one for each
and on its interface; a runtime that was replaced by an insertion or is still held costs none.
-/
namespace PresenceGateway.Nas

variable {Handle World Result Next : Type}

theorem Program.answers_bind (interface : Api Handle World) (program : Program Handle Result)
    (next : Result → Program Handle Next) (world : World) :
    (program.bind next).answers interface world = program.answers interface world ++
      (next (program.run interface world).1).answers interface (program.run interface world).2 := by
  induction program generalizing world with
  | done result => rfl
  | call api what later ih => exact congrArg (_ :: ·) (ih _ _)
  | available api later ih => exact ih _ _

theorem Program.calls_bind (interface : Api Handle World) (program : Program Handle Result)
    (next : Result → Program Handle Next) (world : World) :
    (program.bind next).calls interface world = program.calls interface world ++
      (next (program.run interface world).1).calls interface (program.run interface world).2 := by
  rw [calls_eq_answers, answers_bind, List.map_append, ← calls_eq_answers, ← calls_eq_answers]

/-- A setup makes its calls on its own interface, and never closes a session. -/
theorem setupEntry_calls (interface : Api Handle World) (entry : Entry) (api : Handle)
    (world : World) :
    ∀ call ∈ (setupEntry entry api).calls interface world, call.1 = api ∧ call.2 ≠ .unload := by
  intro call inside
  rw [Program.calls_eq_answers] at inside
  obtain ⟨answered, answers, rfl⟩ := List.mem_map.mp inside
  have follows := (Setup.setupEntry_goes interface entry api world).follows
  refine ⟨follows.onApi answered answers, fun unloads => ?_⟩
  have planned := follows.inOrder.subset (List.mem_map_of_mem answers)
  rw [show answered.what = .unload from unloads] at planned
  exact Setup.unload_not_mem_plan planned

def closingsOf (runtimes : List (Runtime Handle)) : List (Handle × Call) :=
  runtimes.map fun runtime => (runtime.api, .unload)

namespace Registry

/-! ### Ids and their runtimes -/

theorem get?_erase (registry : Registry Handle) (id other : String) :
    (registry.erase id).get? other = if other = id then none else registry.get? other :=
  lookup_filter_ne other id registry.runtimes

theorem get?_insert (registry : Registry Handle) (id other : String) (runtime : Runtime Handle) :
    (registry.insert id runtime).get? other =
      if other = id then some runtime else registry.get? other := by
  rw [insert, get?, lookup_cons_ite]
  by_cases same : other = id
  · rw [if_pos same, if_pos same]
  · have kept := registry.get?_erase id other
    rw [if_neg same, get?] at kept
    rw [if_neg same, if_neg same, kept]

/-- Only the runtime of the id has the coordinator, if there is one. -/
theorem get?_withCoordinator (registry : Registry Handle) (id other : String)
    (domain : Domain) (coordinator : Coordinator) :
    (registry.withCoordinator id domain coordinator).get? other =
      if other = id then (registry.get? id).map (·.withCoordinator domain coordinator)
      else registry.get? other := by
  unfold withCoordinator
  cases found : registry.get? id with
  | none =>
      by_cases same : other = id
      · rw [if_pos same, same, found]
        rfl
      · rw [if_neg same]
  | some runtime => exact registry.get?_insert id other _

theorem erase_of_absent {registry : Registry Handle} {id : String}
    (absent : registry.get? id = none) : registry.erase id = registry := by
  unfold erase
  congr
  rw [List.filter_eq_self]
  intro bound inside
  have different := ne_of_beq_false (Bool.not_eq_true'  _ ▸ List.lookup_eq_none_iff.mp absent bound inside)
  exact decide_eq_true different.symm

def held (registry : Registry Handle) : List (Runtime Handle) :=
  registry.runtimes.map (·.2)

/-- With one runtime for each id, erasing an id takes its runtime out and nothing else. -/
theorem held_perm {registry : Registry Handle} (distinct : registry.ids.Nodup) (id : String) :
    registry.held.Perm ((registry.get? id).toList ++ (registry.erase id).held) := by
  obtain ⟨runtimes⟩ := registry
  unfold held get? erase
  unfold ids at distinct
  induction runtimes with
  | nil => exact .nil
  | cons bound rest ih =>
      obtain ⟨key, runtime⟩ := bound
      obtain ⟨absent, distinct⟩ := List.nodup_cons.mp distinct
      by_cases here : id = key
      · subst here
        have kept : rest.filter (fun bound => decide (bound.1 ≠ id)) = rest := by
          rw [List.filter_eq_self]
          intro bound inside
          exact decide_eq_true fun same => absent (List.mem_map.mpr ⟨bound, inside, same⟩)
        rw [List.lookup_cons_self, List.filter_cons_of_neg (by simp), kept]
        exact .refl _
      · rw [lookup_cons_ite, if_neg here, List.filter_cons_of_pos (by simpa using Ne.symm here)]
        exact ((ih distinct).cons runtime).trans List.perm_middle.symm

theorem ids_erase_nodup {registry : Registry Handle} (distinct : registry.ids.Nodup)
    (id : String) : (registry.erase id).ids.Nodup :=
  distinct.sublist (List.filter_sublist.map _)

theorem ids_insert_nodup {registry : Registry Handle} (distinct : registry.ids.Nodup) (id : String)
    (runtime : Runtime Handle) : (registry.insert id runtime).ids.Nodup := by
  refine List.nodup_cons.mpr ⟨fun inside => ?_, ids_erase_nodup distinct id⟩
  obtain ⟨bound, kept, same⟩ := List.mem_map.mp inside
  exact of_decide_eq_true (List.mem_filter.mp kept).2 same

theorem ids_withCoordinator_nodup {registry : Registry Handle} (distinct : registry.ids.Nodup)
    (id : String) (domain : Domain) (coordinator : Coordinator) :
    (registry.withCoordinator id domain coordinator).ids.Nodup := by
  unfold withCoordinator
  cases registry.get? id with
  | none => exact distinct
  | some runtime => exact ids_insert_nodup distinct id _

def rebind (registry : Registry Handle) (id : String) : Option (Runtime Handle) → Registry Handle
  | none => registry.erase id
  | some runtime => registry.insert id runtime

theorem get?_rebind (registry : Registry Handle) (id other : String)
    (bound : Option (Runtime Handle)) :
    (registry.rebind id bound).get? other = if other = id then bound else registry.get? other := by
  cases bound with
  | none => exact registry.get?_erase id other
  | some runtime => exact registry.get?_insert id other runtime

theorem ids_rebind_nodup {registry : Registry Handle} (distinct : registry.ids.Nodup) (id : String)
    (bound : Option (Runtime Handle)) : (registry.rebind id bound).ids.Nodup := by
  cases bound with
  | none => exact ids_erase_nodup distinct id
  | some runtime => exact ids_insert_nodup distinct id runtime

/-- Binding an id takes in what it is bound to and gives out what it was bound to. -/
theorem held_rebind_perm {registry : Registry Handle} (distinct : registry.ids.Nodup) (id : String)
    (bound : Option (Runtime Handle)) :
    (bound.toList ++ registry.held).Perm
      ((registry.get? id).toList ++ (registry.rebind id bound).held) := by
  cases bound with
  | none => exact held_perm distinct id
  | some runtime =>
      exact ((held_perm distinct id).cons runtime).trans List.perm_middle.symm

theorem insert_erase (registry : Registry Handle) (id : String) (runtime : Runtime Handle) :
    (registry.erase id).insert id runtime = registry.insert id runtime := by
  have absent : (registry.erase id).get? id = none := by
    rw [get?_erase, if_pos rfl]
  unfold insert
  rw [erase_of_absent absent]

/-! ### Closing and opening sessions -/

def closings (registry : Registry Handle) (id : String) : List (Handle × Call) :=
  closingsOf (registry.get? id).toList

def closing (registry : Registry Handle) (interface : Api Handle World) (id : String)
    (world : World) : Except NasError Bool × World :=
  match registry.get? id with
  | none => (.ok false, world)
  | some runtime =>
    let closed := interface.call runtime.api .unload world
    (closed.1.map fun _ => true, closed.2)

variable (registry : Registry Handle) (interface : Api Handle World)

theorem unload_run (id : String) (world : World) :
    (registry.unload id).run interface world =
      (((registry.closing interface id world).1, registry.erase id),
        (registry.closing interface id world).2) := by
  unfold unload closing
  cases found : registry.get? id with
  | none => rw [erase_of_absent found]; rfl
  | some runtime => rfl

theorem unload_calls (id : String) (world : World) :
    (registry.unload id).calls interface world = registry.closings id := by
  unfold unload closings
  cases registry.get? id with
  | none => rfl
  | some runtime => rfl

theorem unload_answers (id : String) (world : World) :
    ∀ answered ∈ (registry.unload id).answers interface world, answered.what = .unload := by
  unfold unload
  intro answered made
  cases found : registry.get? id with
  | none =>
      rw [found] at made
      cases made
  | some runtime =>
      rw [found] at made
      rw [List.mem_singleton.mp made]

def reopening (entry : Entry) (api : Handle) (world : World) : SetupResult Handle × World :=
  (setupEntry entry api).run interface (registry.closing interface entry.uniqueId world).2

theorem reload_answers (entry : Entry) (api : Handle) (world : World) :
    (registry.reload entry api).answers interface world =
      (registry.unload entry.uniqueId).answers interface world ++
        (setupEntry entry api).answers interface
          (registry.closing interface entry.uniqueId world).2 := by
  unfold reload
  rw [Program.answers_bind, Program.answers_bind, unload_run]
  dsimp only
  split
  · rw [Program.answers, List.append_nil]
  · rw [Program.answers, List.append_nil]

theorem reload_calls (entry : Entry) (api : Handle) (world : World) :
    (registry.reload entry api).calls interface world = registry.closings entry.uniqueId ++
      (setupEntry entry api).calls interface
        (registry.closing interface entry.uniqueId world).2 := by
  rw [Program.calls_eq_answers, reload_answers, List.map_append, ← Program.calls_eq_answers,
    ← Program.calls_eq_answers, unload_calls]

theorem reload_run (entry : Entry) (api : Handle) (world : World) :
    let opened := registry.reopening interface entry api world
    (registry.reload entry api).run interface world = ({
      registry := registry.rebind entry.uniqueId opened.1.2.toOption
      entry := opened.1.1
      result := opened.1.2.map fun _ => ()
      log := reloadLog entry (registry.closing interface entry.uniqueId world).1
        ++ entry.migrationLog }, opened.2) := by
  intro opened
  have opens : opened = (setupEntry entry api).run interface
    (registry.closing interface entry.uniqueId world).2 := rfl
  rw [reload, Program.run_bind, Program.run_bind, unload_run]
  dsimp only
  rw [← opens]
  cases opened.1.2 with
  | error cause => rfl
  | ok runtime =>
      dsimp only [Except.toOption, rebind]
      rw [insert_erase]
      rfl

end Registry

/-! ### Operations -/

inductive Operation (Handle : Type) where
  | insert (id : String) (runtime : Runtime Handle)
  | unload (id : String)
  | reload (entry : Entry) (api : Handle)

structure Situation (Handle World : Type) where
  registry : Registry Handle
  world : World

namespace Operation

def id : Operation Handle → String
  | insert id _ => id
  | unload id => id
  | reload entry _ => entry.uniqueId

def program (registry : Registry Handle) : Operation Handle → Program Handle (Registry Handle)
  | insert id runtime => .done (registry.insert id runtime)
  | unload id => (registry.unload id).bind fun outcome => .done outcome.2
  | reload entry api => (registry.reload entry api).bind fun outcome => .done outcome.registry

variable (interface : Api Handle World)

def perform (operation : Operation Handle) (s : Situation Handle World) :
    Situation Handle World :=
  let outcome := (operation.program s.registry).run interface s.world
  { registry := outcome.1, world := outcome.2 }

def calls (operation : Operation Handle) (s : Situation Handle World) : List (Handle × Call) :=
  (operation.program s.registry).calls interface s.world

/-- The runtime that an operation binds to its id: the one inserted, or that of a successful
reload. -/
def bound? (operation : Operation Handle) (s : Situation Handle World) :
    Option (Runtime Handle) :=
  match operation with
  | insert _ runtime => some runtime
  | unload _ => none
  | reload entry api => (s.registry.reopening interface entry api s.world).1.2.toOption

def removed? (operation : Operation Handle) (s : Situation Handle World) :
    Option (Runtime Handle) :=
  match operation with
  | insert _ _ => none
  | unload id => s.registry.get? id
  | reload entry _ => s.registry.get? entry.uniqueId

def replaced? (operation : Operation Handle) (s : Situation Handle World) :
    Option (Runtime Handle) :=
  match operation with
  | insert id _ => s.registry.get? id
  | _ => none

theorem perform_registry (operation : Operation Handle) (s : Situation Handle World) :
    (operation.perform interface s).registry =
      s.registry.rebind operation.id (operation.bound? interface s) := by
  unfold perform
  cases operation with
  | insert id runtime => rfl
  | unload id =>
      rw [program, Program.run_bind, Registry.unload_run]
      rfl
  | reload entry api =>
      rw [program, Program.run_bind, Registry.reload_run]
      rfl

theorem calls_unload (id : String) (s : Situation Handle World) :
    (unload id).calls interface s = s.registry.closings id := by
  rw [calls, program, Program.calls_bind, Registry.unload_calls, Program.calls, List.append_nil]

theorem calls_reload (entry : Entry) (api : Handle) (s : Situation Handle World) :
    (reload entry api).calls interface s = s.registry.closings entry.uniqueId ++
      (setupEntry entry api).calls interface
        (s.registry.closing interface entry.uniqueId s.world).2 := by
  rw [calls, program, Program.calls_bind, Registry.reload_calls, Program.calls, List.append_nil]

/-- The unload calls of an operation are those for what it removes. -/
theorem unloads_eq (operation : Operation Handle) (s : Situation Handle World) :
    (operation.calls interface s).filter (fun call => call.2 = .unload) =
      closingsOf (operation.removed? s).toList := by
  have closing (id : String) :
      (s.registry.closings id).filter (fun call => call.2 = .unload) = s.registry.closings id := by
    rw [List.filter_eq_self]
    intro call inside
    obtain ⟨runtime, _, rfl⟩ := List.mem_map.mp inside
    rfl
  cases operation with
  | insert id runtime => rfl
  | unload id =>
      rw [calls_unload, closing]
      rfl
  | reload entry api =>
      rw [calls_reload, List.filter_append, closing, List.filter_eq_nil_iff.mpr, List.append_nil]
      · rfl
      · intro call inside
        simpa using (setupEntry_calls interface entry api _ call inside).2

theorem fate_of_bound (operation : Operation Handle) (s : Situation Handle World) :
    (s.registry.get? operation.id).toList =
      (operation.replaced? s).toList ++ (operation.removed? s).toList := by
  cases operation with
  | insert id runtime => exact (List.append_nil _).symm
  | unload id => rfl
  | reload entry api => rfl

end Operation

/-! ### Runs -/

namespace Situation

variable (interface : Api Handle World)

def after (s : Situation Handle World) (operations : List (Operation Handle)) :
    Situation Handle World :=
  operations.foldl (fun s operation => operation.perform interface s) s

/-- What each of some operations adds in the situation it finds, one after the other. -/
def along {Item : Type} (part : Operation Handle → Situation Handle World → List Item) :
    Situation Handle World → List (Operation Handle) → List Item
  | _, [] => []
  | s, operation :: rest => part operation s ++ along part (operation.perform interface s) rest

/-- The last of some operations about an id bound it to this runtime. -/
def LastBound (s : Situation Handle World) (operations : List (Operation Handle)) (id : String)
    (runtime : Runtime Handle) : Prop :=
  ∃ before operation later, operations = before ++ operation :: later ∧ operation.id = id ∧
    operation.bound? interface (s.after interface before) = some runtime ∧
    ∀ other ∈ later, other.id ≠ id

variable {interface} {s : Situation Handle World} {operation : Operation Handle}
variable {rest : List (Operation Handle)} {id : String} {runtime : Runtime Handle}

theorem not_lastBound_nil : ¬ s.LastBound interface [] id runtime := by
  rintro ⟨before, operation, later, split, _⟩
  exact absurd split.symm (List.append_ne_nil_of_right_ne_nil _ (List.cons_ne_nil _ _))

theorem lastBound_cons :
    s.LastBound interface (operation :: rest) id runtime ↔
      (operation.perform interface s).LastBound interface rest id runtime ∨
        (operation.id = id ∧ operation.bound? interface s = some runtime ∧
          ∀ other ∈ rest, other.id ≠ id) := by
  constructor
  · rintro ⟨before, next, later, split, about, bound, silent⟩
    cases before with
    | nil =>
        cases split
        exact .inr ⟨about, bound, silent⟩
    | cons first before =>
        cases split
        exact .inl ⟨before, next, later, rfl, about, bound, silent⟩
  · rintro (⟨before, next, later, rfl, about, bound, silent⟩ | ⟨about, bound, silent⟩)
    · exact ⟨operation :: before, next, later, rfl, about, bound, silent⟩
    · exact ⟨[], operation, rest, rfl, about, bound, silent⟩

/-- A registry holds for an id what was bound to it last, or what it held at first if no operation
was about the id. -/
theorem get?_after (interface : Api Handle World) (s : Situation Handle World)
    (operations : List (Operation Handle)) (id : String) (runtime : Runtime Handle) :
    (s.after interface operations).registry.get? id = some runtime ↔
      s.LastBound interface operations id runtime ∨
        (s.registry.get? id = some runtime ∧ ∀ operation ∈ operations, operation.id ≠ id) := by
  induction operations generalizing s with
  | nil =>
      constructor
      · intro found
        exact .inr ⟨found, fun _ inside => absurd inside List.not_mem_nil⟩
      · exact fun history => (history.resolve_left not_lastBound_nil).1
  | cons operation rest ih =>
      refine (ih (operation.perform interface s)).trans ?_
      rw [lastBound_cons, Operation.perform_registry, Registry.get?_rebind, or_assoc,
        List.forall_mem_cons]
      apply or_congr_right
      by_cases about : id = operation.id
      · subst about
        rw [if_pos rfl]
        constructor
        · exact fun bound => .inl ⟨rfl, bound⟩
        · rintro (bound | impossible)
          · exact bound.2
          · exact absurd rfl impossible.2.1
      · rw [if_neg about]
        constructor
        · exact fun kept => .inr ⟨kept.1, Ne.symm about, kept.2⟩
        · rintro (impossible | kept)
          · exact absurd impossible.1.symm about
          · exact ⟨kept.1, kept.2.2⟩

/-- The unload calls of a run are those for the runtimes that it removes, in order. -/
theorem unloads_along (interface : Api Handle World) (s : Situation Handle World)
    (operations : List (Operation Handle)) :
    (s.along interface (Operation.calls interface) operations).filter
        (fun call => call.2 = .unload) =
      closingsOf (s.along interface (fun operation s => (operation.removed? s).toList)
        operations) := by
  induction operations generalizing s with
  | nil => rfl
  | cons operation rest ih =>
      rw [along, along, List.filter_append, Operation.unloads_eq, ih, closingsOf, closingsOf,
        closingsOf, List.map_append]

/-- What a run binds is replaced by it, removed by it or held after it, each runtime once. -/
theorem fates_along (interface : Api Handle World) (s : Situation Handle World)
    (distinct : s.registry.ids.Nodup) (operations : List (Operation Handle)) :
    (s.along interface (fun operation s => (operation.bound? interface s).toList) operations ++
        s.registry.held).Perm
      (s.along interface (fun operation s => (operation.replaced? s).toList) operations ++
        s.along interface (fun operation s => (operation.removed? s).toList) operations ++
        (s.after interface operations).registry.held) := by
  induction operations generalizing s with
  | nil => exact .refl _
  | cons operation rest ih =>
      -- What the operation binds comes in, and what its id was bound to is replaced or removed.
      have step := Registry.held_rebind_perm distinct operation.id (operation.bound? interface s)
      rw [Operation.fate_of_bound, ← Operation.perform_registry] at step
      have later := ih (operation.perform interface s) (by
        rw [Operation.perform_registry]
        exact Registry.ids_rebind_nodup distinct _ _)
      rw [along, along, along, List.append_assoc]
      refine (List.perm_append_comm_assoc ..).trans ?_
      refine ((step.append_left _).trans (List.perm_append_comm_assoc ..)).trans ?_
      refine (later.append_left _).trans ?_
      rw [List.append_assoc, List.append_assoc, List.append_assoc, List.append_assoc,
        List.append_assoc]
      exact (List.perm_append_comm_assoc ..).append_left _

end Situation

/-- What one operation does. It binds its own id and leaves all others alone. An unload makes one
call when there is something to unload and none otherwise, and passes on a failure. A reload makes
that call before any call of the setup, and ends as the setup does, whatever the call was
answered. -/
structure Operation.Performs (interface : Api Handle World) (operation : Operation Handle)
    (s : Situation Handle World) : Prop where
  bound : (operation.perform interface s).registry.get? operation.id =
    operation.bound? interface s
  others : ∀ id, id ≠ operation.id →
    (operation.perform interface s).registry.get? id = s.registry.get? id
  insert : ∀ id runtime, operation = .insert id runtime → operation.calls interface s = []
  unloadUnknown : ∀ id, operation = .unload id → s.registry.get? id = none →
    operation.calls interface s = [] ∧ operation.perform interface s = s ∧
      ((s.registry.unload id).run interface s.world).1.1 = .ok false
  unloadKnown : ∀ id runtime, operation = .unload id → s.registry.get? id = some runtime →
    operation.calls interface s = [(runtime.api, .unload)] ∧
      ((s.registry.unload id).run interface s.world).1.1 =
        (interface.call runtime.api .unload s.world).1.map fun _ => true
  reload : ∀ entry api, operation = .reload entry api →
    let closed := (s.registry.closing interface entry.uniqueId s.world).2
    let opened := (setupEntry entry api).run interface closed
    operation.calls interface s = closingsOf (s.registry.get? entry.uniqueId).toList ++
        (setupEntry entry api).calls interface closed ∧
      (∀ call ∈ (setupEntry entry api).calls interface closed,
        call.1 = api ∧ call.2 ≠ .unload) ∧
      ((s.registry.reload entry api).run interface s.world).1.result =
        opened.1.2.map (fun _ => ()) ∧
      ∀ runtime, (operation.perform interface s).registry.get? entry.uniqueId = some runtime ↔
        opened.1.2 = .ok runtime

theorem Operation.performs (interface : Api Handle World) (operation : Operation Handle)
    (s : Situation Handle World) : operation.Performs interface s := by
  have bound : (operation.perform interface s).registry.get? operation.id =
      operation.bound? interface s := by
    rw [perform_registry, Registry.get?_rebind, if_pos rfl]
  refine ⟨bound, fun id other => ?_, ?_, ?_, ?_, ?_⟩
  · rw [perform_registry, Registry.get?_rebind, if_neg other]
  · rintro id runtime rfl
    rfl
  · rintro id rfl unknown
    refine ⟨?_, ?_, ?_⟩
    · rw [calls_unload, Registry.closings, unknown]
      rfl
    · unfold perform
      rw [program, Program.run_bind, Registry.unload_run, Registry.closing, unknown]
      dsimp only [Program.run]
      rw [Registry.erase_of_absent unknown]
    · rw [Registry.unload_run, Registry.closing, unknown]
  · rintro id runtime rfl known
    refine ⟨?_, ?_⟩
    · rw [calls_unload, Registry.closings, known]
      rfl
    · rw [Registry.unload_run, Registry.closing, known]
  · rintro entry api rfl
    refine ⟨calls_reload interface entry api s, setupEntry_calls interface entry api _, ?_,
      fun runtime => ?_⟩
    · rw [Registry.reload_run]
      rfl
    · change (perform interface (reload entry api) s).registry.get? (reload entry api).id = _ ↔ _
      rw [bound, bound?, Registry.reopening]
      cases ((setupEntry entry api).run interface _).1.2 with
      | error cause => simp [Except.toOption]
      | ok opened => simp [Except.toOption]

/-- What holds of a registry after some operations. It holds for each id what was bound to it last;
each runtime that was bound was replaced, removed or is still held; the unload calls were those for the
removed ones; and the next operation, whichever it is, does what it should. -/
structure Situation.Accounted (interface : Api Handle World) (world : World)
    (operations : List (Operation Handle)) : Prop where
  holds : ∀ id runtime,
    (after interface ⟨.empty, world⟩ operations).registry.get? id = some runtime ↔
      LastBound interface ⟨.empty, world⟩ operations id runtime
  fates :
    (along interface (fun operation s => (operation.bound? interface s).toList) ⟨.empty, world⟩
      operations).Perm
    (along interface (fun operation s => (operation.replaced? s).toList) ⟨.empty, world⟩
        operations ++
      along interface (fun operation s => (operation.removed? s).toList) ⟨.empty, world⟩
        operations ++
      (after interface ⟨.empty, world⟩ operations).registry.held)
  unloads :
    (along interface (Operation.calls interface) ⟨.empty, world⟩ operations).filter
        (fun call => call.2 = .unload) =
      closingsOf (along interface (fun operation s => (operation.removed? s).toList)
        ⟨.empty, world⟩ operations)
  next : ∀ operation : Operation Handle,
    operation.Performs interface (after interface ⟨.empty, world⟩ operations)

/-- Whatever is inserted, unloaded and reloaded, and whatever the NAS answers, the registry holds what
was bound last, and each runtime that was unloaded or reloaded is unloaded by one call. -/
theorem registry_accounts_for_runtimes (interface : Api Handle World) (world : World)
    (operations : List (Operation Handle)) :
    Situation.Accounted interface world operations := by
  refine ⟨fun id runtime => ?_, ?_, Situation.unloads_along interface _ operations,
    fun operation => operation.performs interface _⟩
  · refine (Situation.get?_after interface _ operations id runtime).trans (or_iff_left ?_)
    rintro ⟨impossible, _⟩
    cases impossible
  · have fates := Situation.fates_along interface ⟨.empty, world⟩ List.nodup_nil operations
    rwa [show Registry.held .empty = ([] : List (Runtime Handle)) from rfl, List.append_nil] at fates

end PresenceGateway.Nas
