import PresenceGateway.Nas.Setup
/-!
The registry of entries that are set up, by their unique ids.

Removing a runtime closes its session, and the runtime is gone even when that fails. A reload closes
the old session before it opens a new one.
-/
namespace PresenceGateway.Nas

structure Registry (Handle : Type) where
  runtimes : List (String × Runtime Handle)

namespace Registry

variable {Handle : Type}

def empty : Registry Handle := ⟨[]⟩

def get? (registry : Registry Handle) (id : String) : Option (Runtime Handle) :=
  registry.runtimes.lookup id

def erase (registry : Registry Handle) (id : String) : Registry Handle :=
  ⟨registry.runtimes.filter fun bound => bound.1 ≠ id⟩

def insert (registry : Registry Handle) (id : String) (runtime : Runtime Handle) :
    Registry Handle :=
  ⟨(id, runtime) :: (registry.erase id).runtimes⟩

def size (registry : Registry Handle) : Nat :=
  registry.runtimes.length

def ids (registry : Registry Handle) : List String :=
  registry.runtimes.map (·.1)

/-- Removes the runtime of an id and closes its session. The answer says whether there was one. -/
def unload (registry : Registry Handle) (id : String) :
    Program Handle (Except NasError Bool × Registry Handle) :=
  match registry.get? id with
  | none => .done (.ok false, registry)
  | some runtime =>
    .call runtime.api .unload fun reply =>
      .done (reply.map fun _ => true, registry.erase id)

structure Reloaded (Handle : Type) where
  registry : Registry Handle
  entry : Entry
  result : Except SetupError Unit
  log : List Log.Event

def reloadLog (entry : Entry) : Except NasError Bool → List Log.Event
  | .ok _ => []
  | .error cause => [{
      level := .warn
      target := .entry
      message := "failed to close NAS session before reload"
      fields := [("unique_id", .shown entry.uniqueId), ("error", .shown cause.message)] }]

def reload (registry : Registry Handle) (entry : Entry) (api : Handle) :
    Program Handle (Reloaded Handle) :=
  (registry.unload entry.uniqueId).bind fun (unloaded, registry) =>
    (setupEntry entry api).bind fun (after, result) =>
      let log := reloadLog entry unloaded ++ entry.migrationLog
      match result with
      | .error cause => .done { registry, entry := after, result := .error cause, log }
      | .ok runtime =>
        .done {
          registry := registry.insert entry.uniqueId runtime
          entry := after, result := .ok (), log }

/-- Refreshes the coordinator of a domain. There is none without an entry or when the NAS does not
have the domain. -/
def withCoordinator (registry : Registry Handle) (id : String) (domain : Domain)
    (coordinator : Coordinator) : Registry Handle :=
  match registry.get? id with
  | none => registry
  | some runtime => registry.insert id (runtime.withCoordinator domain coordinator)

end Registry

end PresenceGateway.Nas
