import PresenceGateway.Nas.Error
import PresenceGateway.Nas.Entry
import PresenceGateway.Json.Value
/-!
Programs that talk to NAS interfaces.

A program is a tree: it is done, or it makes a call and goes on according to the answer. Its meaning
is given by whatever answers the calls: `Program.run` answers them one after the other from a state,
and `Program.calls` records which calls are made. Nothing else can be done with an interface, so
what a program does to a NAS can be read off its tree.
-/
namespace PresenceGateway.Nas

inductive Call where
  | setup
  | networkMacs
  | fetch (domain : Domain)
  | setupSwitches
  | unload
deriving DecidableEq

namespace Call

abbrev Reply : Call → Type
  | setup => Unit
  | networkMacs => List String
  | fetch _ => Json.Value
  | setupSwitches => Unit
  | unload => Unit

def text : Call → String
  | setup => "setup"
  | networkMacs => "network_macs"
  | fetch domain => "fetch:" ++ domain.text
  | setupSwitches => "setup_switches"
  | unload => "unload"

def all : List Call :=
  [setup, networkMacs, fetch .central, fetch .cameras, fetch .switches, setupSwitches, unload]

end Call

inductive Program (Handle Result : Type) where
  | done (result : Result)
  | call (api : Handle) (what : Call) (next : Except NasError what.Reply → Program Handle Result)
  | available (api : Handle) (next : List String → Program Handle Result)

/-- Something that answers calls: how the state of the world changes with a call, what is answered,
and which interfaces a NAS offers. -/
structure Api (Handle World : Type) where
  call : Handle → (what : Call) → World → Except NasError what.Reply × World
  available : Handle → World → List String

namespace Program

variable {Handle World Result Next : Type}

def bind (program : Program Handle Result) (next : Result → Program Handle Next) :
    Program Handle Next :=
  match program with
  | done result => next result
  | call api what later => .call api what fun reply => (later reply).bind next
  | available api later => .available api fun names => (later names).bind next

def run (api : Api Handle World) : Program Handle Result → World → Result × World
  | done result, world => (result, world)
  | call handle what next, world =>
    let answer := api.call handle what world
    (next answer.1).run api answer.2
  | available handle next, world => (next (api.available handle world)).run api world

def calls (api : Api Handle World) : Program Handle Result → World → List (Handle × Call)
  | done _, _ => []
  | call handle what next, world =>
    let answer := api.call handle what world
    (handle, what) :: (next answer.1).calls api answer.2
  | available handle next, world => (next (api.available handle world)).calls api world

end Program

end PresenceGateway.Nas
