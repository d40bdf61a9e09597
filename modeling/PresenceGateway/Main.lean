import PresenceGateway.Application
import PresenceGateway.Config.Dotenv
/-!
The program.

It starts in the environment of its process, to which the file `.env` is added, and writes its log
to the standard output. Requests come in as lines of the standard input, each with a method, a
target and a body between blanks, and the end of the input stands for the interrupt. The device
table lives as long as the program.
-/
namespace PresenceGateway.Console

def names : List String := "RUST_LOG" :: Config.names

def traceId (bytes : List UInt8) : String :=
  String.join (bytes.map fun byte =>
    String.ofList [Nat.digitChar (byte.toNat / 16), Nat.digitChar (byte.toNat % 16)])

def arrival? (bytes : List UInt8) (line : String) : Option Arrival := do
  let (method, rest) := Text.cutChars ' ' (Text.trimChars line.toList)
  let (target, body) := Text.cutChars ' ' (rest.getD [])
  let request ← Http.Request.ofTarget? (String.ofList method) (String.ofList target)
    (Text.Utf8.encode (String.ofList (body.getD [])))
  return {
    request
    traceId := traceId bytes
    ingressTime := .zero false
    normalizerTime := .zero false }

def responseText : Option Http.Response → String
  | none => "closed"
  | some response =>
    match response.body with
    | .text text => toString response.status ++ " " ++ text
    | .events _ => toString response.status

def surroundings : Surroundings :=
  { files := fun _ => .nothing true
    listen := fun _ => none
    wire := { replies := [], sent := [] }
    now := .ofMicroseconds 0
    workerTask := 1 }

def readEnvironment : IO Environment := do
  let mut given := #[]
  for name in names do
    if let some value ← IO.getEnv name then given := given.push (name, value)
  let file ← try IO.FS.readFile ".env" catch _ => pure ""
  return Dotenv.load { values := given.toList } file

def writeLog (filter : Log.Filter) (format : Log.Format) (events : List Log.Event) : IO Unit := do
  for event in events do
    if filter.accepts event then IO.println (format.write event)

partial def serve (input : IO.FS.Stream) (write : List Log.Event → IO Unit)
    (application : Application) : IO Application := do
  let line ← input.getLine
  if line.isEmpty then return application
  let bytes ← IO.getRandomBytes 16
  match arrival? bytes.toList line with
  | none =>
    IO.println (responseText (some (.empty 400)))
    serve input write application
  | some arrival =>
    let (response, application, log) := application.request arrival
    write log
    IO.println (responseText response)
    serve input write application

def run : IO UInt32 := do
  let environment ← readEnvironment
  let (result, log) := Application.start environment surroundings
  let format := match Config.load environment with
    | .ok config => config.mode.logFormat
    | .error _ => .lines
  let write := writeLog environment.logFilter format
  write log
  match result with
  | .error cause =>
    IO.eprint (cause.report?.getD "")
    return cause.exitCode.toUInt32
  | .ok application =>
    let (application, log) := application.watch 0
    write log
    let application ← serve (← IO.getStdin) write application
    write application.stop
    return 0

end PresenceGateway.Console

def main : IO UInt32 := PresenceGateway.Console.run
