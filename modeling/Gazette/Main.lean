import Gazette.Application

/-!
# The program

Reads the settings from the environment and starts the application.  Every line of the input is
a request, a method and a target with a blank between them, and is answered with the status,
the headers and the body of the response.  The first argument is the moment that all stamps of
the run carry.
-/

set_option autoImplicit false

namespace Gazette.Main

/-- The environment variables of the settings. -/
def settingNames : List String :=
  ["SQLITE_PATH", "CACHE_ENABLED", "CACHE_PREFIX", "CACHE_TTL_SECONDS", "CACHE_MAX_ENTRIES",
    "REDIS_URL", "METRICS_NAMESPACE", "TAG_BATCH_SIZE"]

/-- The moment of a run that does not say. -/
def epoch : Instant where
  date := ⟨1970, 1, 1, by decide, by decide, by decide⟩
  time := ⟨0, 0, 0, 0, by decide, by decide, by decide, by decide⟩

/-- The moment that the arguments give. -/
def moment (arguments : List String) : Instant :=
  match arguments.head?.map Instant.readStrict with
  | some (.ok instant) => instant
  | _ => epoch

/-- The request that a line spells. -/
def request (line : String) : Request :=
  let words := line.trimAscii.toString.splitOn " "
  { method := words.headD "", target := (words.drop 1).headD "" }

/-- A response as lines. -/
def responseLines (response : Response) : List String :=
  [toString response.status] ++
    (response.contentType.map ("content-type: " ++ ·)).toList ++
    (response.allow.map ("allow: " ++ ·)).toList ++
    ["", (Utf8.text? response.body).getD ""]

/-- Answers the requests on the input one after the other. -/
partial def serve (application : Application) (site : Site) (input : IO.FS.Stream) : IO Unit := do
  let line ← input.getLine
  unless line.isEmpty do
    let (answer, after) := (application.respond (request line)).run.outcome site
    match answer with
    | .ok response => (responseLines response).forM IO.println
    | .error overflow => IO.println overflow.message
    serve application after input

end Gazette.Main

open Gazette in
/-- Starts the application and answers requests until the input ends. -/
def main (arguments : List String) : IO UInt32 := do
  let values ← Main.settingNames.mapM fun name => return (name, ← IO.getEnv name)
  let settings := Settings.ofEnvironment fun name =>
    ((values.lookup name).join).map Utf8.bytes
  let moment := Main.moment arguments
  match Application.start settings {} fun _ => moment with
  | .error error =>
    IO.println error.message
    return 1
  | .ok site =>
    Main.serve (Application.ofSettings settings 1) site (← IO.getStdin)
    return 0
