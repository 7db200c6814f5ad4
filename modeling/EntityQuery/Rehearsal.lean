import EntityQuery.Host

/-!
# Rehearsals

A machine in memory with a service that answers from a script, on which the
shell and the commands run without the world outside.

## Main Definitions

* `Rehearsal`: the machine and what is left of the script.
* `Rehearsal.service`: the service that answers from the script.
* `Rehearsal.host`: the machine as a host.
* `feedLines`: how lines are fed to a step.

## Design Notes

Everything that a run does outside the session is a value of the state: what it
printed and logged, the calls that it made, and the files that it left.
-/

namespace EntityQuery

/-- A call that a session made of its service. -/
inductive Call where
  | answer (request : PageRequest)
  | file (handle : ExportHandle)

/-- A file that the script holds; without a name it has that of the handle. -/
structure ScriptedFile where
  name : Option String
  bytes : List UInt8
  contentType : Option String

/-- A scripted file under the handle for which it is asked. -/
def ScriptedFile.under (handle : ExportHandle) (f : ScriptedFile) : ExportedFile :=
  { name := f.name.getD handle.fileName, bytes := f.bytes, contentType := f.contentType }

/-- A machine in memory, and what is left of the script of its service. -/
structure Rehearsal where
  /-- The name that every new session gets. -/
  sessionId : String
  minimum : Log.Severity := .warn
  /-- The lines of input. -/
  input : List (List UInt8) := []
  files : FileTree
  /-- The outcomes of the requests to come. -/
  outcomes : List Outcome := []
  /-- The files to come. -/
  exportedFiles : List (Except ServiceError ScriptedFile) := []
  /-- Where the service listens: host and port, if it is reached over HTTP. -/
  address : Option String := none
  /-- The replies to the HTTP requests to come. -/
  replies : List (Except String Http.Reply) := []
  output : String := ""
  errorOutput : String := ""
  /-- The calls made, in order. -/
  calls : List Call := []
  /-- The HTTP requests made, in order. -/
  requests : List Http.Request := []

/-- Feeds lines to a step until the state is final or no line is left. -/
def feedLines {m : Type → Type} [Monad m] {σ : Type} (isFinal : σ → Bool)
    (step : List UInt8 → σ → m σ) : List (List UInt8) → σ → m σ
  | [], s => pure s
  | line :: lines, s => do
    let s ← step line s
    if isFinal s then pure s else feedLines isFinal step lines s

namespace Rehearsal

/-- The first of a list of answers, with the rest; without one, the given answer. -/
def next {α : Type} (last : α) : List α → α × List α
  | [] => (last, [])
  | a :: rest => (a, rest)

/-- The failure of a call beyond the end of the script. -/
def exhausted : ServiceError :=
  .network "script exhausted"

/-- The service that answers from the script. -/
def service : Service (StateM Rehearsal) where
  answer request := fun r =>
    let (outcome, outcomes) := next (.error exhausted) r.outcomes
    (outcome, { r with outcomes, calls := r.calls ++ [.answer request] })
  file handle := fun r =>
    let (found, exportedFiles) := next (.error exhausted) r.exportedFiles
    (found.map (·.under handle), { r with exportedFiles, calls := r.calls ++ [.file handle] })

/-- The reply to a request beyond the end of the script. -/
def emptyReply : Http.Reply :=
  { status := 500, headers := [], body := .ok [] }

/-- Whether the service listens where a request is sent. -/
def serves (request : Http.Request) (r : Rehearsal) : Bool :=
  match r.address, request.url.authority with
  | some address, some a => address == a.place
  | _, _ => false

/-- Answers a request from the script; nothing else can be reached. -/
def exchange (request : Http.Request) : StateM Rehearsal (Except String Http.Reply) := fun r =>
  if r.serves request then
    let (reply, replies) := next (.ok emptyReply) r.replies
    (reply, { r with replies, requests := r.requests ++ [request] })
  else (.error "connection refused", r)

/-- The machine as a host. -/
def host : Host (StateM Rehearsal) where
  print line := modify fun r => { r with output := r.output ++ line ++ "\n" }
  printError line := modify fun r => { r with errorOutput := r.errorOutput ++ line ++ "\n" }
  log entries := modify fun r =>
    { r with
      errorOutput := entries.foldl (fun text e => text ++ e.written r.minimum) r.errorOutput }
  setMinimum minimum := modify fun r => { r with minimum }
  isDirectory path := return (← get).files.isDirectory path
  contains path := return (← get).files.contains path
  read path := return (← get).files.read path
  write path content := fun r =>
    match r.files.write path content with
    | .ok files => (.ok (), { r with files })
    | .error e => (.error e, r)
  feed isFinal step s := do feedLines isFinal step (← get).input s
  newId := return (← get).sessionId
  exchange := exchange

end Rehearsal

end EntityQuery
