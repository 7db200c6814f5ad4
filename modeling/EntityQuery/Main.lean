import EntityQuery.CommandLine.Run
import EntityQuery.Session.Id
import EntityQuery.Http.Message
import Std.Async.DNS
import Std.Async.TCP

/-!
# The program

The machine on which the program really runs: standard streams, the disk, and
connections to the service.
-/

namespace EntityQuery.Program

open Std

/-- The error of the file system behind an error of a file operation. -/
def fileError : IO.Error → FileError
  | .noFileOrDirectory _ code details => .other s!"{details} (os error {code})"
  | .permissionDenied _ code details => .other s!"{details} (os error {code})"
  | .inappropriateType _ code details => .other s!"{details} (os error {code})"
  | .resourceExhausted _ code details => .other s!"{details} (os error {code})"
  | .invalidArgument _ code details => .other s!"{details} (os error {code})"
  | .alreadyExists _ code details => .other s!"{details} (os error {code})"
  | .noSuchThing _ code details => .other s!"{details} (os error {code})"
  | .illegalOperation code details => .other s!"{details} (os error {code})"
  | e => .other (toString e)

/-- The result of an operation on the file at a path, or its error. -/
def attempt {α : Type} (path : String) (action : IO α) : IO (Except FileError α) := do
  if path.contains (Char.ofNat 0) then return .error .nulInName
  try
    return .ok (← action)
  catch e =>
    return .error (fileError e)

/-- The content of the file at a path. -/
def readFile (path : String) : IO (List UInt8) := do
  let handle ← IO.FS.Handle.mk path .read
  return (← handle.readBinToEnd).toList

/-- Whether a path names anything; what is there may be closed to the program. -/
def contains (path : String) : IO Bool := do
  try
    let _ ← IO.FS.Handle.mk path .read
    return true
  catch
    | .noFileOrDirectory .. => return false
    | .inappropriateType .. => return false
    | _ => return true

/-- One line of input without its end; none when the input is at its end. -/
partial def readLine (input : IO.FS.Stream) (line : List UInt8 := []) :
    IO (Option (List UInt8)) := do
  match (← input.read 1).toList with
  | [] => return if line.isEmpty then none else some line.reverse
  | b :: _ =>
    if b = 0x0A then return some (Text.dropReturn line.reverse) else readLine input (b :: line)

/-- Feeds the lines of input to a step until the state is final or the input ends. -/
partial def feed (input : IO.FS.Stream) {σ : Type} (isFinal : σ → Bool)
    (step : List UInt8 → σ → IO σ) (s : σ) : IO σ := do
  match ← readLine input with
  | none => return s
  | some line =>
    let s ← step line s
    if isFinal s then return s else feed input isFinal step s

/-- All bytes up to the end of a connection. -/
partial def receive (client : Async.TCP.Socket.Client) (received : List (List UInt8) := []) :
    Async.Async (List UInt8) := do
  match ← client.recv? 65536 with
  | none => return received.reverse.flatten
  | some bytes => receive client (bytes.toList :: received)

/-- The addresses of a host. -/
def addresses (host : String) (port : UInt16) : Async.Async (List Net.SocketAddress) := do
  let found ← Async.DNS.getAddrInfo host ""
  return found.toList.map fun
    | .v4 addr => .v4 { addr, port }
    | .v6 addr => .v6 { addr, port }

/-- Sends a message to the first of some addresses that takes it, and answers what comes back. -/
def converse (message : List UInt8) : List Net.SocketAddress → Async.Async (List UInt8)
  | [] => throw (IO.userError "no address")
  | [address] => send address
  | address :: others => do
    try send address
    catch _ => converse message others
where
  /-- One conversation. -/
  send (address : Net.SocketAddress) : Async.Async (List UInt8) := do
    let client ← Async.TCP.Socket.Client.mk
    client.connect address
    client.send (ByteArray.mk message.toArray)
    receive client

/-- Sends a request over a connection of its own. -/
def exchange (request : Http.Request) : IO (Except String Http.Reply) := do
  let url := request.url
  if url.scheme != "http" then
    return .error s!"error sending request for url ({url.text}): no secure connections"
  let some authority := url.authority
    | return .error s!"error sending request for url ({url.text})"
  try
    let bytes ← Async.Async.block do
      converse request.bytes (← addresses authority.host (authority.port.getD 80).toUInt16)
    return Http.Reply.ofBytes bytes
  catch e =>
    return .error s!"error sending request for url ({url.text}): {e}"

/-- The machine on which the program runs. -/
def host (minimum : IO.Ref Log.Severity) : Host IO where
  print line := do
    let output ← IO.getStdout
    output.putStr (line ++ "\n")
    output.flush
  printError line := IO.eprint (line ++ "\n")
  log entries := do
    let least ← minimum.get
    entries.forM fun e => IO.eprint (e.written least)
  setMinimum := minimum.set
  isDirectory path := if path.isEmpty then pure false else contains (path ++ "/.")
  contains := contains
  read path := attempt path (readFile path)
  write path content := attempt path (IO.FS.writeBinFile path (ByteArray.mk content.toArray))
  feed isFinal step s := do feed (← IO.getStdin) isFinal step s
  newId := do return Session.idOfBytes (← IO.getRandomBytes 16).toList
  exchange := exchange

end EntityQuery.Program

/-- Runs the program on the words of its command line. -/
def main (words : List String) : IO UInt32 := do
  let minimum ← IO.mkRef EntityQuery.Log.Severity.warn
  let arguments := EntityQuery.CommandLine.Arguments.ofWords words
  let status ← EntityQuery.CommandLine.runProgram (EntityQuery.Program.host minimum) arguments
  return status.toUInt32
