import Grounded.Cli.Footprint
import Grounded.Cli.Usage
import Grounded.Web.Wire
import Std.Async.DNS
import Std.Async.TCP
import Std.Async.Timer
import Std.Time.DateTime.Timestamp

/-!
# The program

Reads what a command looks at, runs the command, prints its report and writes what it has stored. Requests
are sent over connections that are not encrypted; to a server that demands encryption there is no way.
-/

namespace Grounded.Program

open Cli Std.Async

/-! ## Reading files -/

/-- The entry of the file system at a path. -/
def entry (path : String) : IO.FS.DirEntry := ⟨".", path⟩

/-- The file system with the directory at a path. -/
def withDir (d : Disk) (path : String) : Disk := (d.createDirs path).toOption.getD d

/-- The file system with the file at a path. -/
def withFile (d : Disk) (path : String) (content : ByteArray) : Disk :=
  let parent := "/".intercalate (path.splitOn "/").dropLast
  let d := withDir d (if path.startsWith "/" && parent.isEmpty then "/" else parent)
  (d.write path content).toOption.getD d

/-- Adds what is at a path: a file with its content, or a directory. -/
def gatherFile (d : Disk) (path : String) : IO Disk := do
  let place := (entry path).path
  if ← place.isDir then return withDir d path
  else if ← place.pathExists then return withFile d path (← IO.FS.readBinFile place)
  else return d

/-- Adds what is at a path and everything below it. -/
partial def gatherTree (d : Disk) (path : String) : IO Disk := do
  let place := (entry path).path
  if ← place.isDir then
    let mut d := withDir d path
    for child in ← place.readDir do
      d ← gatherTree d (Path.join path child.fileName)
    return d
  else gatherFile d path

/-- Adds what a command looks at. -/
def gather (d : Disk) (f : Footprint) : IO Disk := do
  let d ← f.files.foldlM gatherFile d
  f.trees.foldlM gatherTree d

/-! ## Asking servers -/

/-- What arrives on a connection before it is closed. -/
partial def receive (c : TCP.Socket.Client) (before : ByteArray) : Async ByteArray := do
  match ← c.recv? 0x10000 with
  | some more => receive c (before ++ more)
  | none => return before

/-- The exchange with the server at a numeric address. -/
def exchange (message : ByteArray) (place : Std.Net.IPAddr) (service : UInt16) :
    Async (Option HttpResponse) := do
  let c ← TCP.Socket.Client.mk
  c.connect (match place with | .v4 a => .v4 ⟨a, service⟩ | .v6 a => .v6 ⟨a, service⟩)
  c.send message
  return HttpResponse.ofWire? (← receive c .empty).toList

/-- The exchange with the first server of several that can be reached. -/
def exchangeAny (message : ByteArray) (service : UInt16) :
    List Std.Net.IPAddr → Async (Option HttpResponse)
  | [] => return none
  | [place] => exchange message place service
  | place :: places => do
    try exchange message place service
    catch _ => exchangeAny message service places

/-- The answer to a request; there is none if the connection has to be encrypted. -/
def answer (request : HttpRequest) : Async (Option HttpResponse) := do
  match Url.parse? .ascii request.url.toList with
  | some url =>
    if url.scheme = "http".toList then
      let places ← DNS.getAddrInfo (String.ofList url.authority.host.name) ""
      exchangeAny (request.toWire url).toUTF8 url.service.toUInt16 places.toList
    else return none
  | none => return none

/-- The longest time that a clock can wait for, as a number of its units. -/
def longestWait : Nat := 0xFFFFFFFF

/-- Nothing, after the time that an answer may take. -/
def expire (request : HttpRequest) : Async (Option HttpResponse) := do
  sleep (.ofNat (min (1000 * request.timeoutSecs) longestWait))
  return none

/-- The transport over connections of this machine. -/
def transport : Transport IO := fun request => do
  let found ← try Async.block (Async.race (answer request) (expire request)) catch _ => pure none
  return found.elim (.error (Transport.unsent request)) .ok

/-! ## Running -/

/-- The services of the machine. -/
def services : Services IO where
  transport := transport
  pause millis := IO.sleep (min millis longestWait).toUInt32
  now := do
    let t ← Std.Time.Timestamp.now
    let nanos := t.toNanosecondsSinceUnixEpoch.val
    return ⟨nanos / 1000000000, (nanos % 1000000000).toNat⟩

/-- Prints a report. -/
def display (r : Report) : IO Unit := do
  IO.print r.out
  (← IO.getStdout).flush
  IO.eprint r.err

/-- The variables of the process that matter. -/
def environment (names : List String) : IO Environment := do
  let found ← names.filterMapM fun name => do return (← IO.getEnv name).map (name, ·)
  return ⟨found⟩

/-- Writes a file of the result. -/
def store (d : Disk) (path : String) : IO Unit := do
  match d.read path with
  | .ok content => do
    let place := (entry path).path
    if let some parent := place.parent then IO.FS.createDirAll parent
    IO.FS.writeBinFile place content
  | .error _ => return

/-- A session with the user, up to the end of the input. -/
partial def converse (e : Engine IO) (history : List ChatMessage) : IO Unit := do
  display sessionPrompt
  let line ← (← IO.getStdin).getLine
  if line.isEmpty then return
  let (reaction, history) ← Session.step e.answer history line
  display (reactionReport reaction)
  if reaction ≠ .left then converse e history

/-- Runs a session. -/
def chat (w : World IO) (s : Settings) : IO Nat := do
  match engine w s with
  | .error e =>
    display (Report.failure e)
    return 1
  | .ok e =>
    display (sessionOpening s e)
    converse e []
    return 0

/-- Runs an invocation and gives its exit code. -/
def run (i : Invocation) : IO Nat := do
  let env ← environment ["HOME", "XDG_CONFIG_HOME"]
  let here := Path.parts (← IO.currentDir).toString
  let start : Disk := withDir ⟨.empty, here⟩ ("/" ++ "/".intercalate here)
  let configPath := i.configPath env
  let disk ← gatherFile start configPath
  match Settings.load disk configPath with
  | .error e =>
    display (Report.failure e)
    return 1
  | .ok settings =>
    let env ← environment ["HOME", "XDG_CONFIG_HOME", settings.backend.apiKeyEnv]
    let disk ← gather disk (i.command.footprint settings env)
    let world : World IO := ⟨env, disk, services⟩
    if i.command = .chat then chat world settings
    else
      let (report, disk) ← runCommand world settings configPath [] i.command
      if report.exitCode = 0 then (i.command.outputs settings env).forM (store disk)
      display report
      return report.exitCode

end Grounded.Program

/-- The entry point. -/
def main (args : List String) : IO UInt32 := do
  match Grounded.Cli.Invocation.parse args with
  | .ok invocation => return (← Grounded.Program.run invocation).toUInt32
  | .error e =>
    let (out, err) := e.report
    IO.print out
    IO.eprint err
    return e.exitCode.toUInt32
