import EvidenceLedger.Config.Validation
import EvidenceLedger.Simulation.World
import EvidenceLedger.Sync.Network

/-!
# The node as a program

The configuration comes from the file that the variable `IC_CONFIG` names, if it names one, and
from the other variables of the environment. If it makes no node the program says why and ends.

After that the node answers requests, one on a line. A request is an object with the time at
which it is made, a method, an address and, if it has them, a content type and a body; the
answer is an object with a status and a body. Events are written to the error stream as they
occur. The program has no network of its own, so no peer can be reached from it.
-/

namespace EvidenceLedger

open Json

/-- A request on a line, with the time at which it is made. -/
def readRequestLine : Reader (Timestamp × Api.Request) :=
  RecordReader.read <|
    ((RecordReader.required "now" decode).pair <|
      ((RecordReader.default "method" Reader.text "GET").map Api.Request.mk)
        |>.and (.required "uri" Reader.text)
        |>.and (.default "contentType" (Reader.nullable Reader.text) none)
        |>.and (.default "body" (Reader.text · |>.map Bytes.ofString) []))

def Event.LogLine.toText (l : Event.LogLine) : String :=
  (if l.isError then "ERROR " else "INFO ") ++ l.event ++ " " ++ l.message ++ " " ++ l.details

def answerJson (r : Api.Request) (reply : Api.Reply) : Json :=
  .obj [("status", .nat reply.status), ("body", (Api.Service.visibleBody r reply).getD .null)]

/-- The world in which the node is alone. -/
def lonelyWorld (judge : Judge) : World :=
  ⟨[(judge.identity.nodeId, .start judge .logged .dropped)], ⟨0⟩, .genesis, 0⟩

/-- Answer the line, if it is a request. -/
def answerLine (config : NodeConfig) (w : World) (line : Bytes) : World × Json × List String :=
  let name := config.identity.nodeId
  match readWhole readRequestLine line, w.member? name with
  | .ok (now, r), some m =>
    let s : Synchronizer := ⟨m.judge, config.sync, Network.isolated.transport, none⟩
    let e := { w with now }.serve name m s r
    (e.world, answerJson r e.reply, e.told.log.map Event.LogLine.toText)
  | .error fault, _ => (w, .obj [("error", .str fault.describe)], [])
  | _, none => (w, .null, [])

/-- The variables of the environment that matter. -/
def readEnvironment : IO Environment := do
  let values ← Override.all.mapM fun (name, _) => do return (name, ← IO.getEnv name)
  return fun name => (values.lookup name).join

/-- The configuration file, if one is named. -/
def readConfigFile : IO (Except ConfigError (Option (String × Bytes))) := do
  match (← IO.getEnv "IC_CONFIG").map Text.trim with
  | none | some "" => return .ok none
  | some path =>
    try
      return .ok (some (path, (← IO.FS.readBinFile path).toList))
    catch reason =>
      return .error (.unreadable path (toString reason))

/-- Answer lines until there are no more. -/
partial def serveLines (config : NodeConfig) (w : World) : IO Unit := do
  let line ← (← IO.getStdin).getLine
  if line.isEmpty then return
  let (w, answer, log) := answerLine config w (Bytes.ofString line)
  for entry in log do
    IO.eprintln entry
  (← IO.getStdout).write ⟨(answer.toBytes ++ [0x0A]).toArray⟩
  (← IO.getStdout).flush
  serveLines config w

def run : IO UInt32 := do
  let env ← readEnvironment
  match (← readConfigFile).bind fun file => NodeConfig.load file env with
  | .error e =>
    IO.eprintln ("Failed to load configuration: " ++ e.message)
    return 1
  | .ok config =>
    serveLines config (lonelyWorld ⟨.standard, config.identity⟩)
    return 0

end EvidenceLedger

def main : IO UInt32 :=
  EvidenceLedger.run
