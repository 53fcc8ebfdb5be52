import SiteTech.CommandLine.Run
import Std.Async.DNS
import Std.Async.TCP

namespace SiteTech.CommandLine

open Std.Net Std.Async

/-- Why the operating system does not give us a file. -/
def fileFault : IO.Error → FileFault
  | .noFileOrDirectory .. => .missing
  | .permissionDenied .. => .denied
  | .inappropriateType .. => .directory
  | fault => .other (toString fault)

/-- The content of a file. -/
def readFile (path : String) : IO (Except FileFault (List UInt8)) := do
  match ← (IO.FS.readBinFile path).toBaseIO with
  | .ok bytes => return .ok bytes.toList
  | .error fault => return .error (fileFault fault)

/-- The bytes that a connection has brought, and whether it has been made and is at its end. -/
structure Intake where
  made : Bool
  ended : Bool
  bytes : ByteArray

/-- The intake before a connection is made. -/
def Intake.empty : Intake := ⟨false, false, ByteArray.empty⟩

/-- The answer that an intake holds, if its fields are complete. -/
def Intake.message? (i : Intake) : Option Http.Message := Http.Message.ofBytes? i.bytes.toList

/-- Adds the bytes that a connection brings, until it brings no more. -/
partial def receive (connection : TCP.Socket.Client) (intake : IO.Ref Intake) : IO Unit := do
  match ← (connection.recv? 65536).block with
  | none => intake.modify fun i => { i with ended := true }
  | some bytes =>
    intake.modify fun i => { i with bytes := i.bytes ++ bytes }
    receive connection intake

/-- The numbers under which a host is reached. -/
def addresses (host : String) (port : UInt16) : IO (List SocketAddress) := do
  let found ← (DNS.getAddrInfo host (toString port)).block
  return found.toList.map fun
    | .v4 a => .v4 ⟨a, port⟩
    | .v6 a => .v6 ⟨a, port⟩

/-- Makes a connection to the first address that accepts one. -/
def connect? : List SocketAddress → IO (Option TCP.Socket.Client)
  | [] => return none
  | a :: rest => do
    let connection ← TCP.Socket.Client.mk
    match ← (connection.connect a).block.toBaseIO with
    | .ok () => return some connection
    | .error _ => connect? rest

/-- Sends a request, and takes in what comes. -/
def exchange (request : Http.Request) (intake : IO.Ref Intake) : IO Unit := do
  let host := String.ofList (request.url.hostText.getD [])
  let port := UInt16.ofNat (request.url.port.getD 80)
  if let some connection ← connect? (← addresses host port) then
    intake.modify fun i => { i with made := true }
    (connection.send ⟨request.text.toArray⟩).block
    receive connection intake

/-- Waits until something has happened, for a number of milliseconds at most. -/
def await (happened : IO Bool) : Nat → IO Unit
  | 0 => return
  | limit + 1 => do
    if !(← happened) then
      IO.sleep 1
      await happened limit

/-- What becomes of a request. The fields of the answer have to come within the first number of
milliseconds, and its body within the second. -/
def deliver (timeout loadTimeout : Nat) (request : Http.Request) : IO Http.Delivery := do
  if request.url.scheme = "https".toList then return .refused
  let intake ← IO.mkRef Intake.empty
  let task ← IO.asTask (exchange request intake) .dedicated
  let finished : IO Bool := IO.hasFinished task
  let told : IO Bool := return (← finished) || (← intake.get).message?.isSome
  await told timeout
  if (← intake.get).message?.isSome then await finished loadTimeout
  let done ← finished
  let i ← intake.get
  match i.message? with
  | some message =>
    if i.ended then return .answered message
    else return if done then .dropped else .answered { message with stalls := true }
  | none =>
    if done then return if i.made then .dropped else .refused
    else return .silent

/-- The network that this computer is connected to. Records of domains are not looked up. -/
def network (config : Config) : Http.Network IO :=
  ⟨deliver config.timeout config.loadTimeout, fun _ => return Table.empty⟩

/-- The settings that arguments make. -/
def configOf (arguments : List String) : Config :=
  match Task.ofArguments arguments with
  | .ok (.analyze o) => o.config
  | _ => Config.default

/-- Waits for a number of milliseconds. -/
def pauseFor (milliseconds : UInt64) : IO Unit :=
  IO.sleep (UInt32.ofNat (min milliseconds.toNat (UInt32.size - 1)))

end SiteTech.CommandLine

/-- Analyses a site and prints the report on it. -/
def main (arguments : List String) : IO UInt32 := do
  let network := SiteTech.CommandLine.network (SiteTech.CommandLine.configOf arguments)
  let (output, _) ←
    (SiteTech.CommandLine.run network SiteTech.CommandLine.readFile SiteTech.CommandLine.pauseFor
      arguments).run SiteTech.WebState.start
  IO.print output.answer
  IO.eprint output.complaint
  return output.code
