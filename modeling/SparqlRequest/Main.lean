/-
# Main -- the command line program

Everything the program decides is decided in `CommandLine`.  What is left for this module
is to fetch what a run finds around it -- the two files that the options name, standard
input, what comes of its POST -- and to put down what the run leaves behind.

Requests go the way of `Http.travel`, redirections and the time limit included, with sockets
for a network.  Encrypted connections are not spoken: a URL that asks for one is not usable
here, and nothing is sent to it.
-/
import SparqlRequest.CommandLine.Run
import SparqlRequest.Protocol.Message
import Std.Async.DNS
import Std.Async.TCP
import Std.Async.Timer

set_option autoImplicit false

namespace SparqlRequest.Program

open SparqlRequest.CommandLine

/-! ## Files -/

def faultOf : IO.Error → FileFault
  | .noFileOrDirectory _ _ _ => .missing
  | .noSuchThing _ _ _ => .missing
  | .inappropriateType _ 20 _ => .notFolder
  | .inappropriateType _ _ _ => .folder
  | error => .other (toString error).toList

def textOf (bytes : ByteArray) : Except FileFault Text :=
  match String.fromUTF8? bytes with
  | some text => .ok text.toList
  | none => .error .notText

def readText (path : Text) : IO (Except FileFault Text) := do
  match ← (IO.FS.readBinFile (String.ofList path)).toBaseIO with
  | .ok bytes => return textOf bytes
  | .error error => return .error (faultOf error)

def readInput : IO (Except FileFault Text) := do
  let bytes ← (← IO.getStdin).readBinToEnd
  return textOf bytes

def createFile (path : Text) : IO (Option FileFault) := do
  match ← (IO.FS.writeFile (String.ofList path) "").toBaseIO with
  | .ok _ => return none
  | .error error => return some (faultOf error)

/-! ## The endpoint -/

/-- A URL that leads to a server, without encryption. -/
def isSpoken (url : Text) : Bool :=
  match Address.ofUrl? url with
  | some address => !address.encrypted
  | none => false

open Std.Async in
/-- Receives bytes until the connection closes or breaks, at most so many times. -/
def receive (socket : TCP.Socket.Client) : Nat → ByteArray → Async ByteArray
  | 0, received => pure received
  | rounds + 1, received => do
      let more ← try socket.recv? 65536 catch _ => pure none
      match more with
      | none => pure received
      | some bytes =>
          if bytes.isEmpty then pure received
          else receive socket rounds (received ++ bytes)

open Std.Async in
/-- A connection to the first of several hosts that accepts one. -/
def connectTo (service : Nat) : List Std.Net.IPAddr → Async (Option TCP.Socket.Client)
  | [] => return none
  | host :: hosts => do
      let address : Std.Net.SocketAddress :=
        match host with
        | .v4 address => .v4 ⟨address, service.toUInt16⟩
        | .v6 address => .v6 ⟨address, service.toUInt16⟩
      let socket ← TCP.Socket.Client.mk
      let connected ← try socket.connect address; pure true catch _ => pure false
      if connected then return some socket else connectTo service hosts

open Std.Async in
/-- Sends a request to an address and takes what comes back. -/
def reach (request : Http.Request) (address : Address) : Async Http.Treatment := do
  let hosts ← try DNS.getAddrInfo (String.ofList address.host) "" catch _ => pure #[]
  match ← connectTo address.service hosts.toList with
  | none => return .refused
  | some socket =>
      let sent ←
        try
          socket.send (String.ofList (request.message address)).toUTF8
          pure true
        catch _ => pure false
      if sent then
        let bytes ← receive socket (Number.twoTo 24) ByteArray.empty
        return .ofBytes request.url bytes.toList
      else return .dropped

open Std.Async in
/-- Waits for an operation, for at most so many milliseconds. -/
def within {α : Type} (milliseconds : Nat) (operation : Async α) : Async (Option α) :=
  let limit : Async (Option α) := do
    sleep (Std.Time.Millisecond.Offset.ofNat milliseconds)
    return none
  Async.race (some <$> operation) limit

/-- A visit that is over at a point of time, and then has taken longer than its limit. -/
def visit (limitSeconds deadline : Nat) (request : Http.Request) : IO Http.Visit := do
  match Address.ofUrl? request.url with
  | none => return ⟨.dropped, 0⟩
  | some address =>
      let start ← IO.monoMsNow
      let found ← (within (deadline - start) (reach request address)).block
      let stop ← IO.monoMsNow
      match found with
      | some treatment => return ⟨treatment, (stop - start) / 1000⟩
      | none => return ⟨.dropped, limitSeconds + 1⟩

/-- What comes of a POST. -/
def exchange (settings : Http.Settings) (post : Http.Post) : IO Http.Exchange := do
  let deadline := (← IO.monoMsNow) + 1000 * settings.timeoutSeconds
  let route ← Http.travel isSpoken Http.isHeaderValue
    (fun _ request => visit settings.timeoutSeconds deadline request) settings post
  return route.exchange

/-! ## Runs -/

/-- What comes of a POST that is never made. -/
def unmade : Http.Exchange := Http.Route.exchange ⟨[], .refused⟩

/-- What the files that the options name hold. -/
def surroundings (options : Options) : IO Surroundings := do
  let config ←
    match options.config with
    | some path => readText path
    | none => pure (.error .missing)
  let template ←
    if options.template = standardInput then readInput else readText options.template
  return {
    read := fun path => if options.config = some path then config else template
    create := fun _ => none
    input := template
    explain := fun _ => "not a configuration".toList
    library := .answering isSpoken fun _ _ => unmade }

/-- What comes of the POST of a run, where the run comes as far as making one. -/
def exchangeOf (options : Options) (around : Surroundings) : IO Http.Exchange := do
  match prepare options around with
  | .error _ => return unmade
  | .ok (connector, query) =>
      match query.statement with
      | .error _ => return unmade
      | .ok statement =>
          exchange connector.settings (connector.post ⟨statement, options.parameters⟩)

/-- What a run with given options leaves behind, its output file created in passing. -/
def reportOf (options : Options) : IO Report := do
  let around ← surroundings options
  match prepare options around, options.output with
  | .error _, _ => return runWith options around
  | .ok _, output =>
      let fault ←
        match output with
        | some path => createFile path
        | none => pure none
      let found ←
        if options.dryRun || fault.isSome then pure unmade else exchangeOf options around
      return runWith options
        { around with
          create := fun _ => fault
          library := .answering isSpoken fun _ _ => found }

def deliver (report : Report) : IO UInt32 := do
  for file in report.written do
    IO.FS.writeFile (String.ofList file.1) (String.ofList file.2)
  let output ← IO.getStdout
  output.putStr (String.ofList report.output)
  output.flush
  (← IO.getStderr).putStr (String.ofList report.errors)
  return report.code.toUInt32

end SparqlRequest.Program

open SparqlRequest in
def main (arguments : List String) : IO UInt32 := do
  let arguments := arguments.map String.toList
  match CommandLine.Options.ofArguments arguments with
  | .ok options => Program.deliver (← Program.reportOf options)
  | .error _ =>
      let nothing := CommandLine.Surroundings.ofFolder [] [] (fun _ => [])
        (.answering Program.isSpoken fun _ _ => Program.unmade)
      Program.deliver (CommandLine.run arguments nothing)
