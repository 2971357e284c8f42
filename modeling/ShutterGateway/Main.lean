import ShutterGateway.CommandLine.Help
import ShutterGateway.CommandLine.Subcommand
import ShutterGateway.Completion
import ShutterGateway.Listener
import ShutterGateway.Processor.Turn
import Std.Async.DNS
import Std.Async.Signal
import Std.Async.TCP
import Std.Async.Timer

/-!
The program. It puts a processor between a connection over TCP and the clock of the system: what
happens there is told to the processor, and the effects of the processor are carried out. All
decisions are the processor's.
-/

namespace ShutterGateway.Program

open Processor CommandLine Std.Async

/-- A processor at work. -/
structure Live where
  config : Config
  verbose : Bool
  /-- Whether a line is written for each event and each change of the connection. -/
  watching : Bool := false
  /-- The time of the system's clock at which the processor was started, in nanoseconds. -/
  origin : Nat
  processor : State
  /-- A connection that is being made. -/
  opening? : Option (AsyncTask TCP.Socket.Client) := none
  socket? : Option TCP.Socket.Client := none
  receiving? : Option (AsyncTask (Option ByteArray)) := none
  /-- Bytes that have arrived and were not read as frames yet. -/
  buffer : Bytes := []
  /-- Whether the gateway has closed the connection. -/
  closed : Bool := false
  tickers : List (Periodic × Instant × Duration) := []
  completions : List (Nat × Completion) := []
  nextTicket : Nat := 0
  listeners : Listeners := {}

/-- An action with a processor at work. -/
abbrev Run := StateT Live IO

/-- Makes a connection to the first address that takes one. -/
def dialFirst (port : UInt16) : List Std.Net.IPAddr → Async TCP.Socket.Client
  | [] => throw (IO.userError "no address")
  | address :: rest => do
    let socket ← TCP.Socket.Client.mk
    try
      socket.connect <|
        match address with
        | .v4 address => .v4 ⟨address, port⟩
        | .v6 address => .v6 ⟨address, port⟩
      socket.noDelay
      return socket
    catch error => if rest.isEmpty then throw error else dialFirst port rest

/-- Makes a connection to a host. -/
def dial (host : String) (port : UInt16) : Async TCP.Socket.Client := do
  let addresses ← DNS.getAddrInfo host (toString port.toNat)
  dialFirst port addresses.toList

/-- Starts to receive bytes. -/
def receiveMore (socket : TCP.Socket.Client) : Run Unit := do
  let task ← (socket.recv? 4096).toIO
  modify fun live => { live with receiving? := some task }

/-- Gives the connection up. -/
def hangUp : Run Unit := do
  if let some socket := (← get).socket? then
    try
      socket.native.cancelRecv
      (socket.shutdown).block
    catch _ => pure ()
  modify fun live =>
    { live with
      opening? := none, socket? := none, receiving? := none, buffer := [], closed := false
      tickers := [] }

/-- Changes the completion with a ticket. -/
def mapCompletion (ticket : Nat) (change : Completion → Completion) : Run Unit :=
  modify fun live =>
    { live with
      completions := live.completions.map fun entry =>
        if entry.1 = ticket then (entry.1, change entry.2) else entry }

/-- Writes a frame. -/
def send (frame : Frame) : Run Unit := do
  let live ← get
  match live.socket?, frame.encode with
  | some socket, .ok bytes =>
    try
      (socket.send (ByteArray.mk bytes.toArray)).block
    catch _ => modify fun live => { live with closed := true }
  | _, _ => pure ()

/-- Writes a line at once. -/
def tell (line : String) : IO Unit := do
  IO.println line
  (← IO.getStdout).flush

/-- Carries out an effect of the processor. -/
def absorb : Effect → Run Unit
  | .connect => do
    let config := (← get).config
    let task ← (dial config.hostname config.port).toIO
    modify fun live => { live with opening? := some task }
  | .send frame => send frame
  | .hangUp => hangUp
  | .attemptFailed error => do
    if (← get).verbose then IO.eprintln error.message
  | .answer ticket command => mapCompletion ticket (·.answer command)
  | .abandon ticket => mapCompletion ticket Completion.abandon
  | .notify event => do
    let live ← get
    if live.watching then
      for (_, told) in live.listeners.deliveries event do
        tell (eventLine told)
  | .publish state => do
    if (← get).watching then tell (stateLine state)
    if state = .connected then
      modify fun live =>
        { live with
          tickers := live.config.periods.map fun (periodic, period) =>
            (periodic, live.processor.now + period.nanos, period) }

/-- Lets something happen to the processor and carries out the effects. -/
def react (change : State → Reaction) : Run Unit := do
  let live ← get
  let reaction := change live.processor
  set { live with processor := reaction.1 }
  reaction.2.forM absorb

/-- Lets something happen to the processor. -/
def occur (event : Event) : Run Unit :=
  react (·.occur event)

/-- No more frames arrive. -/
def endReading (error : LinkError) : Run Unit := do
  occur (.dry error)
  occur .choke
  modify fun live => { live with receiving? := none, buffer := [], closed := false }

/-- Reads a frame from the bytes that have arrived, if there is room for it, or their end. Whether
something was read. -/
def read : Run Bool := do
  let live ← get
  if live.socket?.isNone then return false
  match live.config.resync.next live.buffer with
  | .error error =>
    endReading (.stream (.frame error))
    return true
  | .ok (some frame, left) =>
    if live.processor.mode.link?.any Link.hasRoom then
      set { live with buffer := left }
      occur (.arrive frame)
      return true
    else return false
  | .ok (none, left) =>
    set { live with buffer := left }
    if live.closed then
      endReading (if left.isEmpty then .closed else .stream .bytesRemaining)
    return live.closed

/-- The time since the processor was started. -/
def elapsed : Run Instant := do
  return (← IO.monoNanosNow) - (← get).origin

/-- Tells the processor what has happened since the last look. -/
def observe : Run Unit := do
  let now ← elapsed
  occur (.elapse now)
  if let some task := (← get).opening? then
    if ← IO.hasFinished task then
      match task.get with
      | .ok socket =>
        modify fun live => { live with opening? := none, socket? := some socket }
        receiveMore socket
        occur (.connected true)
      | .error _ =>
        modify fun live => { live with opening? := none }
        occur (.connected false)
  if let some task := (← get).receiving? then
    if ← IO.hasFinished task then
      match task.get, (← get).socket? with
      | .ok (some bytes), some socket =>
        modify fun live => { live with buffer := live.buffer ++ bytes.toList }
        receiveMore socket
      | _, _ => modify fun live => { live with receiving? := none, closed := true }
  let tickers := (← get).tickers
  modify fun live =>
    { live with
      tickers := tickers.map fun (periodic, instant, period) =>
        if instant ≤ now then (periodic, instant + period.nanos, period)
        else (periodic, instant, period) }
  for (periodic, instant, _) in tickers do
    if instant ≤ now then occur (.recur periodic)

/-- Lets the processor react until nothing is left to react to. -/
partial def settle : Run Unit := do
  let live ← get
  match live.processor.turn? live.config with
  | some reaction =>
    react fun _ => reaction
    settle
  | none => if ← read then settle

/-- Waits until something may have happened. -/
def pause (others : List (Task Unit)) : Run Unit := do
  let live ← get
  let now ← elapsed
  let instants := live.processor.alarm?.toList ++ live.tickers.map (·.2.1)
  let next := (instants.min?).getD (now + Duration.nanosPerSecond)
  let millis := min 1000 ((next - now) / Duration.nanosPerMilli + 1)
  let timer ← (sleep (.ofNat millis)).toIO
  let tasks :=
    (live.opening?.toList.map (Task.map fun _ => ()))
      ++ (live.receiving?.toList.map (Task.map fun _ => ())) ++ others
  IO.waitAny (Task.map (fun _ => ()) timer :: tasks) (by simp)

/-- Goes on until something has a value. The other tasks are those on which the value may
depend. -/
partial def await {α : Type} (look : Live → IO (Option α)) (others : List (Task Unit)) : Run α := do
  observe
  settle
  match ← look (← get) with
  | some value => return value
  | none =>
    pause others
    await look others

/-- Carries out a command. -/
def execute (command : Command) : Run Command := do
  let ticket := (← get).nextTicket
  modify fun live =>
    { live with
      nextTicket := ticket + 1
      completions := (ticket, { submitted := command }) :: live.completions }
  occur (.submit ticket command)
  let look (live : Live) : IO (Option Command) :=
    match (live.completions.lookup ticket).map Completion.wait with
    | some .later => return none
    | some (.returned done) => return some done
    | _ => throw (IO.userError "nobody waits for the command")
  await look []

/-- Writes events and changes of the connection until the user interrupts the program. -/
def watch : Run Unit := do
  let interrupt ← (← Signal.Waiter.mk .sigint false).wait
  let (id, registered) := (← get).listeners.register
  modify fun live => { live with watching := true, listeners := registered }
  let stopped : Task Unit := Task.map (fun _ => ()) interrupt
  await (fun _ => return if ← IO.hasFinished stopped then some () else none) [stopped]
  modify fun live =>
    { live with watching := false, listeners := (live.listeners.unregister id).2 }

/-- Runs a subcommand against the gateway and gives the exit code. -/
def runSubcommand (subcommand : Subcommand) : Run UInt32 := do
  await (fun live => return if live.processor.published = .connecting then none else some ()) []
  let outcome ← perform execute subcommand
  if subcommand = .watch then watch
  occur .terminate
  settle
  match outcome with
  | .ok text =>
    IO.print text
    return 0
  | .error failure =>
    IO.eprint failure.text
    return 1

/-- Reads the configuration in a file. -/
def loadFile (path : String) : IO (Except ConfigError Config) := do
  try
    return Config.load (some (← IO.FS.readBinFile path).toList)
  catch _ => return Config.load none

/-- The time of day, in seconds since the beginning of 1970. -/
def unixTime : IO UnixTime := do
  return (← Std.Time.Timestamp.now).toSecondsSinceUnixEpoch.toInt

/-- Runs the program that a command line asks for. -/
def runInvocation (invocation : Invocation) : IO UInt32 := do
  let options := invocation.options
  let loaded ← loadFile (options.config?.getD "")
  match options.config fun _ => loaded with
  | .error failure =>
    IO.eprint failure.text
    return 1
  | .ok config =>
    match config.fault? with
    | some fault =>
      IO.eprint (Failure.faulty fault).text
      return 1
    | none =>
      let reaction := State.start config (← unixTime)
      let live : Live :=
        { config := config
          verbose := options.verbose
          origin := ← IO.monoNanosNow
          processor := reaction.1 }
      let (code, _) ← (reaction.2.forM absorb *> runSubcommand invocation.subcommand).run live
      return code

end ShutterGateway.Program

open ShutterGateway in
/-- Reads the command line and runs the program. -/
def main (arguments : List String) : IO UInt32 := do
  let host? ← IO.getEnv "KLF200_HOST"
  let password? ← IO.getEnv "KLF200_PASSWORD"
  match CommandLine.parse host? password? arguments with
  | .ok invocation => Program.runInvocation invocation
  | .error .version =>
    IO.print CommandLine.versionText
    return 0
  | .error (.help verb?) =>
    IO.print (CommandLine.pageFor host? verb?).text
    return 0
  | .error .usage =>
    IO.eprint (CommandLine.mainPage host?).text
    return 2
