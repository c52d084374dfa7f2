import ProjectorControl.Client.Connect
import ProjectorControl.Client.Power
import ProjectorControl.CommandLine.Invocation
import ProjectorControl.CommandLine.Report
import ProjectorControl.Projector.Server

/-!
# The command line

What the program does for each invocation, as a function of its arguments, of the
variables of its environment, and of the network.
-/

namespace ProjectorControl.CommandLine

open ProjectorControl.Net

/-- A text of at least some length, filled up with blanks. -/
def padded (width : Nat) (s : String) : String :=
  s ++ String.ofList (List.replicate (width - s.length) ' ')

/-! ## Lists -/

/-- The line of a command in the list. -/
def commandLine (d : CommandDefinition) : String := padded 40 d.name ++ " " ++ d.entry.description

/-- The list of all commands. -/
def commandList : String :=
  String.join (registry.commands.map fun d => commandLine d ++ "\n")

/-! ## Tasks with a projector -/

/-- The settings of a client: those of the environment, overlaid by the invocation. -/
def clientConfig (overrides : Overrides) (lookup : String → Option String) :
    Except Error ClientConfig :=
  (ClientConfig.ofEnvironment lookup).map fun c =>
    { c with
      host := overrides.host <|> c.host
      port := overrides.port.getD c.port
      password := overrides.password <|> c.password
      timeout := overrides.timeout.getD c.timeout }

/-- A name with a colon, and what it stands for, in two columns. -/
def statusLine (name value : String) : String := padded 12 (name ++ ":") ++ " " ++ value ++ "\n"

/-- The line of a status field. -/
def fieldLine (field : StatusField) : Except CallFailure String → String
  | .ok value => statusLine field.name value
  | .error failure => statusLine field.name s!"unavailable ({failure.message})"

/-- The line of the model. -/
def modelLine : Except CallFailure Model → String
  | .ok model => statusLine "Model" model.name
  | .error failure => statusLine "Model" s!"unknown ({failure.message})"

section

variable {τ : Type} [Transport τ]

/-- Shows all status fields.  Only the power state has to be known. -/
def showStatus : Call τ String := do
  let power ← Call.powerStatus
  let fields : List StatusField := [.input, .gammaTable, .gammaValue, .source]
  let values ← Call.transaction (fields.map Call.status)
  let model ← Call.attempt Call.modelStatus
  let lines := List.zipWith fieldLine fields values
  return String.join (statusLine "Power" power.name :: lines ++ [modelLine model])

/-- What is shown of a response: what its payload stands for, its payload, or that all is
well. -/
def responseLine (response : Response) : String :=
  match response.text? with
  | some value => value ++ "\n"
  | none => if response.advanced.isSome then response.payload.hex ++ "\n" else "OK\n"

/-- Shows a power state. -/
def showPower (call : Call τ PowerState) : Call τ String := do
  let power ← call
  return power.name ++ "\n"

/-- A trouble with a projector. -/
def troubleOfFailure (failure : CallFailure) : Trouble := ⟨failure.message, none⟩

/-- Does a task with a projector, and gives what is to be shown. -/
def carryOut (task : ClientTask) (c : Client τ) : Except Trouble String :=
  let done (call : Call τ String) : Except Trouble String :=
    (call.run c).1.mapError troubleOfFailure
  match task with
  | .status => done showStatus
  | .on wait => done (showPower (Call.powerOn wait none))
  | .off wait => done (showPower (Call.powerOff wait none))
  | .send name payload => do
    let bytes ← match payload with
      | none => .ok []
      | some hex => explain "payload must be hex" Bytes.HexFault.message (Bytes.ofHex hex)
    done (Call.transactByName name bytes |>.andThen fun r => Call.result (responseLine r))

end

/-- Does a task with the projector that the settings name. -/
def runClient {ν π : Type} [Network ν π] [Peer π] (overrides : Overrides) (task : ClientTask)
    (lookup : String → Option String) (network : ν) : Except Trouble String := do
  let config ←
    explain "invalid JVC_PROJECTOR_* environment" Error.message (clientConfig overrides lookup)
  let client ← explain "failed to connect to projector" Error.message
    (Client.connect config network Discovery.nothing NameService.nothing 0)
  carryOut task client

/-! ## Emulating a projector -/

/-- The settings of an emulated projector. -/
def emulatorConfig (overrides : Overrides) (task : EmulatorTask) : EmulatorConfig :=
  let defaults : EmulatorConfig := {}
  { defaults with
    password := overrides.password
    bindAddress := task.bind.getD defaults.bindAddress
    model := task.model.getD defaults.model
    warmupTime := task.warmup.getD defaults.warmupTime }

/-- What is shown of an emulated projector. -/
def emulatorLine (server : Server) : String :=
  s!"Emulating {server.emulation.dispatcher.model.name} on {server.address.text} (Ctrl-C to stop)\n"

/-- Starts an emulated projector. -/
def startEmulator {ν π : Type} [Network ν π] (overrides : Overrides) (task : EmulatorTask)
    (network : ν) : Except Trouble Server :=
  explain "failed to start emulator" Error.message
    (Server.start (emulatorConfig overrides task) network)

/-! ## Invocations -/

/-- What is said about arguments that belong to nobody. -/
def unusedWarning (unused : List String) : String :=
  if unused = [] then ""
  else
    let shown := String.intercalate ", " (unused.map Text.quoted)
    s!"Warning: unused arguments left: [{shown}].\n"

/-- Does a task, and reports.  An emulated projector goes on until it is interrupted. -/
def runTask {ν π : Type} [Network ν π] [Peer π] (overrides : Overrides) (task : Task)
    (lookup : String → Option String) (network : ν) : Report :=
  match task with
  | .listCommands => { output := commandList }
  | .client task => .ofExcept (runClient overrides task lookup network)
  | .emulator task =>
    match startEmulator overrides task network with
    | .ok server => { output := emulatorLine server, lasting := true }
    | .error trouble => .ofTrouble trouble

/-- Does what the arguments say, and reports. -/
def run {ν π : Type} [Network ν π] [Peer π] (args : List String)
    (lookup : String → Option String) (network : ν) : Report :=
  match readInvocation args with
  | .error fault => .ofTrouble ⟨"invalid arguments", some fault.message⟩
  | .ok .help => { output := help }
  | .ok .nothing => { output := help, code := 2 }
  | .ok (.unknown name) => { troubles := s!"Unknown command: {name}\n\n{help}\n", code := 2 }
  | .ok (.task overrides task unused) =>
    (runTask overrides task lookup network).warn (unusedWarning unused)

end ProjectorControl.CommandLine
