import ProjectorControl.CommandLine.Arguments

/-!
# Invocations

What the user of the command line asks for.
-/

namespace ProjectorControl.CommandLine

/-- The version of the program. -/
def version : String := "0.1.0"

/-- The help text. -/
def help : String := String.intercalate "\n" [
  "jvc - JVC projector control",
  "",
  "USAGE:",
  "  jvc [OPTIONS] <COMMAND>",
  "",
  "COMMANDS:",
  "  status                   Show power, input, gamma, source and model",
  "  on [--wait]              Power on (--wait: until warm-up finishes)",
  "  off [--wait]             Power off (--wait: until cool-down finishes)",
  "  cmd <name> [hex]         Send a command by name, with an optional payload",
  "  commands                 List every known command",
  "  emulator                 Run a projector emulator until Ctrl-C",
  "",
  "OPTIONS:",
  "  -h, --help               Prints help information",
  "  --log-level <level>      Log filter when RUST_LOG is unset (default: warn)",
  "  --host <spec>            Projector host[:port], tcp://... or sddp://",
  "  --port <port>            Default port (default: 20554)",
  "  --password <password>    Projector password",
  "  --timeout <seconds>      Network timeout (default: 2)",
  "",
  "EMULATOR OPTIONS:",
  "  --bind <addr>            Listen address (default: 0.0.0.0:20554)",
  "  --model <name>           Emulated model (default: DLA-NZ8)",
  "  --warmup <seconds>       Warm-up and cool-down time (default: 10)",
  "",
  "Client settings default to the JVC_PROJECTOR_HOST, JVC_PROJECTOR_PORT,",
  "JVC_PROJECTOR_PASSWORD and JVC_PROJECTOR_TIMEOUT environment variables.",
  ""]

/-- What is to be done with a projector. -/
inductive ClientTask where
  /-- Show all status fields. -/
  | status
  /-- Switch the lamp on, and wait for it if asked to. -/
  | on (wait : Bool)
  /-- Switch the lamp off, and wait for it if asked to. -/
  | off (wait : Bool)
  /-- Carry out a command by name, with a payload in hexadecimal. -/
  | send (name : String) (payload : Option String)
  deriving DecidableEq, Repr

/-- What an emulated projector is to be like. -/
structure EmulatorTask where
  /-- Where it listens. -/
  bind : Option Net.SocketAddress
  /-- Its model. -/
  model : Option String
  /-- How long its lamp takes to warm up. -/
  warmup : Option Duration
  deriving DecidableEq, Repr

/-- What is to be done. -/
inductive Task where
  /-- Something with a projector. -/
  | client (task : ClientTask)
  /-- List all commands. -/
  | listCommands
  /-- Emulate a projector. -/
  | emulator (task : EmulatorTask)
  deriving DecidableEq, Repr

/-- What an invocation says about the projector.  What it leaves out is left to the
settings. -/
structure Overrides where
  /-- Which projector is meant. -/
  host : Option String
  /-- The port to use where the host has none. -/
  port : Option UInt16
  /-- The password. -/
  password : Option String
  /-- The time limit. -/
  timeout : Option Duration
  deriving DecidableEq, Repr

/-- An invocation. -/
inductive Invocation where
  /-- The help text is asked for. -/
  | help
  /-- Nothing is asked for. -/
  | nothing
  /-- Something is asked for that does not exist. -/
  | unknown (name : String)
  /-- A task, and the arguments that belong to nobody. -/
  | task (overrides : Overrides) (task : Task) (unused : List String)
  deriving DecidableEq, Repr

/-- Whether an argument asks for the help text. -/
def asksForHelp (arg : String) : Bool := arg = "-h" || arg = "--help"

/-- Reads what is said about the projector. -/
def readOverrides : ArgumentReader Overrides := do
  let _ ← ArgumentReader.option? "--log-level" readText
  let host ← ArgumentReader.option? "--host" readText
  let port ← ArgumentReader.option? "--port" readPort
  let password ← ArgumentReader.option? "--password" readText
  let timeout ← ArgumentReader.option? "--timeout" readSeconds
  return ⟨host, port, password, timeout⟩

/-- Reads what belongs to a task of a given name.  There may be no such task. -/
def readTask (name : String) : ArgumentReader (Option Task) := do
  match name with
  | "status" => return some (.client .status)
  | "on" => return some (.client (.on (← ArgumentReader.flag "--wait")))
  | "off" => return some (.client (.off (← ArgumentReader.flag "--wait")))
  | "cmd" =>
    let command ← ArgumentReader.free
    let payload ← ArgumentReader.free?
    return some (.client (.send command payload))
  | "commands" => return some .listCommands
  | "emulator" =>
    let bind ← ArgumentReader.option? "--bind" readAddress
    let model ← ArgumentReader.option? "--model" readText
    let warmup ← ArgumentReader.option? "--warmup" readSeconds
    return some (.emulator ⟨bind, model, warmup⟩)
  | _ => return none

/-- Reads all arguments.  The options of the projector come before those of the task, and
before the task is looked at. -/
def readInvocation (args : List String) : Except ArgumentFault Invocation :=
  if args.any asksForHelp then .ok .help
  else do
    let (name, args) ← ArgumentReader.command?.run args
    let (overrides, args) ← readOverrides.run args
    match name with
    | none => .ok .nothing
    | some name =>
      let (task, unused) ← (readTask name).run args
      match task with
      | none => .ok (.unknown name)
      | some task => .ok (.task overrides task unused)

end ProjectorControl.CommandLine
