import ProjectorControl.Config.Value
import ProjectorControl.Duration.Seconds
import ProjectorControl.Model
import ProjectorControl.Net.Host

/-!
# Settings of a client

Which projector to control, how to get in, and how long to wait.  Settings come from
their defaults, from a file of settings, or from variables of the environment.
-/

namespace ProjectorControl

/-- The port that projectors listen on. -/
def defaultPort : UInt16 := 20554

/-- Settings of a client. -/
structure ClientConfig where
  /-- Which projector is meant.  None means the first that announces itself. -/
  host : Option String := none
  /-- The port to use where the host has none. -/
  port : UInt16 := defaultPort
  /-- The password to send. -/
  password : Option String := none
  /-- How long connecting, a read or a write may take. -/
  timeout : Duration := .ofSeconds 2
  /-- The model, if it is known in advance. -/
  model : Option String := none
  /-- How long to wait for the lamp to warm up or cool down. -/
  stablePowerTimeout : Duration := .ofSeconds 60
  /-- How long a connection may be idle before it is dropped. -/
  idleDisconnect : Duration := .ofSeconds 2
  /-- Whether to connect on demand instead of holding one connection. -/
  autoReconnect : Bool := true
  deriving DecidableEq, Repr

namespace ClientConfig

/-! ## Reading and writing -/

/-- The settings by name, in their order. -/
def setters : List (String × Value.Setter ClientConfig) := [
  ("host", Value.setter (Value.toOptional? Value.toText?) fun v c => { c with host := v }),
  ("port", Value.setter Value.toPort? fun v c => { c with port := v }),
  ("password", Value.setter (Value.toOptional? Value.toText?) fun v c => { c with password := v }),
  ("timeout", Value.setter Value.toDuration? fun v c => { c with timeout := v }),
  ("model", Value.setter (Value.toOptional? Value.toText?) fun v c => { c with model := v }),
  ("stable_power_timeout",
    Value.setter Value.toDuration? fun v c => { c with stablePowerTimeout := v }),
  ("idle_disconnect", Value.setter Value.toDuration? fun v c => { c with idleDisconnect := v }),
  ("auto_reconnect", Value.setter Value.toBool? fun v c => { c with autoReconnect := v })]

/-- Reads settings over the defaults. -/
def ofValue? (v : Value) : Option ClientConfig := Value.readSettings setters {} v

/-- Writes all settings. -/
def toValue (c : ClientConfig) : Value :=
  .record [
    ("host", .ofOptional .text c.host),
    ("port", .int c.port.toNat),
    ("password", .ofOptional .text c.password),
    ("timeout", .ofDuration c.timeout),
    ("model", .ofOptional .text c.model),
    ("stable_power_timeout", .ofDuration c.stablePowerTimeout),
    ("idle_disconnect", .ofDuration c.idleDisconnect),
    ("auto_reconnect", .bool c.autoReconnect)]

/-! ## The environment -/

/-- The variables that hold settings. -/
structure Variables where
  /-- Which projector is meant. -/
  host : String := "JVC_PROJECTOR_HOST"
  /-- The port to use where the host has none. -/
  port : String := "JVC_PROJECTOR_PORT"
  /-- The password to send. -/
  password : String := "JVC_PROJECTOR_PASSWORD"
  /-- The time limit, in seconds. -/
  timeout : String := "JVC_PROJECTOR_TIMEOUT"

/-- The names of the variables. -/
def settingNames : Variables := {}

/-- Reads a time limit in seconds, which has to be more than zero. -/
def readTimeout? (s : String) : Option Duration :=
  match Text.Decimal.parse (Text.trim s) with
  | .error _ => none
  | .ok number =>
    if Duration.isPositive number then (Duration.ofDecimal number).toOption else none

/-- The defaults, overlaid with the variables that are set.  An empty variable counts as not
set. -/
def ofEnvironment (lookup : String → Option String) : Except Error ClientConfig := do
  let given (name : String) : Option String := (lookup name).filter fun v => v ≠ ""
  let defaults : ClientConfig := { host := given settingNames.host }
  let withPort ← match given settingNames.port with
    | none => .ok defaults
    | some s =>
      match Net.portOfText? (Text.trim s) with
      | some port => .ok { defaults with port := port }
      | none => .error (.config s!"{settingNames.port}: invalid port {Text.quoted s}")
  let withPassword := { withPort with password := given settingNames.password }
  match given settingNames.timeout with
  | none => .ok withPassword
  | some s =>
    match readTimeout? s with
    | some limit => .ok { withPassword with timeout := limit }
    | none => .error (.config s!"{settingNames.timeout}: invalid timeout {Text.quoted s}")

/-! ## Using settings -/

/-- A password, an empty one counting as none. -/
def nonEmpty (password : Option String) : Option String := password.filter fun p => p ≠ ""

/-- The password to send, if any. -/
def secret (c : ClientConfig) : Option String := nonEmpty c.password

/-- Which projector is meant. -/
def hostSpec (c : ClientConfig) : Except Error HostSpec := HostSpec.parse (c.host.getD "") c.port

/-- The model, if it is given. -/
def resolvedModel (c : ClientConfig) : Except Error (Option Model) :=
  match c.model with
  | none => .ok none
  | some name => (Model.find name).map some

/-- A text that may be missing, for display. -/
def shownOption : Option String → String
  | none => "None"
  | some s => s!"Some({Text.quoted s})"

/-- The settings for display.  The password is not shown. -/
def text (c : ClientConfig) : String :=
  let hidden := c.password.map fun _ => "<redacted>"
  let fields := String.intercalate ", " [
    s!"host: {shownOption c.host}",
    s!"port: {c.port.toNat}",
    s!"password: {shownOption hidden}",
    s!"timeout: {c.timeout.text}",
    s!"model: {shownOption c.model}",
    s!"stable_power_timeout: {c.stablePowerTimeout.text}",
    s!"idle_disconnect: {c.idleDisconnect.text}",
    s!"auto_reconnect: {c.autoReconnect}"]
  s!"ClientConfig \x7b {fields} \x7d"

end ClientConfig

end ProjectorControl
