import ProjectorControl.Config.Client
import ProjectorControl.Status

/-!
# Settings of an emulated projector

Where it listens, what it is, in which state it starts, and how patient it is.
-/

namespace ProjectorControl

/-- Settings of an emulated projector. -/
structure EmulatorConfig where
  /-- Where to listen. -/
  bindAddress : Net.SocketAddress := .v4 ⟨0, 0, 0, 0⟩ defaultPort
  /-- The name of the model. -/
  model : String := "DLA-NZ8"
  /-- The password that clients have to send.  None, or an empty one, lets them in
  without. -/
  password : Option String := none
  /-- The name of the first power state. -/
  power : String := "Standby"
  /-- The first input. -/
  input : String := "HDMI 1"
  /-- The first gamma table. -/
  gammaTable : String := "Normal"
  /-- The first gamma value. -/
  gammaValue : String := "2.2"
  /-- The first state of the signal. -/
  source : String := "Signal OK"
  /-- How long the lamp takes to warm up. -/
  warmupTime : Duration := .ofSeconds 10
  /-- How long the lamp takes to cool down.  None means as long as warming up. -/
  cooldownTime : Option Duration := none
  /-- How long a client may take to send its password. -/
  handshakeTimeout : Duration := .ofSeconds 5
  /-- How long a client may say nothing. -/
  idleTimeout : Duration := .ofSeconds 30
  /-- How many clients may be connected at once. -/
  maxSessions : Nat := 16
  deriving DecidableEq, Repr

namespace EmulatorConfig

/-- The settings by name, in their order. -/
def setters : List (String × Value.Setter EmulatorConfig) := [
  ("bind_addr", Value.setter Value.toAddress? fun v c => { c with bindAddress := v }),
  ("model", Value.setter Value.toText? fun v c => { c with model := v }),
  ("password", Value.setter (Value.toOptional? Value.toText?) fun v c => { c with password := v }),
  ("power", Value.setter Value.toText? fun v c => { c with power := v }),
  ("input", Value.setter Value.toText? fun v c => { c with input := v }),
  ("gamma_table", Value.setter Value.toText? fun v c => { c with gammaTable := v }),
  ("gamma_value", Value.setter Value.toText? fun v c => { c with gammaValue := v }),
  ("source", Value.setter Value.toText? fun v c => { c with source := v }),
  ("warmup_time", Value.setter Value.toDuration? fun v c => { c with warmupTime := v }),
  ("cooldown_time",
    Value.setter (Value.toOptional? Value.toDuration?) fun v c => { c with cooldownTime := v }),
  ("handshake_timeout", Value.setter Value.toDuration? fun v c => { c with handshakeTimeout := v }),
  ("idle_timeout", Value.setter Value.toDuration? fun v c => { c with idleTimeout := v }),
  ("max_sessions",
    Value.setter (Value.toBounded? UInt64.size) fun v c => { c with maxSessions := v })]

/-- Reads settings over the defaults. -/
def ofValue? (v : Value) : Option EmulatorConfig := Value.readSettings setters {} v

/-- Writes all settings.  The time to cool down is left out if there is none. -/
def toValue (c : EmulatorConfig) : Value :=
  let cooldown := match c.cooldownTime with
    | none => []
    | some d => [("cooldown_time", Value.ofDuration d)]
  .record (
    [("bind_addr", .text c.bindAddress.text),
      ("model", .text c.model),
      ("password", .ofOptional .text c.password),
      ("power", .text c.power),
      ("input", .text c.input),
      ("gamma_table", .text c.gammaTable),
      ("gamma_value", .text c.gammaValue),
      ("source", .text c.source),
      ("warmup_time", .ofDuration c.warmupTime)]
    ++ cooldown ++
    [("handshake_timeout", .ofDuration c.handshakeTimeout),
      ("idle_timeout", .ofDuration c.idleTimeout),
      ("max_sessions", .int c.maxSessions)])

/-- How long the lamp takes to cool down. -/
def cooldown (c : EmulatorConfig) : Duration := c.cooldownTime.getD c.warmupTime

/-- The first value of a status field. -/
def initialStatus (c : EmulatorConfig) : StatusField → String
  | .power => c.power
  | .input => c.input
  | .gammaTable => c.gammaTable
  | .gammaValue => c.gammaValue
  | .source => c.source

/-- The password that clients have to send, if any. -/
def secret (c : EmulatorConfig) : Option String := ClientConfig.nonEmpty c.password

/-- The model. -/
def resolvedModel (c : EmulatorConfig) : Except Error Model := Model.find c.model

end EmulatorConfig

end ProjectorControl
