import ProjectorControl.Bytes
import ProjectorControl.Error

/-!
# Status fields and their values

A projector reports five fields.  For each the answer is a short payload, and a table
says which name the payload stands for.  The power field has a type of its own, because
the rules for switching a projector on and off depend on it.
-/

namespace ProjectorControl

/-! ## Power -/

/-- What a projector's lamp is doing. -/
inductive PowerState where
  /-- The lamp is off and can be switched on. -/
  | standby
  /-- The lamp is on and can be switched off. -/
  | on
  /-- The lamp was switched off and is not cool yet. -/
  | cooling
  /-- The lamp was switched on and is not warm yet. -/
  | warming
  /-- Something is wrong; the projector takes no commands. -/
  | emergency
  deriving DecidableEq, Repr

namespace PowerState

/-- All power states, in the order of their payloads. -/
def all : List PowerState := [standby, on, cooling, warming, emergency]

/-- The name of a power state. -/
def name : PowerState → String
  | standby => "Standby"
  | on => "On"
  | cooling => "Cooling"
  | warming => "Warming"
  | emergency => "Emergency"

/-- The payload by which a projector reports a power state. -/
def payload : PowerState → Bytes
  | standby => [0x30]
  | on => [0x31]
  | cooling => [0x32]
  | warming => [0x33]
  | emergency => [0x34]

/-- Whether the lamp is on its way from one state to another.  A projector ignores power
commands meanwhile. -/
def isTransitional : PowerState → Bool
  | warming | cooling => true
  | standby | on | emergency => false

/-- The power state of a name. -/
def ofName? (name : String) : Option PowerState := all.find? fun state => state.name = name

/-- The power state of a name, or a fault that repeats the name. -/
def ofName (name : String) : Except Error PowerState :=
  match ofName? name with
  | some state => .ok state
  | none => .error (.unexpectedState name)

theorem ofName?_name (state : PowerState) : ofName? state.name = some state := by
  cases state <;> decide

end PowerState

/-! ## Fields -/

/-- What can be asked of a projector, and forced on an emulated one. -/
inductive StatusField where
  /-- The lamp. -/
  | power
  /-- The video input. -/
  | input
  /-- The gamma table. -/
  | gammaTable
  /-- The gamma value. -/
  | gammaValue
  /-- The signal at the input. -/
  | source
  deriving DecidableEq, Repr

namespace StatusField

/-- All status fields. -/
def all : List StatusField := [power, input, gammaTable, gammaValue, source]

/-- The name of a field. -/
def name : StatusField → String
  | power => "power"
  | input => "input"
  | gammaTable => "gamma_table"
  | gammaValue => "gamma_value"
  | source => "source"

/-- The name of a field where settings are stored. -/
def storedName : StatusField → String
  | power => "Power"
  | input => "Input"
  | gammaTable => "GammaTable"
  | gammaValue => "GammaValue"
  | source => "Source"

/-- The group of the command that asks for a field. -/
def groupName : StatusField → String
  | power => "power_status"
  | input => "input_status"
  | gammaTable => "gamma_table_status"
  | gammaValue => "gamma_value_status"
  | source => "source_status"

/-- The command that asks for a field. -/
def queryName : StatusField → String
  | power => "power_status.query"
  | input => "input_status.query"
  | gammaTable => "gamma_table_status.query"
  | gammaValue => "gamma_value_status.query"
  | source => "source_status.query"

/-- The field of a name. -/
def ofName (name : String) : Except Error StatusField :=
  match all.find? fun field => field.name = name with
  | some field => .ok field
  | none => .error (.config s!"Unknown status field: {name}")

/-- The payloads a projector may answer with, and what they mean. -/
def values : StatusField → List (Bytes × String)
  | power => PowerState.all.map fun state => (state.payload, state.name)
  | input => [
      ([0x30], "S-Video"), ([0x31], "Video"), ([0x32], "Component"), ([0x33], "PC"),
      ([0x36], "HDMI 1"), ([0x37], "HDMI 2")]
  | gammaTable => [
      ([0x30], "Normal"), ([0x31], "A"), ([0x32], "B"), ([0x33], "C"), ([0x34], "Custom 1"),
      ([0x35], "Custom 2"), ([0x36], "Custom 3")]
  | gammaValue => [
      ([0x30], "1.8"), ([0x31], "1.9"), ([0x32], "2.0"), ([0x33], "2.1"), ([0x34], "2.2"),
      ([0x35], "2.3"), ([0x36], "2.4"), ([0x37], "2.5"), ([0x38], "2.6")]
  | source => [
      ([0x00], "JVC Logo"), ([0x30], "No Signal"), ([0x31], "Signal OK")]

end StatusField

end ProjectorControl
