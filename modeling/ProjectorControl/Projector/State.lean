import ProjectorControl.Command.Registry
import ProjectorControl.Config.Projector

/-!
# The state of an emulated projector

The values of the five status fields, each held by its name.  A name is taken only if the
response map of the field's query knows it, so that the projector can answer the query.
-/

namespace ProjectorControl

/-- The response map of the query for a field. -/
def StatusField.responseMap (field : StatusField) : Except Error ResponseMap := do
  let query ← registry.get field.queryName
  match query.responses? with
  | some map => .ok map
  | none => .error (.unknownCommand s!"{field.queryName} has no response map")

/-- The value of a status field. -/
structure StatusValue where
  /-- The name of the value. -/
  name : String
  deriving DecidableEq, Repr

/-- The values of the status fields.  A field that was never set has an empty name. -/
structure ProjectorState where
  /-- What the lamp does. -/
  power : StatusValue := ⟨""⟩
  /-- The video input. -/
  input : StatusValue := ⟨""⟩
  /-- The gamma table. -/
  gammaTable : StatusValue := ⟨""⟩
  /-- The gamma value. -/
  gammaValue : StatusValue := ⟨""⟩
  /-- The state of the signal. -/
  source : StatusValue := ⟨""⟩
  deriving DecidableEq, Repr

namespace ProjectorState

/-- The name of the value of a field. -/
def get (s : ProjectorState) : StatusField → String
  | .power => s.power.name
  | .input => s.input.name
  | .gammaTable => s.gammaTable.name
  | .gammaValue => s.gammaValue.name
  | .source => s.source.name

/-- Gives a field a value by its name, whatever the name. -/
def put (s : ProjectorState) (field : StatusField) (name : String) : ProjectorState :=
  match field with
  | .power => { s with power := ⟨name⟩ }
  | .input => { s with input := ⟨name⟩ }
  | .gammaTable => { s with gammaTable := ⟨name⟩ }
  | .gammaValue => { s with gammaValue := ⟨name⟩ }
  | .source => { s with source := ⟨name⟩ }

/-- What the lamp does, if the power field names a power state. -/
def powerState (s : ProjectorState) : Except Error PowerState := PowerState.ofName (s.get .power)

/-- Sets a field to a name of its response map. -/
def set (s : ProjectorState) (field : StatusField) (name : String) :
    Except Error ProjectorState := do
  let map ← field.responseMap
  match map.payloadFor? name with
  | some _ => .ok (s.put field name)
  | none => .error (.unknownStatus field.name name)

/-- The first state, from the settings.  The first field with an unknown value is
reported. -/
def ofConfig (c : EmulatorConfig) : Except Error ProjectorState :=
  StatusField.all.foldlM (fun s field => s.set field (c.initialStatus field)) {}

end ProjectorState

end ProjectorControl
