import ProjectorControl.Client.Basic

/-!
# Asking for the status

The queries of a client: the power state, the other status fields by the names that their
payloads stand for, and the model.
-/

namespace ProjectorControl.Call

variable {τ : Type} [Transport τ]

/-- The power state that an answer reports. -/
def powerOfResponse (response : Response) : Except Error PowerState :=
  match response.text? with
  | some name => PowerState.ofName name
  | none =>
    .error (.unexpectedState s!"unknown power status payload {response.payload.hex}")

/-- Asks what the lamp does. -/
def powerStatus : Call τ PowerState := do
  let response ← transactByName StatusField.power.queryName []
  ofExcept (powerOfResponse response)

/-- The name that an answer reports for a field. -/
def nameOfResponse (field : StatusField) (response : Response) : Except Error String :=
  match response.text? with
  | some name => .ok name
  | none => .error (.unknownStatus field.name response.payload.hex)

/-- Asks for a status field. -/
def status (field : StatusField) : Call τ String := do
  let response ← transactByName field.queryName []
  ofExcept (nameOfResponse field response)

/-- The model that an answer reports. -/
def modelOfResponse (response : Response) : Except Error Model :=
  match Model.ofStatusPayload? response.payload with
  | some model => .ok model
  | none => .error (.unknownStatus "model" response.payload.hex)

/-- Asks for the model. -/
def modelStatus : Call τ Model := do
  let response ← transactByName modelQueryName []
  ofExcept (modelOfResponse response)

end ProjectorControl.Call
