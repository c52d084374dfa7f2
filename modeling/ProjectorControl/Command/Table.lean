import ProjectorControl.Command.Table.Operations
import ProjectorControl.Command.Table.RemoteControl

/-!
# The command table

All groups of commands.  Where a packet fits commands of several groups, the first of them
in this order is meant.
-/

namespace ProjectorControl.CommandTable

/-- Asking what the lamp does. -/
def powerStatus : CommandGroup :=
  .ofQuery "power_status" (.ofChars 'P' 'W') (.table StatusField.power.values) 1
    "Query Power status"

/-- Asking for the video input. -/
def inputStatus : CommandGroup :=
  .ofQuery "input_status" (.ofChars 'I' 'P') (.table StatusField.input.values) 1
    "Query current video input"

/-- Asking for the gamma table. -/
def gammaTableStatus : CommandGroup :=
  .ofQuery "gamma_table_status" (.ofChars 'G' 'T') (.table StatusField.gammaTable.values) 1
    "Query current gamma table selection"

/-- Asking for the gamma value. -/
def gammaValueStatus : CommandGroup :=
  .ofQuery "gamma_value_status" (.ofChars 'G' 'P') (.table StatusField.gammaValue.values) 1
    "Query current gamma value"

/-- Asking whether there is a signal. -/
def sourceStatus : CommandGroup :=
  .ofQuery "source_status" (.ofChars 'S' 'C') (.table StatusField.source.values) 1
    "Query current video source status"

/-- Asking for the model. -/
def modelStatus : CommandGroup :=
  .ofQuery "model_status" (.ofChars 'M' 'D') .models 14 "Query current model code"

/-- All groups, those meant first in front. -/
def groups : List CommandGroup := [
  power, setInput, testPattern, gamma, gammaValue, offTimer, lampPower, infraredRemoteCode,
  triggerOutputSet, clearMotionDrive, anamorphic, pictureModeV1, pictureModeV2,
  pictureModeV3, colourProfile, format3d, conversion2dTo3d, subtitleCorrection3d, lensMemory,
  testCommand, remoteControl, powerStatus, inputStatus, gammaTableStatus, gammaValueStatus,
  sourceStatus, modelStatus]

end ProjectorControl.CommandTable
