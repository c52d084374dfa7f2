import ProjectorControl.Bytes
import ProjectorControl.Error

/-!
# Projector models

A projector names its model by a payload of fourteen bytes, `ILAFPJ -- XXXX`.  Several
models share a payload, so a payload stands for a *family*.  The model also decides which
of the overlapping groups of picture modes a packet belongs to.
-/

namespace ProjectorControl

/-- A projector model. -/
structure Model where
  /-- The name on the box. -/
  name : String
  /-- What the projector answers when asked for its model. -/
  statusPayload : Bytes
  deriving DecidableEq, Repr

namespace Model

/-- The payload of a family, from the four bytes that tell the families apart. -/
def familyPayload (a b c d : Char) : Bytes :=
  ['I', 'L', 'A', 'F', 'P', 'J', ' ', '-', '-', ' ', a, b, c, d].map fun x => x.toNat.toUInt8

/-- All known models. -/
def all : List Model := [
  ⟨"DLA-NZ9", familyPayload 'B' '5' 'A' '1'⟩,
  ⟨"DLA-RS4100", familyPayload 'B' '5' 'A' '1'⟩,
  ⟨"DLA-NZ8", familyPayload 'B' '5' 'A' '2'⟩,
  ⟨"DLA-RS3100", familyPayload 'B' '5' 'A' '2'⟩,
  ⟨"DLA-NZ7", familyPayload 'B' '5' 'A' '3'⟩,
  ⟨"DLA-RS2100", familyPayload 'B' '5' 'A' '3'⟩,
  ⟨"DLA-HD350", familyPayload '-' 'X' 'H' '4'⟩,
  ⟨"DLA-RS10", familyPayload '-' 'X' 'H' '7'⟩,
  ⟨"DLA-HD750", familyPayload '-' 'X' 'H' '5'⟩,
  ⟨"DLA-RS20", familyPayload '-' 'X' 'H' '5'⟩,
  ⟨"DLA-HD550", familyPayload '-' 'X' 'H' '8'⟩,
  ⟨"DLA-RS15", familyPayload '-' 'X' 'H' 'A'⟩,
  ⟨"DLA-HD950", familyPayload '-' 'X' 'H' '9'⟩,
  ⟨"DLA-HD990", familyPayload '-' 'X' 'H' '9'⟩,
  ⟨"DLA-RS25", familyPayload '-' 'X' 'H' '9'⟩,
  ⟨"DLA-RS35", familyPayload '-' 'X' 'H' '9'⟩,
  ⟨"DLA-X3", familyPayload '-' 'X' 'H' 'B'⟩,
  ⟨"DLA-RS40", familyPayload '-' 'X' 'H' 'B'⟩,
  ⟨"DLA-X7", familyPayload '-' 'X' 'H' 'C'⟩,
  ⟨"DLA-X9", familyPayload '-' 'X' 'H' 'C'⟩,
  ⟨"DLA-RS50", familyPayload '-' 'X' 'H' 'C'⟩,
  ⟨"DLA-RS60", familyPayload '-' 'X' 'H' 'C'⟩,
  ⟨"DLA-X30", familyPayload '-' 'X' 'H' 'E'⟩,
  ⟨"DLA-RS45", familyPayload '-' 'X' 'H' 'E'⟩,
  ⟨"DLA-X70R", familyPayload '-' 'X' 'H' 'F'⟩,
  ⟨"DLA-X90R", familyPayload '-' 'X' 'H' 'F'⟩,
  ⟨"DLA-RS55", familyPayload '-' 'X' 'H' 'F'⟩,
  ⟨"DLA-RS65", familyPayload '-' 'X' 'H' 'F'⟩]

/-- The models with picture mode codes of two bytes. -/
def x30Generation : List String :=
  ["DLA-X30", "DLA-RS45", "DLA-X70R", "DLA-X90R", "DLA-RS55", "DLA-RS65"]

/-- The models of the generation before. -/
def x3Generation : List String :=
  ["DLA-X3", "DLA-RS40", "DLA-X7", "DLA-X9", "DLA-RS50", "DLA-RS60"]

/-- The models of the first generation. -/
def hdGeneration : List String :=
  ["DLA-HD350", "DLA-HD750", "DLA-HD550", "DLA-HD950", "DLA-HD990", "DLA-RS10", "DLA-RS20",
    "DLA-RS15", "DLA-RS25", "DLA-RS35"]

/-! ## Finding a model -/

/-- Whether two names differ in the case of ASCII letters at most. -/
def sameName (a b : String) : Bool := a.toList.map Char.toLower = b.toList.map Char.toLower

/-- The model of a name, whatever the case of its letters. -/
def find (name : String) : Except Error Model :=
  match all.find? fun model => sameName model.name name with
  | some model => .ok model
  | none => .error (.unknownModel name)

/-- The first model of a list that answers with the given payload. -/
def firstWithPayload? (models : List Model) (payload : Bytes) : Option Model :=
  models.find? fun model => model.statusPayload = payload

/-- The first known model that answers with the given payload. -/
def ofStatusPayload? (payload : Bytes) : Option Model := firstWithPayload? all payload

/-! ## Families -/

/-- Adds a model to the family with its payload, or starts a new family at the end. -/
def addToFamilies (model : Model) : List (Bytes × List String) → List (Bytes × List String)
  | [] => [(model.statusPayload, [model.name])]
  | (payload, names) :: later =>
    if payload = model.statusPayload then (payload, names ++ [model.name]) :: later
    else (payload, names) :: addToFamilies model later

/-- The families of a list of models, in the order of their first members, each with the
names of its members. -/
def familiesOf (models : List Model) : List (Bytes × List String) :=
  models.foldl (fun families model => addToFamilies model families) []

/-- The families of all known models. -/
def families : List (Bytes × List String) := familiesOf all

end Model

end ProjectorControl
