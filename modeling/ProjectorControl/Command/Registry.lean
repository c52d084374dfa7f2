import ProjectorControl.Command.Table

/-!
# The registry of commands

A registry holds the commands of a list of groups, in the order of the groups, and finds
them in two ways: by name, and by a packet that they could have produced.  For the second
it keeps the commands sorted by kind and code, so that only few have to be compared with
the packet.  The order among those is the order of the groups.
-/

namespace ProjectorControl

/-! ## Definitions -/

/-- A command with the group it belongs to. -/
structure CommandDefinition where
  /-- The group. -/
  group : CommandGroup
  /-- The command within the group. -/
  entry : CommandEntry
  deriving DecidableEq, Repr

namespace CommandDefinition

/-- The full name, such as `power.on`. -/
def name (d : CommandDefinition) : String := d.group.name ++ "." ++ d.entry.name

/-- Whether the command is answered with a payload. -/
def isAdvanced (d : CommandDefinition) : Bool := d.group.isAdvanced

/-- The kind of the command's packets. -/
def kind (d : CommandDefinition) : Packet.Kind := .command d.isAdvanced

/-- The code of the command's packets. -/
def code (d : CommandDefinition) : Packet.Code := d.group.code

/-- The bytes in front of the caller's own in a packet's payload. -/
def payloadLeading (d : CommandDefinition) : Bytes := d.group.leading ++ d.entry.leading

/-- The bytes that every packet of the command begins with. -/
def packetLeading (d : CommandDefinition) : Bytes :=
  d.kind.byte :: magic ++ d.code.bytes ++ d.payloadLeading

/-- The length of the payload of every packet of the command, if fixed. -/
def packetPayloadLength? (d : CommandDefinition) : Option Nat :=
  d.group.payloadLength.map fun n => d.payloadLeading.length + n

/-- Whether a packet may be this command: it begins with the command's bytes, and its
payload has the fixed length, if there is one. -/
def matchesPacket (d : CommandDefinition) (packet : Packet) : Bool :=
  d.packetLeading.isPrefixOf packet.bytes &&
    match d.packetPayloadLength? with
    | some n => packet.payload.length = n
    | none => true

/-- The meaning of the answers, if the command has answers. -/
def responses? (d : CommandDefinition) : Option ResponseMap := d.entry.answers.responses?

/-- The name that a payload stands for in an answer to this command. -/
def responseText? (d : CommandDefinition) (payload : Bytes) : Option String :=
  d.responses?.bind fun map => map.get? payload

end CommandDefinition

/-- The commands of a group. -/
def CommandGroup.definitions (group : CommandGroup) : List CommandDefinition :=
  group.entries.map fun entry => ⟨group, entry⟩

/-! ## The index -/

/-- What the index sorts commands by: whether they are queries, and their code. -/
abbrev CommandKey := Bool × Packet.Code

/-- The key of a command. -/
def CommandDefinition.key (d : CommandDefinition) : CommandKey := (d.isAdvanced, d.code)

/-- Commands by their key, each list in the order in which the commands were added. -/
abbrev CommandIndex := List (CommandKey × List CommandDefinition)

namespace CommandIndex

/-- Adds a command at the end of the list of its key. -/
def add (d : CommandDefinition) : CommandIndex → CommandIndex
  | [] => [(d.key, [d])]
  | (key, known) :: later =>
    if key = d.key then (key, known ++ [d]) :: later else (key, known) :: add d later

/-- The commands of a key. -/
def lookup (key : CommandKey) (index : CommandIndex) : List CommandDefinition :=
  match index.find? fun row => row.1 = key with
  | some row => row.2
  | none => []

end CommandIndex

/-! ## Registries -/

/-- A set of commands that can be found by name and by packet. -/
structure Registry where
  /-- The commands, in the order of their groups. -/
  commands : List CommandDefinition
  /-- The commands by kind and code. -/
  index : CommandIndex
  deriving Repr

namespace Registry

/-- The registry of a list of groups. -/
def ofGroups (groups : List CommandGroup) : Registry :=
  let commands := groups.flatMap CommandGroup.definitions
  { commands := commands
    index := commands.foldl (fun index d => index.add d) [] }

/-- What is required of the groups of a registry: within a group the commands are told
apart by equally many bytes, and no two commands have one name. -/
def Accepts (groups : List CommandGroup) : Prop :=
  (∀ group ∈ groups, group.IsUniform) ∧
    ((groups.flatMap CommandGroup.definitions).map CommandDefinition.name).Nodup

/-- The command of a name, if there is one.  No two commands have one name (`Registry.Accepts`),
so to look through all of them finds what an index by name would (`Registry.get_eq_ok_iff`). -/
def get? (registry : Registry) (name : String) : Option CommandDefinition :=
  registry.commands.find? fun d => d.name = name

/-- The command of a name. -/
def get (registry : Registry) (name : String) : Except Error CommandDefinition :=
  match registry.get? name with
  | some d => .ok d
  | none => .error (.unknownCommand name)

/-- The commands that a command packet may be, as far as the packet tells. -/
def candidates (registry : Registry) (packet : Packet) : List CommandDefinition :=
  (registry.index.lookup (packet.kind.isAdvanced, packet.code)).filter
    fun d => d.matchesPacket packet

/-- Drops the commands that a model does not have, unless that would leave none. -/
def narrow (model : Model) (found : List CommandDefinition) : List CommandDefinition :=
  if 1 < found.length ∧ found.any fun d => d.group.appliesTo model then
    found.filter fun d => d.group.appliesTo model
  else found

/-- The commands that a packet may be, in the order of the table.  A response is none.  If
the model is known, the commands of other models are dropped as far as that is possible. -/
def resolve (registry : Registry) (packet : Packet) (model : Option Model) :
    List CommandDefinition :=
  if packet.isCommand then
    match model with
    | none => registry.candidates packet
    | some m => narrow m (registry.candidates packet)
  else []

/-- The number of commands. -/
def size (registry : Registry) : Nat := registry.commands.length

end Registry

/-- The registry of all known commands. -/
def registry : Registry := .ofGroups CommandTable.groups

end ProjectorControl
