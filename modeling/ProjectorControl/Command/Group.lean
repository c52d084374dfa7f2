import ProjectorControl.Command.ResponseMap
import ProjectorControl.Model
import ProjectorControl.Packet.Basic

/-!
# Groups of commands

Commands come in groups that share a command code.  A command of a group is told from the
others by the bytes that stand first in its payload: some that the whole group shares,
then some of its own, of the same number for every command of the group.

    0x21 0x89 0x01 | 'P' 'M' | 'P' 'M' | '0' '0' | 0x0A     picture_mode_v1.film
                   |  code   |  group  | command |
-/

namespace ProjectorControl

/-- The answers to the query for the model: a payload stands for its whole family. -/
def Model.responses : ResponseMap :=
  .ofEntries (Model.families.map fun family => (family.1, String.intercalate "," family.2))

/-- Where the meaning of the answers to a command is found. -/
inductive AnswerSource where
  /-- Nowhere: the command has no answers. -/
  | none
  /-- In a table of payloads and names. -/
  | table (entries : List (Bytes × String))
  /-- In the list of models. -/
  | models
  deriving DecidableEq, Repr

/-- What the answers to a command mean, for the commands that have answers. -/
def AnswerSource.responses? : AnswerSource → Option ResponseMap
  | none => .none
  | table entries => some (.ofEntries entries)
  | models => some Model.responses

/-- A command within its group. -/
structure CommandEntry where
  /-- The name within the group. -/
  name : String
  /-- The bytes that tell the command from others of its group. -/
  leading : Bytes
  /-- What its answers mean. -/
  answers : AnswerSource
  /-- What the command does, in words. -/
  description : String
  deriving DecidableEq, Repr

/-- A command that only changes something. -/
def CommandEntry.operation (name : String) (leading : Bytes) (description : String) :
    CommandEntry :=
  ⟨name, leading, .none, description⟩

/-- Commands that share a code. -/
structure CommandGroup where
  /-- The name of the group, which all its commands' names begin with. -/
  name : String
  /-- The shared code. -/
  code : Packet.Code
  /-- The bytes that the payloads of all its packets begin with. -/
  leading : Bytes := []
  /-- The commands. -/
  entries : List CommandEntry
  /-- The number of bytes after the leading ones in a packet, if fixed. -/
  payloadLength : Option Nat := some 0
  /-- The number of bytes in an answer, if fixed.  None at all means no answer. -/
  responseLength : Option Nat := some 0
  /-- The models that have these commands.  An empty list stands for all models. -/
  models : List String := []
  deriving DecidableEq, Repr

namespace CommandGroup

/-- Whether the commands of the group are answered with a payload. -/
def isAdvanced (group : CommandGroup) : Bool := group.responseLength ≠ some 0

/-- The number of bytes that tell the commands of the group apart. -/
def entryLength (group : CommandGroup) : Nat :=
  match group.entries with
  | [] => 0
  | entry :: _ => entry.leading.length

/-- Whether all commands of the group have the same number of bytes to tell them apart. -/
def IsUniform (group : CommandGroup) : Prop :=
  ∀ entry ∈ group.entries, entry.leading.length = group.entryLength

instance (group : CommandGroup) : Decidable group.IsUniform :=
  inferInstanceAs (Decidable (∀ _ ∈ _, _))

/-- Whether a model has the commands of the group. -/
def appliesTo (group : CommandGroup) (model : Model) : Bool :=
  group.models.isEmpty || group.models.contains model.name

/-- The group of a query, which has one command. -/
def ofQuery (name : String) (code : Packet.Code) (answers : AnswerSource)
    (responseLength : Nat) (description : String) : CommandGroup where
  name := name
  code := code
  entries := [⟨"query", [], answers, description⟩]
  responseLength := some responseLength

end CommandGroup

end ProjectorControl
