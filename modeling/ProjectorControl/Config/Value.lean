import ProjectorControl.Duration
import ProjectorControl.Net.Address

/-!
# Settings as values

Settings are kept in files as nested values: texts, whole numbers, lists and records.
This module says how such values are read as the settings of this library, and written.
A record may leave out any setting, which then has its default, and may hold names that no
setting has.  A list gives the settings in their order, and the rest have their defaults.
A value of the wrong form is refused, and so is a number with a fraction.
-/

namespace ProjectorControl

/-- A value as it stands in a file of settings. -/
inductive Value where
  /-- Nothing. -/
  | null
  /-- A truth value. -/
  | bool (b : Bool)
  /-- A whole number. -/
  | int (n : Int)
  /-- A number that is written with a fraction or an exponent. -/
  | fraction (written : String)
  /-- A text. -/
  | text (s : String)
  /-- Several values in order. -/
  | list (items : List Value)
  /-- Values by name. -/
  | record (fields : List (String × Value))
  deriving Repr, Inhabited

namespace Value

/-! ## Reading single values -/

/-- Reads a truth value. -/
def toBool? : Value → Option Bool
  | bool b => some b
  | _ => none

/-- Reads a text. -/
def toText? : Value → Option String
  | text s => some s
  | _ => none

/-- Reads a whole number from zero up to, and not including, a bound. -/
def toBounded? (bound : Nat) : Value → Option Nat
  | int n => if 0 ≤ n ∧ n < bound then some n.toNat else none
  | _ => none

/-- Reads a port. -/
def toPort? (v : Value) : Option UInt16 := (v.toBounded? UInt16.size).map fun n => n.toUInt16

/-- Reads a value that may be missing. -/
def toOptional? {α : Type} (read : Value → Option α) : Value → Option (Option α)
  | null => some none
  | v => (read v).map some

/-- Reads a socket address. -/
def toAddress? (v : Value) : Option Net.SocketAddress := v.toText?.bind Net.SocketAddress.ofText?

/-- The value of a name in a record; the last one if the name occurs twice. -/
def field? (name : String) (fields : List (String × Value)) : Option Value :=
  (fields.reverse.find? fun entry => entry.1 = name).map Prod.snd

/-- Reads a duration: seconds and nanoseconds, and nothing else, by name or in this
order. -/
def toDuration? : Value → Option Duration
  | list [s, n] => do
    let s ← s.toBounded? UInt64.size
    let n ← n.toBounded? UInt32.size
    Duration.ofParts? s n
  | record fields => do
    if fields.all fun entry => entry.1 = "secs" || entry.1 = "nanos" then
      let s ← (← field? "secs" fields).toBounded? UInt64.size
      let n ← (← field? "nanos" fields).toBounded? UInt32.size
      Duration.ofParts? s n
    else none
  | _ => none

/-! ## Reading settings -/

/-- Puts one setting into the settings read so far. -/
abbrev Setter (α : Type) := Value → α → Option α

/-- The setter of a setting that is read by `read` and stored by `store`. -/
def setter {α β : Type} (read : Value → Option β) (store : β → α → α) : Setter α :=
  fun v settings => (read v).map fun b => store b settings

/-- Reads settings by name, over their defaults. -/
def readRecord {α : Type} (setters : List (String × Setter α)) (fields : List (String × Value))
    (defaults : α) : Option α :=
  setters.foldlM
    (fun settings (name, set) =>
      match field? name fields with
      | some v => set v settings
      | none => some settings)
    defaults

/-- Reads settings by position, over their defaults.  There may be too few values, and not
too many. -/
def readList {α : Type} : List (String × Setter α) → List Value → α → Option α
  | _, [], settings => some settings
  | [], _ :: _, _ => none
  | (_, set) :: setters, v :: vs, settings => (set v settings).bind (readList setters vs)

/-- Reads settings from a record or a list. -/
def readSettings {α : Type} (setters : List (String × Setter α)) (defaults : α) :
    Value → Option α
  | record fields => readRecord setters fields defaults
  | list items => readList setters items defaults
  | _ => none

/-! ## Writing -/

/-- A duration as seconds and nanoseconds. -/
def ofDuration (d : Duration) : Value :=
  record [("secs", int d.seconds), ("nanos", int d.subsecNanos)]

/-- A value that may be missing. -/
def ofOptional {α : Type} (write : α → Value) : Option α → Value
  | some a => write a
  | none => null

end Value

end ProjectorControl
