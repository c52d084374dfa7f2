import ProjectorControl.Config.Client

/-!
# Arguments

How the arguments of a command line are taken apart.  Whatever is recognized is taken out
of the list, and what is left belongs to nobody.

An option is an argument of its own, and its value is the next one, whatever that looks
like.  An option that is joined to its value with an equals sign is not recognized.
-/

namespace ProjectorControl.CommandLine

/-- What is wrong with the arguments. -/
inductive ArgumentFault where
  /-- An argument is missing that stands by itself. -/
  | missing
  /-- An option has no value. -/
  | missingValue (option : String)
  /-- A value cannot be read. -/
  | unreadable (value cause : String)
  deriving DecidableEq, Repr

/-- The wording of a fault. -/
def ArgumentFault.message : ArgumentFault → String
  | missing => "free-standing argument is missing"
  | missingValue option => s!"the '{option}' option doesn't have an associated value"
  | unreadable value cause => s!"failed to parse '{value}': {cause}"

/-- The arguments before and after the first with some property, and that argument. -/
def splitWhere? (p : String → Bool) : List String → Option (List String × String × List String)
  | [] => none
  | arg :: args =>
    if p arg then some ([], arg, args)
    else (splitWhere? p args).map fun (before, found, after) => (arg :: before, found, after)

/-- What comes out of taking something from the arguments, and what is left. -/
abbrev ArgumentReader (α : Type) : Type := StateT (List String) (Except ArgumentFault) α

namespace ArgumentReader

/-- Takes a flag out, and says whether it was there. -/
def flag (name : String) : ArgumentReader Bool := fun args =>
  match splitWhere? (fun arg => arg = name) args with
  | some (before, _, after) => .ok (true, before ++ after)
  | none => .ok (false, args)

/-- Takes the first argument, unless it looks like an option. -/
def command? : ArgumentReader (Option String) := fun args =>
  match args with
  | [] => .ok (none, [])
  | arg :: later =>
    if arg.toList.head? = some '-' then .ok (none, arg :: later) else .ok (some arg, later)

/-- Takes the first argument, whatever it is. -/
def free? : ArgumentReader (Option String) := fun args =>
  match args with
  | [] => .ok (none, [])
  | arg :: later => .ok (some arg, later)

/-- Takes the first argument, which has to be there. -/
def free : ArgumentReader String := do
  match ← free? with
  | some arg => return arg
  | none => throw .missing

/-- Takes out an option and its value, as they stand. -/
def rawOption? (name : String) : ArgumentReader (Option String) := fun args =>
  match splitWhere? (fun arg => arg = name) args with
  | some (before, _, value :: after) => .ok (some value, before ++ after)
  | some (_, _, []) => .error (.missingValue name)
  | none => .ok (none, args)

/-- Takes out an option and reads its value. -/
def option? {α : Type} (name : String) (read : String → Except String α) :
    ArgumentReader (Option α) := do
  match ← rawOption? name with
  | none => return none
  | some value =>
    match read value with
    | .ok a => return some a
    | .error cause => throw (.unreadable value cause)

end ArgumentReader

/-! ## Values -/

/-- Reads any text. -/
def readText (s : String) : Except String String := .ok s

/-- Reads a port. -/
def readPort (s : String) : Except String UInt16 := (Net.readPort s).mapError Net.PortFault.message

/-- Reads a length of time in seconds. -/
def readSeconds (s : String) : Except String Duration :=
  match Text.Decimal.parse s with
  | .error fault => .error fault.message
  | .ok number => (Duration.ofDecimal number).mapError Duration.SecondsFault.message

/-- Reads a socket address. -/
def readAddress (s : String) : Except String Net.SocketAddress :=
  match Net.SocketAddress.ofText? s with
  | some address => .ok address
  | none => .error "invalid socket address syntax"

end ProjectorControl.CommandLine
