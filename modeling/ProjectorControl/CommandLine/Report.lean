import ProjectorControl.Bytes

/-!
# Reports

What a program leaves behind: the text it wrote to its output, the text it wrote about
troubles, and its exit code.  A trouble is told together with its cause.
-/

namespace ProjectorControl.CommandLine

/-- What a program leaves behind. -/
structure Report where
  /-- What it wrote. -/
  output : String := ""
  /-- What it wrote about troubles. -/
  troubles : String := ""
  /-- Its exit code. -/
  code : UInt8 := 0
  /-- Whether it goes on until it is interrupted, before it exits. -/
  lasting : Bool := false
  deriving DecidableEq, Repr

/-- A trouble that ends a program. -/
structure Trouble where
  /-- What could not be done. -/
  message : String
  /-- Why. -/
  cause : Option String := none
  deriving DecidableEq, Repr

/-- A text with four blanks in front of each line. -/
def indented (s : String) : String :=
  String.ofList ("    ".toList ++ s.toList.flatMap fun c =>
    if c = '\n' then "\n    ".toList else [c])

/-- The wording of a trouble and its cause. -/
def Trouble.text (trouble : Trouble) : String :=
  match trouble.cause with
  | none => s!"Error: {trouble.message}\n"
  | some cause =>
    let cause := indented cause
    s!"Error: {trouble.message}\n\nCaused by:\n{cause}\n"

/-- The report of a program that a trouble has ended. -/
def Report.ofTrouble (trouble : Trouble) : Report := { troubles := trouble.text, code := 1 }

/-- A report with something said about troubles in front. -/
def Report.warn (report : Report) (warning : String) : Report :=
  { report with troubles := warning ++ report.troubles }

/-- The report of what was written, or of a trouble. -/
def Report.ofExcept : Except Trouble String → Report
  | .ok output => { output := output }
  | .error trouble => .ofTrouble trouble

/-- A result, with what could not be done if there is none. -/
def explain {α ε : Type} (context : String) (message : ε → String) (result : Except ε α) :
    Except Trouble α :=
  result.mapError fun fault => ⟨context, some (message fault)⟩

end ProjectorControl.CommandLine
