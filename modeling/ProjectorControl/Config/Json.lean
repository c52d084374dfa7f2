import ProjectorControl.Config.Value

/-!
# Settings as text

The text form of values is JSON.  A number counts as whole only if it is written without a
fraction, without an exponent, and not as a negative zero.

A reader gives what stands at the front of a text, and the rest of the text.  It is
recursive on a number of steps.  The length of the text is enough, because each step uses
up a character of it or ends.
-/

namespace ProjectorControl.Json

/-! ## Reading -/

/-- Skips white space. -/
def skipBlanks (cs : List Char) : List Char := cs.dropWhile Char.isWhitespace

/-- Reads the four hexadecimal digits of an escape. -/
def readCode : List Char → Option (Nat × List Char)
  | a :: b :: c :: d :: rest => do
    let a ← Net.digitValue? 16 a
    let b ← Net.digitValue? 16 b
    let c ← Net.digitValue? 16 c
    let d ← Net.digitValue? 16 d
    some (((a * 16 + b) * 16 + c) * 16 + d, rest)
  | _ => none

/-- The character of a short escape.  Any character that has no meaning of its own stands for
itself. -/
def shortEscape (c : Char) : Char :=
  if c = 'n' then '\n'
  else if c = 't' then '\t'
  else if c = 'r' then '\r'
  else if c = 'b' then Char.ofNat 0x08
  else if c = 'f' then Char.ofNat 0x0C
  else c

/-- Reads a character that is written by its code, and by two codes if it needs them. -/
def readCoded (cs : List Char) : Option (Char × List Char) := do
  let (high, rest) ← readCode cs
  if 0xD800 ≤ high ∧ high < 0xDC00 then
    match rest with
    | '\\' :: 'u' :: rest => do
      let (low, rest) ← readCode rest
      some (Char.ofNat (0x10000 + (high - 0xD800) * 0x400 + (low - 0xDC00)), rest)
    | _ => none
  else some (Char.ofNat high, rest)

/-- Reads a text up to its closing quote. -/
def readText : (steps : Nat) → List Char → Option (List Char × List Char)
  | 0, _ | _, [] => none
  | _ + 1, '"' :: rest => some ([], rest)
  | steps + 1, '\\' :: 'u' :: rest => do
    let (c, rest) ← readCoded rest
    let (cs, rest) ← readText steps rest
    some (c :: cs, rest)
  | steps + 1, '\\' :: c :: rest => do
    let (cs, rest) ← readText steps rest
    some (shortEscape c :: cs, rest)
  | steps + 1, c :: rest => do
    let (cs, rest) ← readText steps rest
    some (c :: cs, rest)

/-- Whether a character may belong to a number. -/
def isNumeric (c : Char) : Bool := c.isDigit || c ∈ ['+', '-', '.', 'e', 'E']

/-- Reads a number. -/
def readNumber (cs : List Char) : Option (Value × List Char) :=
  let written := String.ofList (cs.takeWhile isNumeric)
  let rest := cs.dropWhile isNumeric
  if written = "" then none
  else if written = "-0" then some (.fraction written, rest)
  else
    match written.toInt? with
    | some n => some (.int n, rest)
    | none => some (.fraction written, rest)

mutual

/-- Reads a value. -/
def readValue (size : Nat) : (steps : Nat) → List Char → Option (Value × List Char)
  | 0, _ => none
  | steps + 1, cs =>
    match skipBlanks cs with
    | '"' :: rest => (readText size rest).map fun (s, rest) => (.text (String.ofList s), rest)
    | '[' :: rest => (readItems size steps (skipBlanks rest)).map fun (vs, rest) => (.list vs, rest)
    | '\x7b' :: rest =>
      (readFields size steps (skipBlanks rest)).map fun (fields, rest) => (.record fields, rest)
    | 'n' :: 'u' :: 'l' :: 'l' :: rest => some (.null, rest)
    | 't' :: 'r' :: 'u' :: 'e' :: rest => some (.bool true, rest)
    | 'f' :: 'a' :: 'l' :: 's' :: 'e' :: rest => some (.bool false, rest)
    | cs => readNumber cs

/-- Reads the rest of a list. -/
def readItems (size : Nat) : (steps : Nat) → List Char → Option (List Value × List Char)
  | 0, _ => none
  | _ + 1, ']' :: rest => some ([], rest)
  | steps + 1, cs => do
    let (v, rest) ← readValue size steps cs
    match skipBlanks rest with
    | ',' :: rest =>
      let (vs, rest) ← readItems size steps (skipBlanks rest)
      some (v :: vs, rest)
    | ']' :: rest => some ([v], rest)
    | _ => none

/-- Reads the rest of a record. -/
def readFields (size : Nat) : (steps : Nat) → List Char → Option (List (String × Value) × List Char)
  | 0, _ => none
  | _ + 1, '\x7d' :: rest => some ([], rest)
  | steps + 1, '"' :: rest => do
    let (name, rest) ← readText size rest
    match skipBlanks rest with
    | ':' :: rest =>
      let (v, rest) ← readValue size steps rest
      match skipBlanks rest with
      | ',' :: rest =>
        let (fields, rest) ← readFields size steps (skipBlanks rest)
        some ((String.ofList name, v) :: fields, rest)
      | '\x7d' :: rest => some ([(String.ofList name, v)], rest)
      | _ => none
    | _ => none
  | _ + 1, _ => none

end

/-- The value that a text stands for. -/
def parse (s : String) : Option Value :=
  let cs := s.toList
  match readValue cs.length (cs.length + 1) cs with
  | some (v, rest) => if skipBlanks rest = [] then some v else none
  | none => none

/-! ## Writing -/

/-- A character between quotes.  Quotes and backslashes are escaped, and control characters
are written by their codes. -/
def writeChar (c : Char) : List Char :=
  if c = '"' ∨ c = '\\' then ['\\', c]
  else if c.toNat < 0x20 then
    ['\\', 'u', '0', '0'] ++ Bytes.hexPair c.toNat.toUInt8
  else [c]

/-- A text between quotes. -/
def writeText (s : String) : String :=
  String.ofList ('"' :: s.toList.flatMap writeChar ++ ['"'])

mutual

/-- The text of a value. -/
def write : Value → String
  | .null => "null"
  | .bool b => if b then "true" else "false"
  | .int n => toString n
  | .fraction written => written
  | .text s => writeText s
  | .list items => "[" ++ String.intercalate "," (writeItems items) ++ "]"
  | .record fields => "\x7b" ++ String.intercalate "," (writeFields fields) ++ "\x7d"

/-- The texts of the items of a list. -/
def writeItems : List Value → List String
  | [] => []
  | v :: vs => write v :: writeItems vs

/-- The texts of the fields of a record. -/
def writeFields : List (String × Value) → List String
  | [] => []
  | (name, v) :: fields => (writeText name ++ ":" ++ write v) :: writeFields fields

end

end ProjectorControl.Json
