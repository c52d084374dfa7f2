import ProjectorControl.Text.Printable

/-!
# Quoted text

Texts shown inside messages stand between double quotes, with everything written out
that a reader could not see or would misread: the quote and the backslash are escaped, tab,
return, line feed and NUL have short names, and every other character that is invisible
or extends its neighbour is given by its hexadecimal code.
-/

namespace ProjectorControl.Text

/-- The hexadecimal code of a character, without leading zeros, between braces. -/
def codeEscape (c : Char) : List Char :=
  ['\\', 'u', '\x7b'] ++ Nat.toDigits 16 c.toNat ++ ['\x7d']

/-- One character as it stands between two quotes of some kind, which is escaped too. -/
def escapeChar (quote : Char) (c : Char) : List Char :=
  if c = '\t' then ['\\', 't']
  else if c = '\r' then ['\\', 'r']
  else if c = '\n' then ['\\', 'n']
  else if c.toNat = 0 then ['\\', '0']
  else if c = '\\' ∨ c = quote then ['\\', c]
  else if extendsPrevious c then codeEscape c
  else if isVisible c then [c]
  else codeEscape c

/-- A text between double quotes.  Single quotes are left alone. -/
def quoted (s : String) : String :=
  String.ofList ('"' :: s.toList.flatMap (escapeChar '"') ++ ['"'])

/-- A character between single quotes.  A double quote is left alone. -/
def quotedChar (c : Char) : String :=
  String.ofList ('\'' :: escapeChar '\'' c ++ ['\''])

end ProjectorControl.Text
