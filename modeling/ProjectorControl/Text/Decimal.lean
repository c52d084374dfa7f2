/-!
# Decimal numbers

The text form of a number with a fraction and an exponent, such as `-12.5e-3`, and the
binary number of 53 significant bits nearest to it.  The text is read exactly, so the
rounding happens once.
-/

namespace ProjectorControl.Text

/-! ## Reading -/

/-- A number as it is written. -/
inductive Decimal where
  /-- The digits, read as a whole number, times a power of ten. -/
  | finite (negative : Bool) (digits : Nat) (exponent : Int)
  /-- Beyond all numbers. -/
  | infinite (negative : Bool)
  /-- No number at all, as the result of a calculation may be. -/
  | notANumber
  deriving DecidableEq, Repr

/-- Why a text is no number. -/
inductive DecimalFault where
  /-- There is no text. -/
  | empty
  /-- The text does not follow the grammar. -/
  | invalid
  deriving DecidableEq, Repr

/-- The wording of a fault. -/
def DecimalFault.message : DecimalFault → String
  | empty => "cannot parse float from empty string"
  | invalid => "invalid float literal"

namespace Decimal

/-- The value of a run of decimal digits. -/
def digitsValue (cs : List Char) : Nat := cs.foldl (fun n c => n * 10 + (c.toNat - 0x30)) 0

/-- A sign in front of a text, and the rest.  No sign means plus. -/
def takeSign : List Char → Bool × List Char
  | '-' :: cs => (true, cs)
  | '+' :: cs => (false, cs)
  | cs => (false, cs)

/-- The exponent at the end of a number: nothing, or a letter, a sign and digits. -/
def readExponent : List Char → Option Int
  | [] => some 0
  | c :: cs =>
    if c ≠ 'e' ∧ c ≠ 'E' then none
    else
      let (negative, digits) := takeSign cs
      if digits = [] ∨ !digits.all Char.isDigit then none
      else if negative then some (-(digitsValue digits : Int))
      else some (digitsValue digits)

/-- A number without its sign: digits with a point anywhere among them or none, then the
exponent. -/
def readUnsigned (negative : Bool) (cs : List Char) : Option Decimal :=
  let whole := cs.takeWhile Char.isDigit
  let rest := cs.dropWhile Char.isDigit
  let (fraction, rest) := match rest with
    | '.' :: after => (after.takeWhile Char.isDigit, after.dropWhile Char.isDigit)
    | _ => ([], rest)
  if whole = [] ∧ fraction = [] then none
  else
    (readExponent rest).map fun exponent =>
      finite negative (digitsValue (whole ++ fraction)) (exponent - fraction.length)

/-- The number that a text stands for. -/
def parse (s : String) : Except DecimalFault Decimal :=
  let cs := s.toList
  let (negative, rest) := takeSign cs
  let word := String.ofList (rest.map Char.toLower)
  if cs = [] then .error .empty
  else if word = "inf" ∨ word = "infinity" then .ok (infinite negative)
  else if word = "nan" then .ok notANumber
  else
    match readUnsigned negative rest with
    | some number => .ok number
    | none => .error .invalid

end Decimal

/-! ## Rounding -/

/-- The whole number nearest to a quotient; of two, the even one. -/
def roundQuotient (numerator denominator : Nat) : Nat :=
  let q := numerator / denominator
  let twice := 2 * (numerator % denominator)
  if twice < denominator ∨ (twice = denominator ∧ q % 2 = 0) then q else q + 1

/-- A whole number times a power of two. -/
structure Binary where
  /-- The whole number. -/
  mantissa : Nat
  /-- The power. -/
  exponent : Int
  deriving DecidableEq, Repr

/-- The number `numerator / denominator` with 53 significant bits, or with the bits down to
`2 ^ -1074` if those are fewer. -/
def Binary.ofQuotient (numerator denominator : Nat) : Binary :=
  let size : Int := Nat.log2 numerator - Nat.log2 denominator
  let scaled (exponent : Int) : Nat :=
    if exponent < 0 then roundQuotient (numerator <<< (-exponent).toNat) denominator
    else roundQuotient numerator (denominator <<< exponent.toNat)
  let low := size - 53
  let fits (exponent : Int) : Bool :=
    if exponent < 0 then numerator <<< (-exponent).toNat < denominator <<< 53
    else numerator < denominator <<< (exponent.toNat + 53)
  let exponent := if fits low then low else low + 1
  let exponent := max exponent (-1074)
  ⟨scaled exponent, exponent⟩

end ProjectorControl.Text
