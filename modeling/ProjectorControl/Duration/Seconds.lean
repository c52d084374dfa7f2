import ProjectorControl.Duration
import ProjectorControl.Text.Decimal

/-!
# Durations in seconds

A time limit is written as a number of seconds with a fraction.  The number is taken as
the nearest binary number of 53 bits, and that is rounded to whole nanoseconds, a half to
the even neighbour.
-/

namespace ProjectorControl.Duration

open ProjectorControl.Text

/-- Why a number of seconds is no duration. -/
inductive SecondsFault where
  /-- It is below zero. -/
  | negative
  /-- It is 2^64 or more, or no number. -/
  | tooBig
  deriving DecidableEq, Repr

/-- The wording of a fault. -/
def SecondsFault.message : SecondsFault → String
  | negative => "cannot convert float seconds to Duration: value is negative"
  | tooBig => "cannot convert float seconds to Duration: value is either too big or NaN"

/-- The nanoseconds in a binary number of seconds. -/
def nanosOfBinary (b : Binary) : Nat :=
  if b.exponent < 0 then roundQuotient (b.mantissa * nanosPerSecond) (1 <<< (-b.exponent).toNat)
  else (b.mantissa <<< b.exponent.toNat) * nanosPerSecond

/-- The binary number nearest to `digits * 10 ^ exponent`, or none if that is far beyond
every duration.  A number far below the least one counts as zero. -/
def binaryOfDecimal? (digits : Nat) (exponent : Int) : Option Binary :=
  let size : Int := (Nat.toDigits 10 digits).length + exponent
  if digits = 0 ∨ size < -400 then some ⟨0, 0⟩
  else if 30 < size then none
  else if exponent < 0 then some (.ofQuotient digits (Nat.pow 10 (-exponent).toNat))
  else some (.ofQuotient (digits * Nat.pow 10 exponent.toNat) 1)

/-- The duration of a number of seconds. -/
def ofDecimal : Decimal → Except SecondsFault Duration
  | .notANumber | .infinite false => .error .tooBig
  | .infinite true => .error .negative
  | .finite negative digits exponent =>
    match binaryOfDecimal? digits exponent with
    | none => .error (if negative then .negative else .tooBig)
    | some b =>
      if negative ∧ b.mantissa ≠ 0 then .error .negative
      else
        match ofNanos? (nanosOfBinary b) with
        | some d => .ok d
        | none => .error .tooBig

/-- Whether a number of seconds is more than zero. -/
def isPositive : Decimal → Bool
  | .notANumber | .infinite true => false
  | .infinite false => true
  | .finite negative digits exponent =>
    match binaryOfDecimal? digits exponent with
    | none => !negative
    | some b => !negative && b.mantissa ≠ 0

end ProjectorControl.Duration
