/-!
# Lengths of time

A duration is a whole number of nanoseconds below 2^64 seconds.  Its text takes the
largest of the units `s`, `ms`, `µs` and `ns` in which the whole part is not zero, and
writes the fraction without trailing zeros: `2s`, `1.5s`, `999.999999ms`, `1µs`, `0ns`.

A moment is a number of nanoseconds too.  Nobody sleeps longer than thirty years: a sleep
that is meant to be longer ends then, and so does the time that a lamp takes.  The limits of
connections, which end them when nothing happens, are ideal instead: they are taken as they
are set, also beyond thirty years.
-/

namespace ProjectorControl

/-- The number of nanoseconds in a second. -/
def nanosPerSecond : Nat := 1000000000

/-- The durations are the multiples of a nanosecond below this bound. -/
def Duration.bound : Nat := UInt64.size * nanosPerSecond

/-- A length of time, below 2^64 seconds. -/
structure Duration where
  /-- The length in nanoseconds. -/
  nanos : Nat
  /-- Whole seconds fit in 64 bits. -/
  nanos_lt : nanos < Duration.bound
  deriving DecidableEq, Repr

namespace Duration

/-- The duration of a number of nanoseconds, when it is in range. -/
def ofNanos? (n : Nat) : Option Duration :=
  if h : n < bound then some ⟨n, h⟩ else none

/-- Whole seconds, counted by a 64-bit number. -/
def ofSeconds (n : UInt64) : Duration :=
  ⟨n.toNat * nanosPerSecond, Nat.mul_lt_mul_of_pos_right n.toNat_lt (by simp [nanosPerSecond])⟩

/-- Whole milliseconds, counted by a 64-bit number. -/
def ofMillis (n : UInt64) : Duration :=
  ⟨n.toNat * 1000000, by
    have := n.toNat_lt
    simp only [bound, nanosPerSecond, UInt64.size]
    omega⟩

/-- Nothing at all. -/
def zero : Duration := ⟨0, by decide⟩

instance : Inhabited Duration := ⟨zero⟩

/-- Whole seconds, the fraction dropped. -/
def seconds (d : Duration) : Nat := d.nanos / nanosPerSecond

/-- Nanoseconds beyond the whole seconds. -/
def subsecNanos (d : Duration) : Nat := d.nanos % nanosPerSecond

/-- Whole milliseconds, the fraction dropped. -/
def millis (d : Duration) : Nat := d.nanos / 1000000

/-- A duration as seconds and nanoseconds, the latter carried when a second or more. -/
def ofParts? (seconds nanos : Nat) : Option Duration :=
  ofNanos? (seconds * nanosPerSecond + nanos)

/-! ## Text -/

/-- The digits of a fraction `rest / 10 ^ places`, trailing zeros dropped. -/
def fractionDigits (rest places : Nat) : List Char :=
  let digits := (Nat.toDigits 10 rest)
  let padded := List.replicate (places - digits.length) '0' ++ digits
  (padded.reverse.dropWhile (· = '0')).reverse

/-- The value `nanos / 10 ^ places` in decimal, followed by its unit. -/
def decimal (nanos places : Nat) (unit : String) : String :=
  let whole := nanos / Nat.pow 10 places
  let rest := nanos % Nat.pow 10 places
  if rest = 0 then s!"{whole}{unit}"
  else s!"{whole}.{String.ofList (fractionDigits rest places)}{unit}"

/-- The duration in its largest fitting unit. -/
def text (d : Duration) : String :=
  if nanosPerSecond ≤ d.nanos then decimal d.nanos 9 "s"
  else if 1000000 ≤ d.nanos then decimal d.nanos 6 "ms"
  else if 1000 ≤ d.nanos then decimal d.nanos 3 "µs"
  else decimal d.nanos 0 "ns"

end Duration

/-! ## Moments -/

/-- A moment, in nanoseconds since the start. -/
abbrev Moment := Nat

/-- The longest wait: thirty years of 365 days, in nanoseconds. -/
def longestWait : Nat := 30 * 365 * 86400 * nanosPerSecond

/-- How long a sleep of some time lasts, in nanoseconds. -/
def waitLength (nanos : Nat) : Nat := min nanos longestWait

theorem waitLength_eq {nanos : Nat} (h : nanos ≤ longestWait) : waitLength nanos = nanos :=
  Nat.min_eq_left h

theorem waitLength_pos {nanos : Nat} (h : 0 < nanos) : 0 < waitLength nanos :=
  Nat.lt_min.2 ⟨h, by decide⟩

end ProjectorControl
