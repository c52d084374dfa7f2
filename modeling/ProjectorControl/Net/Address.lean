import ProjectorControl.Bytes

/-!
# Network addresses

The text forms of addresses on the network: four decimal numbers, eight groups of
hexadecimal digits in which one run of zero groups may be left out, and either with a
port.  Readers take characters from the front of a text and give back the rest.  The
printed form is the canonical one: a longest run of at least two zero groups is left out,
the first of several, and an address that embeds four decimal numbers shows them.
-/

namespace ProjectorControl.Net

/-! ## Numbers -/

/-- The value of a digit in a base up to sixteen. -/
def digitValue? (base : Nat) (c : Char) : Option Nat :=
  let code := c.toNat
  let value :=
    if 0x30 ≤ code ∧ code ≤ 0x39 then code - 0x30
    else if 0x61 ≤ code ∧ code ≤ 0x66 then code - 0x61 + 10
    else if 0x41 ≤ code ∧ code ≤ 0x46 then code - 0x41 + 10
    else base
  if value < base then some value else none

/-- The digits at the front of a text, and the rest. -/
def takeDigits (base : Nat) : List Char → List Nat × List Char
  | [] => ([], [])
  | c :: cs =>
    match digitValue? base c with
    | some d => let (ds, rest) := takeDigits base cs; (d :: ds, rest)
    | none => ([], c :: cs)

/-- The number that digits stand for. -/
def ofDigits (base : Nat) (ds : List Nat) : Nat := ds.foldl (fun n d => n * base + d) 0

/-- Reads a number of at most `most` decimal digits and no spare zero in front. -/
def readOctet : List Char → Option (UInt8 × List Char)
  | cs =>
    let (ds, rest) := takeDigits 10 cs
    let value := ofDigits 10 ds
    if ds = [] ∨ 3 < ds.length ∨ (ds.head? = some 0 ∧ 1 < ds.length) ∨ 255 < value then none
    else some (value.toUInt8, rest)

/-- Reads a group of one to four hexadecimal digits. -/
def readGroup (cs : List Char) : Option (UInt16 × List Char) :=
  let (ds, rest) := takeDigits 16 cs
  if ds = [] ∨ 4 < ds.length then none else some ((ofDigits 16 ds).toUInt16, rest)

/-- Reads a decimal number below a bound, with any zeros in front. -/
def readBounded (bound : Nat) (cs : List Char) : Option (Nat × List Char) :=
  let (ds, rest) := takeDigits 10 cs
  let value := ofDigits 10 ds
  if ds = [] ∨ bound ≤ value then none else some (value, rest)

/-- Reads one given character. -/
def readChar (expected : Char) : List Char → Option (List Char)
  | [] => none
  | c :: cs => if c = expected then some cs else none

/-! ## Addresses -/

/-- An address of four bytes. -/
structure Ipv4 where
  /-- The first byte. -/
  a : UInt8
  /-- The second byte. -/
  b : UInt8
  /-- The third byte. -/
  c : UInt8
  /-- The last byte. -/
  d : UInt8
  deriving DecidableEq, Repr

/-- An address of eight groups of sixteen bits. -/
structure Ipv6 where
  /-- The groups. -/
  groups : List UInt16
  /-- There are eight of them. -/
  length_eq : groups.length = 8
  deriving DecidableEq, Repr

/-- An address of either kind. -/
inductive IpAddress where
  /-- Four bytes. -/
  | v4 (address : Ipv4)
  /-- Eight groups. -/
  | v6 (address : Ipv6)
  deriving DecidableEq, Repr

/-- Reads four numbers with dots between them. -/
def readIpv4 (cs : List Char) : Option (Ipv4 × List Char) := do
  let (a, cs) ← readOctet cs
  let cs ← readChar '.' cs
  let (b, cs) ← readOctet cs
  let cs ← readChar '.' cs
  let (c, cs) ← readOctet cs
  let cs ← readChar '.' cs
  let (d, cs) ← readOctet cs
  some (⟨a, b, c, d⟩, cs)

/-- The two groups that four bytes make. -/
def Ipv4.groups (ip : Ipv4) : List UInt16 :=
  [ip.a.toUInt16 * 256 + ip.b.toUInt16, ip.c.toUInt16 * 256 + ip.d.toUInt16]

/-- Skips the colon between two groups.  There is none in front of the first. -/
def skipSeparator (first : Bool) (cs : List Char) : Option (List Char) :=
  if first then some cs else readChar ':' cs

/-- Reads up to `room` groups with colons between them.  Four decimal numbers may stand
for the last two groups; nothing follows those, and the flag says that they were seen. -/
def readGroups : (room : Nat) → (first : Bool) → List Char →
    (List UInt16 × Bool) × List Char
  | 0, _, cs => (([], false), cs)
  | room + 1, first, cs =>
    let embedded := if 0 < room then (skipSeparator first cs).bind readIpv4 else none
    match embedded with
    | some (ip, rest) => ((ip.groups, true), rest)
    | none =>
      match (skipSeparator first cs).bind readGroup with
      | none => (([], false), cs)
      | some (group, rest) =>
        let ((groups, decimal), last) := readGroups room false rest
        ((group :: groups, decimal), last)

/-- Reads eight groups, or fewer around a pair of colons that stands for zeros. -/
def readIpv6 (cs : List Char) : Option (Ipv6 × List Char) :=
  let ((front, decimal), rest) := readGroups 8 true cs
  if full : front.length = 8 then some (⟨front, full⟩, rest)
  else if decimal then none
  else do
    let rest ← readChar ':' rest
    let rest ← readChar ':' rest
    let ((back, _), rest) := readGroups (7 - front.length) true rest
    let all := front ++ List.replicate (8 - front.length - back.length) 0 ++ back
    if full : all.length = 8 then some (⟨all, full⟩, rest) else none

/-- Reads an address of either kind. -/
def readIpAddress (cs : List Char) : Option (IpAddress × List Char) :=
  match readIpv4 cs with
  | some (ip, rest) => some (.v4 ip, rest)
  | none => (readIpv6 cs).map fun (ip, rest) => (.v6 ip, rest)

/-- The result of a reader that has used the whole text. -/
def whole {α : Type} (result : Option (α × List Char)) : Option α :=
  match result with
  | some (value, []) => some value
  | _ => none

/-- The address that a text stands for. -/
def IpAddress.ofText? (s : String) : Option IpAddress := whole (readIpAddress s.toList)

/-! ### Printing -/

/-- The four bytes in decimal. -/
def Ipv4.text (ip : Ipv4) : String := s!"{ip.a.toNat}.{ip.b.toNat}.{ip.c.toNat}.{ip.d.toNat}"

/-- The start and length of the first longest run of zeros, counted from position `at`. -/
def longestZeros : (position : Nat) → List UInt16 → Nat × Nat
  | _, [] => (0, 0)
  | position, g :: gs =>
    let run := ((g :: gs).takeWhile (· = 0)).length
    let later := longestZeros (position + 1) gs
    if later.2 ≤ run ∧ 0 < run then (position, run) else later

/-- A group in hexadecimal, without zeros in front. -/
def groupText (g : UInt16) : String := String.ofList (Nat.toDigits 16 g.toNat)

/-- Groups with colons between them. -/
def groupsText (gs : List UInt16) : String := String.intercalate ":" (gs.map groupText)

/-- The canonical text of eight groups. -/
def Ipv6.text (ip : Ipv6) : String :=
  match ip.groups with
  | [0, 0, 0, 0, 0, 0xFFFF, high, low] =>
    let embedded : Ipv4 :=
      ⟨(high / 256).toUInt8, (high % 256).toUInt8, (low / 256).toUInt8, (low % 256).toUInt8⟩
    s!"::ffff:{embedded.text}"
  | groups =>
    let (start, run) := longestZeros 0 groups
    if 2 ≤ run then groupsText (groups.take start) ++ "::" ++ groupsText (groups.drop (start + run))
    else groupsText groups

/-! ## Addresses with ports -/

/-- Where a server listens. -/
inductive SocketAddress where
  /-- Four bytes and a port. -/
  | v4 (address : Ipv4) (port : UInt16)
  /-- Eight groups, a port, and the number of the interface, zero for any. -/
  | v6 (address : Ipv6) (port : UInt16) (scope : UInt32)
  deriving DecidableEq, Repr

namespace SocketAddress

/-- An address with a port. -/
def ofIp (ip : IpAddress) (port : UInt16) : SocketAddress :=
  match ip with
  | .v4 address => v4 address port
  | .v6 address => v6 address port 0

/-- Reads four bytes, a colon and a port. -/
def readV4 (cs : List Char) : Option (SocketAddress × List Char) := do
  let (ip, cs) ← readIpv4 cs
  let cs ← readChar ':' cs
  let (port, cs) ← readBounded UInt16.size cs
  some (v4 ip port.toUInt16, cs)

/-- Reads the number of an interface, if there is one. -/
def readScope (cs : List Char) : Nat × List Char :=
  match (readChar '%' cs).bind (readBounded UInt32.size) with
  | some (scope, rest) => (scope, rest)
  | none => (0, cs)

/-- Reads eight groups in brackets, a colon and a port. -/
def readV6 (cs : List Char) : Option (SocketAddress × List Char) := do
  let cs ← readChar '[' cs
  let (ip, cs) ← readIpv6 cs
  let (scope, cs) := readScope cs
  let cs ← readChar ']' cs
  let cs ← readChar ':' cs
  let (port, cs) ← readBounded UInt16.size cs
  some (v6 ip port.toUInt16 scope.toUInt32, cs)

/-- The address that a text stands for. -/
def ofText? (s : String) : Option SocketAddress :=
  whole (match readV4 s.toList with
    | some found => some found
    | none => readV6 s.toList)

/-- The canonical text of an address with a port. -/
def text : SocketAddress → String
  | v4 address port => s!"{address.text}:{port.toNat}"
  | v6 address port scope =>
    if scope = 0 then s!"[{address.text}]:{port.toNat}"
    else s!"[{address.text}%{scope.toNat}]:{port.toNat}"

/-- The port. -/
def port : SocketAddress → UInt16
  | v4 _ port => port
  | v6 _ port _ => port

end SocketAddress

/-! ## Ports -/

/-- Why a text is no port. -/
inductive PortFault where
  /-- There is no text. -/
  | empty
  /-- A character is no digit. -/
  | invalidDigit
  /-- The number is 65536 or more. -/
  | tooLarge
  deriving DecidableEq, Repr

/-- The wording of a fault. -/
def PortFault.message : PortFault → String
  | empty => "cannot parse integer from empty string"
  | invalidDigit => "invalid digit found in string"
  | tooLarge => "number too large to fit in target type"

/-- Reads the digits of a port from the left.  The first character at which it goes wrong
decides what the fault is. -/
def readPortDigits (value : Nat) : List Char → Except PortFault UInt16
  | [] => .ok value.toUInt16
  | c :: cs =>
    match digitValue? 10 c with
    | none => .error .invalidDigit
    | some d =>
      if value * 10 + d < 65536 then readPortDigits (value * 10 + d) cs else .error .tooLarge

/-- Reads a port: decimal digits after an optional plus sign. -/
def readPort (s : String) : Except PortFault UInt16 :=
  match s.toList with
  | [] => .error .empty
  | ['+'] => .error .invalidDigit
  | '+' :: digits => readPortDigits 0 digits
  | digits => readPortDigits 0 digits

/-- The port that a text stands for, if it is one. -/
def portOfText? (s : String) : Option UInt16 := (readPort s).toOption

end ProjectorControl.Net
