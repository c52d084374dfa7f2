import ProjectorControl.Net.Address
import ProjectorControl.Text.Blank
import ProjectorControl.Error

/-!
# Host specifiers

How a user says which projector is meant:

    projector.local          a name or address, on the default port
    192.168.1.50:20554       with a port
    [fe80::1]:20554          an address with colons and a port
    tcp://projector.local    the same with a scheme
    sddp://                  the first projector that announces itself
    sddp://hint              the projector that announces itself under a name

No specifier at all means the first projector that announces itself.
-/

namespace ProjectorControl

open ProjectorControl.Net

/-- Which projector is meant. -/
inductive HostSpec where
  /-- The one at a host and port. -/
  | tcp (host : String) (port : UInt16)
  /-- One that announces itself, under any name or under a given one. -/
  | sddp (hint : Option String)
  deriving DecidableEq, Repr

namespace HostSpec

/-- The scheme of hosts. -/
def tcpScheme : List Char := "tcp://".toList

/-- The scheme of announcements. -/
def sddpScheme : List Char := "sddp://".toList

/-- The rest of a text after a given start. -/
def dropStart? (start text : List Char) : Option (List Char) :=
  if start.isPrefixOf text then some (text.drop start.length) else none

/-- Whether a text holds a pattern anywhere. -/
def holds (pattern : List Char) : List Char → Bool
  | [] => pattern.isEmpty
  | c :: cs => pattern.isPrefixOf (c :: cs) || holds pattern cs

/-- The texts before and after the first of a given character. -/
def splitFirst? (at_ : Char) : List Char → Option (List Char × List Char)
  | [] => none
  | c :: cs =>
    if c = at_ then some ([], cs)
    else (splitFirst? at_ cs).map fun (before, after) => (c :: before, after)

/-- The texts before and after the last of a given character. -/
def splitLast? (at_ : Char) (cs : List Char) : Option (List Char × List Char) :=
  (splitFirst? at_ cs.reverse).map fun (after, before) => (before.reverse, after.reverse)

/-- The port in a list of characters. -/
def readPort? (cs : List Char) : Option UInt16 := portOfText? (String.ofList cs)

/-- The host and port in a text without scheme.  Brackets set off a host that may hold
colons; an address with colons may also stand alone; otherwise the last colon is in front
of the port. -/
def splitHostPort? (text : List Char) (defaultPort : UInt16) : Option (List Char × UInt16) :=
  match text with
  | '[' :: bracketed =>
    match splitFirst? ']' bracketed with
    | none => none
    | some (host, []) => some (host, defaultPort)
    | some (host, ':' :: port) => (readPort? port).map fun p => (host, p)
    | some (_, _ :: _) => none
  | _ =>
    if (whole (readIpAddress text)).isSome then some (text, defaultPort)
    else
      match splitLast? ':' text with
      | some (host, port) => (readPort? port).map fun p => (host, p)
      | none => some (text, defaultPort)

/-- Reads a specifier, with the port to use where none is given. -/
def parse (spec : String) (defaultPort : UInt16) : Except Error HostSpec :=
  let chars := Text.trimChars spec.toList
  let trimmed := String.ofList chars
  if chars = [] then .ok (.sddp none)
  else
    match dropStart? sddpScheme chars with
    | some [] => .ok (.sddp none)
    | some hint => .ok (.sddp (some (String.ofList hint)))
    | none =>
      let rest := (dropStart? tcpScheme chars).getD chars
      if holds "://".toList rest then
        .error (.invalidHost s!"unsupported scheme in {Text.quoted trimmed}")
      else
        match splitHostPort? rest defaultPort with
        | none => .error (.invalidHost trimmed)
        | some ([], _) => .error (.invalidHost s!"missing host in {Text.quoted trimmed}")
        | some (host, port) => .ok (.tcp (String.ofList host) port)

/-- A specifier in full.  A host with colons stands in brackets. -/
def text : HostSpec → String
  | .tcp host port =>
    if ':' ∈ host.toList then s!"tcp://[{host}]:{port.toNat}" else s!"tcp://{host}:{port.toNat}"
  | .sddp (some hint) => s!"sddp://{hint}"
  | .sddp none => "sddp://"

end HostSpec

/-! ## Resolution -/

/-- A way to find projectors that announce themselves, given the name asked for and the
port to use where an announcement has none. -/
abbrev Discovery := Option String → UInt16 → Except Error SocketAddress

/-- Finds nothing. -/
def Discovery.nothing : Discovery := fun hint _ =>
  let target := hint.getD "any projector"
  .error (.discoveryFailed s!"no discovery mechanism configured to find {target}")

/-- A way to look up the addresses of a host name, or the reason why there are none. -/
abbrev NameService := String → Except String (List IpAddress)

/-- Knows no names. -/
def NameService.nothing : NameService := fun _ =>
  .error "failed to lookup address information: Temporary failure in name resolution"

/-- The address of the projector that is meant.  Texts that are addresses need no name
service. -/
def HostSpec.resolve (spec : HostSpec) (names : NameService) (discovery : Discovery)
    (defaultPort : UInt16) : Except Error SocketAddress :=
  match spec with
  | .sddp hint => discovery hint defaultPort
  | .tcp host port =>
    match IpAddress.ofText? host with
    | some ip => .ok (.ofIp ip port)
    | none =>
      match names host with
      | .error reason =>
        .error (.connect s!"{host}:{port.toNat}" s!"name resolution failed: {reason}")
      | .ok [] => .error (.connect s!"{host}:{port.toNat}" "name resolved to no addresses")
      | .ok (ip :: _) => .ok (.ofIp ip port)

end ProjectorControl
