import ProjectorControl.Duration

/-!
# Faults

One type for everything that can go wrong between a caller and a projector.  A fault
belongs to one of five categories, which tell a caller what to do about it, and has one
wording.
-/

namespace ProjectorControl

/-- The broad cause of a fault. -/
inductive Error.Category where
  /-- A peer or caller broke the rules of the wire format. -/
  | protocol
  /-- The connection could not be made or kept. -/
  | network
  /-- The password was refused. -/
  | authentication
  /-- The projector is in a state that does not allow the request. -/
  | state
  /-- A setting, name or host is not valid. -/
  | configuration
  deriving DecidableEq, Repr

/-- A fault of the library. -/
inductive Error where
  /-- Bytes that are no packet, or parts that make none. -/
  | malformedPacket (detail : String)
  /-- No command has this name. -/
  | unknownCommand (name : String)
  /-- No command has this packet. -/
  | unrecognizedCommand (detail : String)
  /-- A packet that does not fit the command it is bound to. -/
  | malformedCommand (detail : String)
  /-- Packets in an order or shape that the exchange does not allow. -/
  | protocolViolation (detail : String)
  /-- No connection to an address. -/
  | connect (address reason : String)
  /-- The connection ended. -/
  | connectionClosed (detail : String)
  /-- The greeting or the reply to the password request was wrong. -/
  | handshakeFailed (detail : String)
  /-- The projector refused the password. -/
  | authenticationFailed
  /-- Nothing happened within the allowed time. -/
  | timeout (operation : String) (limit : Duration)
  /-- The transport was shut down before the request. -/
  | transportClosed
  /-- The projector needs attention before it can be switched. -/
  | emergencyState
  /-- The projector reports a state that does not fit the request. -/
  | unexpectedState (detail : String)
  /-- A session was asked for a change of state that does not exist. -/
  | invalidStateTransition (source target : String)
  /-- A status field has no such value. -/
  | unknownStatus (field value : String)
  /-- No projector model has this name. -/
  | unknownModel (name : String)
  /-- A host specifier that cannot be read. -/
  | invalidHost (detail : String)
  /-- No projector was found on the network. -/
  | discoveryFailed (detail : String)
  /-- A setting is not valid. -/
  | config (detail : String)
  /-- The operating system refused an operation. -/
  | io (detail : String)
  deriving DecidableEq, Repr

namespace Error

/-- The wording of a fault. -/
def message : Error → String
  | malformedPacket detail => s!"Malformed packet: {detail}"
  | unknownCommand name => s!"Unknown command name: {name}"
  | unrecognizedCommand detail => s!"Unrecognized command packet: {detail}"
  | malformedCommand detail => s!"Malformed command: {detail}"
  | protocolViolation detail => s!"Protocol violation: {detail}"
  | connect address reason => s!"Failed to connect to {address}: {reason}"
  | connectionClosed detail => s!"Connection closed: {detail}"
  | handshakeFailed detail => s!"Handshake failed: {detail}"
  | authenticationFailed => "Authentication failed (bad password?)"
  | timeout operation limit => s!"{operation} timed out after {limit.millis}ms"
  | transportClosed => "Transport is shut down"
  | emergencyState => "Projector is in emergency state"
  | unexpectedState detail => s!"Unexpected projector state: {detail}"
  | invalidStateTransition source target =>
    s!"Invalid state transition from {source} to {target}"
  | unknownStatus field value => s!"Unknown {field} value: {value}"
  | unknownModel name => s!"Unknown projector model: {name}"
  | invalidHost detail => s!"Invalid host specifier: {detail}"
  | discoveryFailed detail => s!"Projector discovery failed: {detail}"
  | config detail => s!"Configuration error: {detail}"
  | io detail => s!"IO error: {detail}"

/-- The name of the kind of a fault. -/
def name : Error → String
  | malformedPacket _ => "MalformedPacket"
  | unknownCommand _ => "UnknownCommand"
  | unrecognizedCommand _ => "UnrecognizedCommand"
  | malformedCommand _ => "MalformedCommand"
  | protocolViolation _ => "ProtocolViolation"
  | connect _ _ => "Connect"
  | connectionClosed _ => "ConnectionClosed"
  | handshakeFailed _ => "HandshakeFailed"
  | authenticationFailed => "AuthenticationFailed"
  | timeout _ _ => "Timeout"
  | transportClosed => "TransportClosed"
  | emergencyState => "EmergencyState"
  | unexpectedState _ => "UnexpectedState"
  | invalidStateTransition _ _ => "InvalidStateTransition"
  | unknownStatus _ _ => "UnknownStatus"
  | unknownModel _ => "UnknownModel"
  | invalidHost _ => "InvalidHost"
  | discoveryFailed _ => "DiscoveryFailed"
  | config _ => "Config"
  | io _ => "Io"

/-- The broad cause of a fault. -/
def category : Error → Category
  | malformedPacket _ | unknownCommand _ | unrecognizedCommand _ | malformedCommand _
  | protocolViolation _ | handshakeFailed _ => .protocol
  | connect _ _ | connectionClosed _ | timeout _ _ | transportClosed | discoveryFailed _
  | io _ => .network
  | authenticationFailed => .authentication
  | emergencyState | unexpectedState _ | invalidStateTransition _ _ => .state
  | unknownStatus _ _ | unknownModel _ | invalidHost _ | config _ => .configuration

/-- Whether a fault is an expired time limit. -/
def isTimeout : Error → Bool
  | timeout _ _ => true
  | _ => false

end Error

/-- The name of a category. -/
def Error.Category.name : Error.Category → String
  | .protocol => "Protocol"
  | .network => "Network"
  | .authentication => "Authentication"
  | .state => "State"
  | .configuration => "Configuration"

end ProjectorControl
