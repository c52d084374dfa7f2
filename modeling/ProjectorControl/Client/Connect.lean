import ProjectorControl.Client.Basic
import ProjectorControl.Config.Client
import ProjectorControl.Transport.Reconnect
import ProjectorControl.Transport.Stream.Connection

/-!
# Clients over a network

How the settings of a client become a client: the host is found anew for each connection,
and a connection is either made at once and held, or made on demand.
-/

namespace ProjectorControl

open ProjectorControl.Net

/-- What makes connections to one projector. -/
structure StreamConnector (ν : Type) where
  /-- Which projector. -/
  host : HostSpec
  /-- The port of projectors that announce none. -/
  defaultPort : UInt16
  /-- The password to send, if any. -/
  password : Option String
  /-- How long each step of an exchange may take. -/
  limit : Duration
  /-- How projectors that announce themselves are found. -/
  discovery : Discovery
  /-- How host names are looked up. -/
  names : NameService
  /-- The network. -/
  network : ν

namespace StreamConnector

/-- A connector as the settings say. -/
def ofConfig {ν : Type} (c : ClientConfig) (network : ν)
    (discovery : Discovery := Discovery.nothing) (names : NameService := NameService.nothing) :
    Except Error (StreamConnector ν) :=
  c.hostSpec.map fun host =>
    { host := host, defaultPort := c.port, password := c.secret, limit := c.timeout,
      discovery := discovery, names := names, network := network }

/-- Finds the projector and connects to it. -/
def connect {ν π : Type} [Network ν π] [Peer π] (k : StreamConnector ν) (now : Moment) :
    Connected (StreamConnector ν) (StreamConnection π) :=
  match k.host.resolve k.names k.discovery k.defaultPort with
  | .error fault => ⟨.error fault, 0, k⟩
  | .ok address =>
    let made := StreamConnection.connect address k.password k.limit now k.network
    ⟨made.result, made.latency, { k with network := made.connector }⟩

instance {ν π : Type} [Network ν π] [Peer π] :
    Connector (StreamConnector ν) (StreamConnection π) where
  connect now k := k.connect now

/-- A host specifier for display. -/
def hostText : HostSpec → String
  | .tcp host port =>
    let host := Text.quoted host
    s!"Tcp \x7b host: {host}, port: {port.toNat} \x7d"
  | .sddp hint =>
    let hint := ClientConfig.shownOption hint
    s!"Sddp \x7b hint: {hint} \x7d"

/-- The connector for display.  The password is not shown. -/
def text {ν : Type} (k : StreamConnector ν) : String :=
  let fields := String.intercalate ", " [
    s!"host: {hostText k.host}",
    s!"default_port: {k.defaultPort.toNat}",
    s!"timeout: {k.limit.text}",
    ".."]
  s!"TcpConnector \x7b {fields} \x7d"

end StreamConnector

/-- The transport of a client over a network: a connection that is held, or connections
made on demand. -/
abbrev ClientTransport (ν π : Type) : Type :=
  StreamConnection π ⊕ ReconnectTransport (StreamConnector ν) (StreamConnection π)

/-- A client as the settings say.  A bad model is reported before a bad host, and without
reconnecting the first connection is made at once. -/
def Client.connect {ν π : Type} [Network ν π] [Peer π] (c : ClientConfig) (network : ν)
    (discovery : Discovery := Discovery.nothing) (names : NameService := NameService.nothing)
    (now : Moment := 0) : Except Error (Client (ClientTransport ν π)) := do
  let model ← c.resolvedModel
  let connector ← StreamConnector.ofConfig c network discovery names
  if c.autoReconnect then
    return {
      transport := .inr { connector := connector, idleTimeout := c.idleDisconnect }
      model := model
      stablePowerTimeout := c.stablePowerTimeout
      now := now }
  else
    let made := connector.connect now
    let connection ← made.result
    return {
      transport := .inl connection
      model := model
      stablePowerTimeout := c.stablePowerTimeout
      now := now + made.latency }

end ProjectorControl
