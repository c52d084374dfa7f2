import ProjectorControl.Bytes
import ProjectorControl.Client.Connect
import ProjectorControl.Client.Power
import ProjectorControl.Client.Status
import ProjectorControl.Command.Registry
import ProjectorControl.CommandLine.Run
import ProjectorControl.Config.Json
import ProjectorControl.Config.Projector
import ProjectorControl.Error
import ProjectorControl.Main
import ProjectorControl.Net.Host
import ProjectorControl.Packet.Framing
import ProjectorControl.Projector.Emulation
import ProjectorControl.Projector.Server
import ProjectorControl.Projector.Session
import ProjectorControl.Proofs.Session.Commands
import ProjectorControl.Proofs.Session.Segmentation
import ProjectorControl.Response
import ProjectorControl.Transport.Emulated
import ProjectorControl.Transport.Reconnect
import ProjectorControl.Transport.Scripted
import ProjectorControl.Transport.Stream.Connection
import ProjectorControl.Transport.Turns
import ProjectorControl.Proofs.Command.Recognition
import ProjectorControl.Proofs.Command.Responding
import ProjectorControl.Proofs.Projector.Dispatch
import ProjectorControl.Proofs.Projector.Step
import ProjectorControl.Proofs.Projector.Faults
import ProjectorControl.Proofs.Projector.PowerCycle
import ProjectorControl.Proofs.Projector.Timing
import ProjectorControl.Proofs.Projector.Reach
import ProjectorControl.Proofs.Projector.Completion
import ProjectorControl.Proofs.Projector.Pending
import ProjectorControl.Proofs.Projector.Isolation
import ProjectorControl.Proofs.Server.Shown
import ProjectorControl.Proofs.Packet.Language
import ProjectorControl.Proofs.Framing.Packets
import ProjectorControl.Proofs.Transport.Reading
import ProjectorControl.Proofs.Transport.Step
import ProjectorControl.Proofs.Transport.Exchange
import ProjectorControl.Proofs.Transport.Abandonment
import ProjectorControl.Proofs.Transport.Agreement
import ProjectorControl.Proofs.Transport.Admission
import ProjectorControl.Proofs.Transport.Correlation
import ProjectorControl.Proofs.Transport.Ending
import ProjectorControl.Proofs.Transport.Turns
import ProjectorControl.Proofs.Client.PowerSafety
import ProjectorControl.Proofs.Client.Arrival
import ProjectorControl.Proofs.Reconnect.Connecting
import ProjectorControl.Proofs.Reconnect.Safety
import ProjectorControl.Proofs.Reconnect.Undisturbed
import ProjectorControl.Proofs.Command.Resolution
import ProjectorControl.Proofs.Framing.Truncation
import ProjectorControl.Proofs.Session.Representation
import ProjectorControl.Proofs.Projector.Carrying
import ProjectorControl.Proofs.Projector.Arming
import ProjectorControl.Proofs.Projector.Deadlines
import ProjectorControl.Proofs.Command.Translation
import ProjectorControl.Proofs.Command.Answering
import ProjectorControl.Proofs.Client.Polling
import ProjectorControl.Proofs.Server.Shutdown
import ProjectorControl.Proofs.Client.Mirror
import ProjectorControl.Proofs.Client.Overflow
import ProjectorControl.Proofs.Net.Host
import ProjectorControl.Proofs.Server.Sessions
import ProjectorControl.Proofs.Framing.Progress
import ProjectorControl.Proofs.Command.Families
