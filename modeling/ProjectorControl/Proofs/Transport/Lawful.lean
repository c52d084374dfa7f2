import ProjectorControl.Proofs.Transport.Log
import ProjectorControl.Transport.Emulated
import ProjectorControl.Transport.Reconnect
import ProjectorControl.Transport.Scripted
import ProjectorControl.Transport.Stream.Connection

/-!
# Ends that last

The class `Transport` says what can be done with a transport, and leaves open what comes of it.
Whoever replaces connections that have ended relies on more: a shutdown ends a transport, and a
transport that has ended does not come back.  `LawfulTransport` says so, and every transport here
is lawful.
-/

namespace ProjectorControl

/-- A transport has ended. -/
def Ended {τ : Type} [Transport τ] (t : τ) : Prop := (Transport.outcome t).isSome = true

instance {τ : Type} [Transport τ] (t : τ) : Decidable (Ended t) := inferInstanceAs (Decidable (_ = _))

/-- A shutdown ends a transport, and nothing brings it back. -/
class LawfulTransport (τ : Type) [Transport τ] : Prop where
  ended_shutdown : ∀ (outcome : Outcome) (moment : Moment) (t : τ),
    Ended (Transport.shutdown outcome moment t)
  ended_advance : ∀ (moment : Moment) (t : τ), Ended t → Ended (Transport.advance moment t)
  ended_exchange : ∀ (packet : Packet) (now : Moment) (interruption : Option Interruption) (t : τ),
    Ended t → Ended (Transport.exchange packet now interruption t).transport

theorem ended_iff {τ : Type} [Transport τ] {t : τ} :
    Ended t ↔ ∃ outcome, Transport.outcome t = some outcome :=
  Option.isSome_iff_exists

instance : LawfulTransport ScriptedTransport where
  ended_shutdown outcome _ t := t.terminal.isSome_resolve outcome
  ended_advance _ _ ended := ended
  ended_exchange packet now interruption t ended := by
    obtain ⟨outcome, terminal⟩ := ended_iff.1 ended
    change Ended (t.exchange packet now interruption).transport
    unfold ScriptedTransport.exchange
    rw [show t.terminal = some outcome from terminal]
    exact ended

instance : LawfulTransport EmulatedTransport where
  ended_shutdown outcome _ t := t.terminal.isSome_resolve outcome
  ended_advance _ _ ended := ended
  ended_exchange packet now interruption t ended := by
    obtain ⟨outcome, terminal⟩ := ended_iff.1 ended
    change Ended (t.exchange packet now interruption).transport
    unfold EmulatedTransport.exchange
    rw [show t.terminal = some outcome from terminal]
    exact ended

/-- A connection that has ended refuses a call and stays as it is. -/
theorem StreamConnection.exchange_of_ended {π : Type} [Net.Peer π] {c : StreamConnection π}
    (ended : Ended c) (packet : Packet) (now : Moment) (interruption : Option Interruption) :
    (c.exchange packet now interruption).transport = c := by
  obtain ⟨outcome, terminal⟩ := ended_iff.1 ended
  have refused : c.transport.step (.call packet) =
      (c.transport, [.answer (.error c.transport.terminal.fault)]) := by
    change c.transport.begin packet = _
    unfold StreamTransport.begin
    rw [show c.transport.terminal = some outcome from terminal]
  unfold exchange Running.apply
  rw [refused]
  rfl

instance {π : Type} [Net.Peer π] : LawfulTransport (StreamConnection π) where
  ended_shutdown outcome _ c := by
    change ((c.transport.shutdown outcome).terminal).isSome = true
    unfold StreamTransport.shutdown
    split
    next terminal => rw [terminal]; rfl
    next => rfl
    next => rfl
  ended_advance _ _ ended := ended
  ended_exchange packet now interruption c ended := by
    change Ended (c.exchange packet now interruption).transport
    rw [c.exchange_of_ended ended]
    exact ended

variable {σ τ κ : Type} [Transport σ] [Transport τ]

instance [LawfulTransport τ] : LawfulTransport (Logged τ) where
  ended_shutdown outcome moment t := LawfulTransport.ended_shutdown outcome moment t.transport
  ended_advance moment t := LawfulTransport.ended_advance moment t.transport
  ended_exchange packet now interruption t :=
    LawfulTransport.ended_exchange packet now interruption t.transport

instance [LawfulTransport σ] [LawfulTransport τ] : LawfulTransport (σ ⊕ τ) where
  ended_shutdown outcome moment
    | .inl t => LawfulTransport.ended_shutdown outcome moment t
    | .inr t => LawfulTransport.ended_shutdown outcome moment t
  ended_advance moment
    | .inl t => LawfulTransport.ended_advance moment t
    | .inr t => LawfulTransport.ended_advance moment t
  ended_exchange packet now interruption
    | .inl t => LawfulTransport.ended_exchange packet now interruption t
    | .inr t => LawfulTransport.ended_exchange packet now interruption t

end ProjectorControl
