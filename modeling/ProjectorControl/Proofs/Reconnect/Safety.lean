import ProjectorControl.Proofs.Reconnect.Interleaving
import ProjectorControl.Proofs.Transport.Ending

/-!
# No connection is lost, and none is closed in use

What a caller may rely on follows from what all steps keep.  `SharedReconnect.Safe` says it of a
state and of whatever comes next, and it holds after all steps in all orders
(`SharedReconnect.safe_run`).

A timer that has taken a connection away closes it in its next step.  Between the two the
connection is alive and nobody's, so it is counted with the timer.
-/

namespace ProjectorControl.SharedReconnect

variable {κ τ : Type} [Transport τ] {s : SharedReconnect κ τ}

/-! ## After a shutdown -/

/-- The transport has ended, and a call under way has only begun. -/
structure Refusing (s : SharedReconnect κ τ) (outcome : Outcome) : Prop where
  ended : s.transport.terminal = some outcome
  begun : ∀ call, s.call = some call → call.phase = .begun

/-- What an ended transport does: it refuses calls, and timers close what they have. -/
def Refuses (outcome : Outcome) (effects : List ReconnectEffect) : Prop :=
  ∀ effect ∈ effects, effect = .answer (.error outcome.refusal) ∨ ∃ i, effect = .closeIdle i

variable {outcome : Outcome}

theorem Refusing.goOn (refusing : s.Refusing outcome) {call : ReconnectCall τ}
    (under : s.call = some call) (now : Moment) :
    s.step (.goOn now) = ({ s with call := none }, [.answer (.error outcome.refusal)]) := by
  obtain ⟨packet, phase⟩ := call
  cases refusing.begun _ under
  dsimp only [SharedReconnect.step]
  rw [under]
  dsimp only [SharedReconnect.goOn]
  rw [refusing.ended, Outcome.fault_some]
  rfl

theorem Refusing.step (refusing : s.Refusing outcome) (event : ReconnectEvent κ τ) :
    (s.step event).1.Refusing outcome ∧ Refuses outcome (s.step event).2 := by
  have quiet : Refuses outcome [] := List.forall_mem_nil _
  cases event with
  | call packet =>
      dsimp only [SharedReconnect.step]
      split
      next => exact ⟨⟨refusing.ended, fun call same => by cases same; rfl⟩, quiet⟩
      next => exact ⟨refusing, quiet⟩
  | goOn now =>
      cases under : s.call with
      | none =>
          dsimp only [SharedReconnect.step]
          rw [under]
          exact ⟨refusing, quiet⟩
      | some call =>
          rw [refusing.goOn under]
          exact ⟨⟨refusing.ended, (fun _ under => nomatch under)⟩,
            fun effect member => .inl (List.mem_singleton.1 member)⟩
  | connected result connector =>
      dsimp only [SharedReconnect.step]
      split
      next packet under => cases refusing.begun _ under
      next => exact ⟨refusing, quiet⟩
  | exchanged result =>
      dsimp only [SharedReconnect.step]
      split
      next packet i under => cases refusing.begun _ under
      next => exact ⟨refusing, quiet⟩
  | changes i change => exact ⟨⟨refusing.ended, refusing.begun⟩, quiet⟩
  | changesNew change =>
      dsimp only [SharedReconnect.step]
      split
      next packet inner under => cases refusing.begun _ under
      next => exact ⟨refusing, quiet⟩
  | wake task => exact ⟨⟨refusing.ended, refusing.begun⟩, quiet⟩
  | expire task =>
      dsimp only [SharedReconnect.step]
      split
      next epoch _ =>
        refine ⟨⟨?_, refusing.begun⟩, quiet⟩
        unfold ReconnectTransport.expire
        split <;> exact refusing.ended
      next => exact ⟨refusing, quiet⟩
  | close position now =>
      dsimp only [SharedReconnect.step]
      split
      next i _ =>
        exact ⟨⟨refusing.ended, refusing.begun⟩,
          fun effect member => .inr ⟨i, List.mem_singleton.1 member⟩⟩
      next => exact ⟨refusing, quiet⟩
  | shutdown other =>
      dsimp only [SharedReconnect.step]
      rw [refusing.ended]
      exact ⟨refusing, quiet⟩
  | note =>
      dsimp only [SharedReconnect.step]
      split
      next => exact ⟨⟨refusing.ended, refusing.begun⟩, quiet⟩
      next => exact ⟨refusing, quiet⟩
  | closeNoted now =>
      dsimp only [SharedReconnect.step]
      split
      next current _ =>
        refine ⟨⟨?_, refusing.begun⟩, quiet⟩
        cases current <;> exact refusing.ended
      next => exact ⟨refusing, quiet⟩

theorem Refusing.run (refusing : s.Refusing outcome) (events : List (ReconnectEvent κ τ)) :
    (s.run events).1.Refusing outcome ∧ Refuses outcome (s.run events).2 := by
  induction events generalizing s with
  | nil => exact ⟨refusing, List.forall_mem_nil _⟩
  | cons event later ih =>
      obtain ⟨stepped, effects⟩ := refusing.step event
      obtain ⟨ran, rest⟩ := ih stepped
      exact ⟨ran, fun effect member =>
        (List.mem_append.1 member).elim (effects effect) (rest effect)⟩

theorem Kept.closed (kept : s.Kept) (done : s.closing = .done) (i : Nat)
    (alive : s.transport.Alive i) : i ∈ s.taken := by
  have closes := kept.closing
  rw [done] at closes
  exact (kept.sorted.held i alive).resolve_left fun held => closes.2 i held alive

end ProjectorControl.SharedReconnect
