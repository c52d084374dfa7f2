import Mathlib.Data.List.Induction
import Mathlib.Logic.Relation
import ProjectorControl.Proofs.Session.Segmentation

/-!
# What a session holds

A session keeps two buffers and a state, and `Session.Regular` says how they belong together.  What
it has of the client's request is a part of the expected one, as long as it waits for more, and is
forgotten once the client was let in.  What it has of the client's packets is an unfinished line,
so it never holds as much as a longest packet, whatever it is sent.  The two states in which it
would be in the midst of something are passed through within a call.

A call keeps this unless it is one of two: bytes that are refused, and an end that has not begun
(`Session.Step.regular`).  `Session.Orderly` excludes just these.  Every change of state is made of
allowed ones (`SessionState.LeadsTo`), and those never lead back to a live state.
-/

namespace ProjectorControl

/-! ## Changes of state -/

namespace SessionState

/-- One state leads to another over any number of allowed changes. -/
def LeadsTo : SessionState → SessionState → Prop :=
  Relation.ReflTransGen fun source target => source.mayBecome target = true

theorem LeadsTo.refl (state : SessionState) : state.LeadsTo state := Relation.ReflTransGen.refl

theorem LeadsTo.single {source target : SessionState} (allowed : source.mayBecome target = true) :
    source.LeadsTo target :=
  Relation.ReflTransGen.single allowed

theorem LeadsTo.trans {first second third : SessionState} (earlier : first.LeadsTo second)
    (later : second.LeadsTo third) : first.LeadsTo third :=
  Relation.ReflTransGen.trans earlier later

/-- A live session may always begin to close. -/
theorem mayBecome_closing {source : SessionState} (live : source.isLive = true) :
    source.mayBecome .closing = true := by
  cases source with
  | closing => cases live
  | closed => cases live
  | _ => rfl

/-- A session that has begun to close comes to its end. -/
theorem leadsTo_closed {source : SessionState} (dead : source.isLive = false) :
    source.LeadsTo .closed := by
  cases source with
  | closing => exact .single rfl
  | closed => exact .refl _
  | _ => cases dead

/-- From the states of closing, only the end can be reached. -/
theorem not_isLive_of_mayBecome {source target : SessionState}
    (allowed : source.mayBecome target = true) (dead : source.isLive = false) :
    target.isLive = false := by
  cases source with
  | closing =>
      cases target with
      | closed => rfl
      | _ => cases allowed
  | closed =>
      cases target with
      | _ => cases allowed
  | _ => cases dead

/-- A session that has left the live states does not come back to them. -/
theorem LeadsTo.not_isLive {source target : SessionState} (leads : source.LeadsTo target)
    (dead : source.isLive = false) : target.isLive = false := by
  induction leads with
  | refl => exact dead
  | tail _ allowed ih => exact not_isLive_of_mayBecome allowed ih

end SessionState

namespace Session

open Framing (Decoder frames)

/-! ## Regular sessions -/

/-- The buffers of a session that expects a password belong to its state. -/
structure Regular (password : Option String) (s : Session) : Prop where
  /-- The expected request stays the same. -/
  expected_eq : s.expected = Handshake.requestWith password
  /-- The bytes of packets are an unfinished line. -/
  resting : s.decoder.Resting
  /-- Nothing was heard before the greeting. -/
  fresh : s.state = .unconnected → s.request = []
  /-- A part of the request was heard, but not all of it. -/
  waiting : s.state = .authenticating → s.request <+: s.expected ∧ s.request ≠ s.expected
  /-- The request is forgotten once it was granted. -/
  granted : s.state = .ready → s.request = []
  /-- The greeting is not left half done. -/
  ne_greeting : s.state ≠ .greeting
  /-- No packet is left half handed over. -/
  ne_running : s.state ≠ .running

theorem regular_new (password : Option String) : (new password).Regular password where
  expected_eq := rfl
  resting := Decoder.resting_new
  fresh _ := rfl
  waiting := nofun
  granted _ := rfl
  ne_greeting := nofun
  ne_running := nofun

variable {password : Option String} {s after : Session}

/-- Draining a decoder that rested, without a fault, lets it rest again. -/
theorem resting_of_drain {d rest : Decoder} {packets : List Packet} {bytes : Bytes}
    (resting : d.Resting) (drained : (d.feed bytes).drain = ((packets, none), rest)) :
    rest.Resting := by
  rw [resting.drain_feed bytes] at drained
  simp only [Prod.mk.injEq] at drained
  obtain ⟨⟨-, sound⟩, rfl⟩ := drained
  exact Decoder.resting_leftBy (Framing.cuts_frames _) sound

namespace Regular

/-- A part of the request is kept as long as more is awaited. -/
theorem await (h : s.Regular password) {request : Bytes} (fits : request <+: s.expected)
    (unequal : request ≠ s.expected) :
    Regular password { s with state := .authenticating, request := request } where
  expected_eq := h.expected_eq
  resting := h.resting
  fresh := nofun
  waiting _ := ⟨fits, unequal⟩
  granted := nofun
  ne_greeting := nofun
  ne_running := nofun

/-- A session that is ready holds nothing but an unfinished line. -/
theorem serve (h : s.Regular password) {rest : Decoder} (resting : rest.Resting) :
    Regular password { s with state := .ready, request := [], decoder := rest } where
  expected_eq := h.expected_eq
  resting := resting
  fresh := nofun
  waiting := nofun
  granted _ := rfl
  ne_greeting := nofun
  ne_running := nofun

/-- It does not matter what request a session holds that neither waits nor is ready. -/
theorem leave (h : s.Regular password) {state : SessionState} {request : Bytes}
    (elsewhere : state = .rejecting ∨ state.isLive = false) :
    Regular password { s with state := state, request := request } where
  expected_eq := h.expected_eq
  resting := h.resting
  fresh := by rintro rfl; simp [SessionState.isLive] at elsewhere
  waiting := by rintro rfl; simp [SessionState.isLive] at elsewhere
  granted := by rintro rfl; simp [SessionState.isLive] at elsewhere
  ne_greeting := by rintro rfl; simp [SessionState.isLive] at elsewhere
  ne_running := by rintro rfl; simp [SessionState.isLive] at elsewhere

end Regular

/-- A call keeps a session regular and changes its state as allowed, unless it is refused bytes or
ends a session that has not begun to close. -/
theorem Step.regular {call : SessionCall} {result : Except Error (List SessionAction)}
    (step : s.Step call result after) (h : s.Regular password)
    (sound : ∀ bytes, call = .receive bytes → ∃ actions, result = .ok actions)
    (begun : call = .finishClose → s.state.isLive = false) :
    after.Regular password ∧ s.state.LeadsTo after.state := by
  cases step with
  | greet state =>
      have asks : [] ≠ s.expected := h.expected_eq ▸ (requestWith_ne_nil password).symm
      have silent : s.request = [] := h.fresh state
      rw [state]
      have greeting : SessionState.LeadsTo .unconnected .greeting := .single rfl
      refine ⟨?_, greeting.trans (.single rfl)⟩
      have waits := h.await List.nil_prefix asks
      rwa [← silent] at waits
  | greetAgain => exact ⟨h, .refl _⟩
  | await state fits unequal =>
      have waits := h.await fits unequal
      rw [← state] at waits
      exact ⟨waits, .refl _⟩
  | accept state =>
      rw [state]
      exact ⟨h.serve h.resting, .single rfl⟩
  | refuse state =>
      rw [state]
      exact ⟨h.leave (.inl rfl), .single rfl⟩
  | serve state drained =>
      have serves := h.serve (resting_of_drain h.resting drained)
      rw [← state, ← h.granted state] at serves
      exact ⟨serves, .refl _⟩
  | fail =>
      obtain ⟨_, refused⟩ := sound _ rfl
      cases refused
  | ignore => exact ⟨h, .refl _⟩
  | expireHandshake state =>
      rw [state]
      exact ⟨h.leave (.inl rfl), .single rfl⟩
  | expireIdle => exact ⟨h, .refl _⟩
  | expireStale => exact ⟨h, .refl _⟩
  | beginClose live => exact ⟨h.leave (.inr rfl), .single (SessionState.mayBecome_closing live)⟩
  | beginCloseAgain => exact ⟨h, .refl _⟩
  | finishClose => exact ⟨h.leave (.inr rfl), SessionState.leadsTo_closed (begun rfl)⟩

/-- Whatever bytes a regular session refuses, they are a malformed packet. -/
theorem Regular.malformed_of_receive (h : s.Regular password) {bytes : Bytes} {fault : Error}
    (refused : (s.receive bytes).1 = .error fault) : ∃ detail, fault = .malformedPacket detail := by
  have step := s.step_receive bytes
  rw [refused] at step
  generalize (s.receive bytes).2 = after at step
  cases step with
  | fail _ drained =>
      rw [h.resting.drain_feed bytes] at drained
      simp only [Prod.mk.injEq] at drained
      exact (Framing.cuts_frames _).malformed drained.1.2

theorem not_isLive_beginClose (s : Session) : s.beginClose.2.state.isLive = false := by
  unfold beginClose
  split
  next => rfl
  next dead => exact Bool.eq_false_iff.mpr dead

/-! ## Orderly runs -/

/-- Whether a call goes well behind others: bytes are not refused, and a session is ended only once
it was told to begin. -/
def goesWell (s : Session) (earlier : List SessionCall) : SessionCall → Bool
  | .receive bytes => ((s.run earlier).session.receive bytes).1.isOk
  | .finishClose => earlier.contains .beginClose
  | _ => true

/-- All calls of a run go well. -/
def Orderly (s : Session) (calls : List SessionCall) : Prop :=
  ∀ earlier call later, calls = earlier ++ call :: later → s.goesWell earlier call = true

namespace Orderly

variable {calls : List SessionCall} {call : SessionCall}

theorem nil (s : Session) : s.Orderly [] := by
  intro earlier call later split
  simp at split

theorem of_append {earlier later : List SessionCall} (orderly : s.Orderly (earlier ++ later)) :
    s.Orderly earlier := by
  intro front call back split
  exact orderly front call (back ++ later) (by simp [split])

theorem concat (orderly : s.Orderly calls) (well : s.goesWell calls call = true) :
    s.Orderly (calls ++ [call]) := by
  intro earlier call' later split
  rcases List.eq_nil_or_concat later with rfl | ⟨later, last, rfl⟩
  · obtain ⟨rfl, same⟩ := List.append_inj' split rfl
    obtain rfl := List.singleton_inj.mp same
    exact well
  · rw [List.concat_eq_append, ← List.cons_append, ← List.append_assoc] at split
    exact orderly earlier call' later (List.append_inj' split rfl).1

/-- The last call of an orderly run follows the rules, and changes the state as allowed. -/
theorem last (orderly : (new password).Orderly (calls ++ [call]))
    (h : ((new password).run calls).session.Regular password)
    (closing : .beginClose ∈ calls → ((new password).run calls).session.state.isLive = false) :
    ((new password).run (calls ++ [call])).session.Regular password ∧
      ((new password).run calls).session.state.LeadsTo
        ((new password).run (calls ++ [call])).session.state := by
  have step := ((new password).run calls).session.step_call call
  rw [run_concat]
  have well := orderly calls call [] rfl
  refine step.regular h ?_ ?_
  · rintro bytes rfl
    cases received : (((new password).run calls).session.receive bytes).1 with
    | ok actions => exact ⟨actions, received⟩
    | error fault => simp [goesWell, received, Except.isOk, Except.toBool] at well
  · rintro rfl
    exact closing (List.contains_iff_mem.mp well)

/-- An orderly run keeps a session regular, and once it was told to close it is not live. -/
theorem regular (orderly : (new password).Orderly calls) :
    ((new password).run calls).session.Regular password ∧
      (.beginClose ∈ calls → ((new password).run calls).session.state.isLive = false) := by
  induction calls using List.reverseRecOn with
  | nil => exact ⟨regular_new password, nofun⟩
  | append_singleton calls call ih =>
      obtain ⟨before, closing⟩ := ih orderly.of_append
      obtain ⟨kept, leads⟩ := orderly.last before closing
      refine ⟨kept, fun told => ?_⟩
      rcases List.mem_append.mp told with earlier | now
      · exact leads.not_isLive (closing earlier)
      · obtain rfl := List.mem_singleton.mp now
        rw [run_concat]
        exact not_isLive_beginClose _

/-- Along an orderly run, the state changes as allowed. -/
theorem leads {earlier later : List SessionCall}
    (orderly : (new password).Orderly (earlier ++ later)) :
    ((new password).run earlier).session.state.LeadsTo
      ((new password).run (earlier ++ later)).session.state := by
  induction later using List.reverseRecOn with
  | nil =>
      rw [List.append_nil]
      exact .refl _
  | append_singleton later call ih =>
      rw [← List.append_assoc] at orderly ⊢
      obtain ⟨before, closing⟩ := orderly.of_append.regular
      exact (ih orderly.of_append).trans (orderly.last before closing).2

end Orderly

/-! ## The representation -/

/-- However a session is used in an orderly way, and whatever it is sent, it holds no more than an
unfinished line of packets and, as long as it waits for more of it, a part of the expected request.
It is never seen in the midst of greeting or of handing over.  Its state changes in allowed ways
only, and so it never comes back to life; and bytes that it refuses are refused as a malformed
packet, never for a change of state. -/
theorem representation_kept (password : Option String) (calls : List SessionCall)
    (orderly : (new password).Orderly calls) :
    let after (calls : List SessionCall) := ((new password).run calls).session
    let expected := Handshake.requestWith password
    (∀ earlier later, calls = earlier ++ later →
      let s := after earlier
      s.decoder.buffer.length < Packet.maxLength ∧ terminator ∉ s.decoder.buffer ∧
        (s.state = .authenticating → s.request <+: expected ∧ s.request ≠ expected) ∧
        (s.state = .ready → s.request = []) ∧
        s.state ≠ .greeting ∧ s.state ≠ .running ∧
        ∀ bytes fault, (s.receive bytes).1 = .error fault →
          (∃ detail, fault = .malformedPacket detail) ∧
            ∀ source target, fault ≠ .invalidStateTransition source target) ∧
      ∀ earlier middle later, calls = earlier ++ middle ++ later →
        (after earlier).state.LeadsTo (after (earlier ++ middle)).state ∧
          ((after earlier).state.isLive = false →
            (after (earlier ++ middle)).state.isLive = false) := by
  intro after expected
  constructor
  · rintro earlier later rfl
    have h : (after earlier).Regular password := orderly.of_append.regular.1
    refine ⟨h.resting.short, h.resting.quiet, fun state => ?_, h.granted, h.ne_greeting,
      h.ne_running, fun bytes fault refused => ?_⟩
    · have waits := h.waiting state
      rwa [h.expected_eq] at waits
    · obtain ⟨detail, rfl⟩ := h.malformed_of_receive refused
      exact ⟨⟨detail, rfl⟩, nofun⟩
  · rintro earlier middle later rfl
    have leads := orderly.of_append.leads
    exact ⟨leads, leads.not_isLive⟩

/-- A client asks to be let in, in two parts, and begins a packet that it never finishes. -/
theorem representation_kept_unfinished :
    let calls : List SessionCall :=
      [.connect, .receive [0x50, 0x4A], .receive [0x52, 0x45, 0x51], .receive [0x21, 0x89],
        .beginClose, .finishClose]
    let after (calls : List SessionCall) := ((new none).run calls).session
    (new none).Orderly calls ∧
      ((after (calls.take 2)).request <+: Handshake.request ∧
        (after (calls.take 2)).request ≠ Handshake.request) ∧
      (after (calls.take 4)).request = [] ∧
      (after (calls.take 4)).decoder.buffer = [0x21, 0x89] ∧
      (after (calls.take 4)).decoder.buffer.length < Packet.maxLength ∧
      (after (calls.take 4)).state.LeadsTo (after calls).state ∧
      (after calls).state = .closed := by
  intro calls after
  have greeted : (new none).Orderly (calls.take 1) := (Orderly.nil _).concat rfl
  have asking : (new none).Orderly (calls.take 2) := greeted.concat (by decide)
  have granted : (new none).Orderly (calls.take 3) := asking.concat (by decide)
  have begun : (new none).Orderly (calls.take 4) := granted.concat (by decide +kernel)
  have closing : (new none).Orderly (calls.take 5) := begun.concat rfl
  have orderly : (new none).Orderly calls := closing.concat rfl
  obtain ⟨holds, leads⟩ := representation_kept none calls orderly
  obtain ⟨-, -, waiting, -⟩ := holds (calls.take 2) (calls.drop 2) rfl
  obtain ⟨short, -, -, ready, -⟩ := holds (calls.take 4) (calls.drop 4) rfl
  exact ⟨orderly, waiting (by decide), ready (by decide +kernel), by decide +kernel, short,
    (leads (calls.take 4) (calls.drop 4) [] rfl).1, by decide +kernel⟩

end Session

end ProjectorControl
