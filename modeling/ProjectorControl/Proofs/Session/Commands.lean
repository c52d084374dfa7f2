import ProjectorControl.Proofs.Session.Authentication

/-!
# Commands in chunks

A client that was let in sends packets, in any chunks.  `Handed` says what becomes of them.
Without a fault all of them are handed over, as `Framing.frames` cuts them from the stream.
With one, the packets of the chunk that shows it are dropped, even those in front of it, since
a call that fails asks for nothing.

`Session.handed` follows this through the chunks with the rules of `Framing.Cuts`, and
`Session.dispatched_receiveChunks` compares the outcome with the packets of the whole stream.
-/

namespace ProjectorControl

open SessionAction (asked said dispatched)
open Framing (Cuts Decoder Frames frames cuts_frames)

namespace Session

/-- Sends chunks to a session, one after another up to the first that fails, and gives all the
actions it asks for and the failure. -/
def receiveChunks (s : Session) : List Bytes → List SessionAction × Option Error
  | [] => ([], none)
  | chunk :: later =>
    match s.receive chunk with
    | (.error fault, _) => ([], some fault)
    | (.ok actions, after) =>
      (actions ++ (after.receiveChunks later).1, (after.receiveChunks later).2)

/-! ## One chunk -/

section

variable {s : Session} {chunk : Bytes} {first : Frames}

/-- A chunk without a fault is handed over, and the session is ready for the next. -/
theorem receive_of_sound (ready : s.state = .ready) (resting : s.decoder.Resting)
    (cuts : Cuts (s.decoder.buffer ++ chunk) first) (sound : first.fault = none) :
    s.receive chunk =
      (.ok (first.packets.flatMap SessionAction.serve),
        { s with decoder := Decoder.leftBy first }) := by
  have drained := Decoder.drain_of_cuts (resting.scanned_feed chunk) cuts
  rw [receive_of_ready ready, drained, sound]

/-- A chunk with a fault is answered with it, and with nothing else. -/
theorem receive_of_fault {fault : Error} (ready : s.state = .ready)
    (resting : s.decoder.Resting) (cuts : Cuts (s.decoder.buffer ++ chunk) first)
    (stopped : first.fault = some fault) :
    s.receive chunk = (.error fault, { s with decoder := Decoder.leftBy first }) := by
  have drained := Decoder.drain_of_cuts (resting.scanned_feed chunk) cuts
  rw [receive_of_ready ready, drained, stopped]

end

/-! ## All chunks -/

/-- What becomes of chunks behind bytes that were held already: the packets handed over and the
fault. -/
inductive Handed (held : Bytes) (chunks : List Bytes) : List Packet → Option Error → Prop where
  /-- Without a fault, all packets are. -/
  | all {whole : Frames} :
      Cuts (held ++ chunks.flatten) whole → whole.fault = none →
      Handed held chunks whole.packets none
  /-- The packets in the chunk with the first fault are not, wherever in it they stand. -/
  | stopped {before after : List Bytes} {chunk : Bytes} {sound faulty : Frames} {fault : Error} :
      chunks = before ++ chunk :: after → Cuts (held ++ before.flatten) sound →
      sound.fault = none → Cuts (sound.unread ++ chunk) faulty → faulty.fault = some fault →
      Handed held chunks sound.packets (some fault)

/-- A chunk without a fault adds its packets in front. -/
theorem Handed.cons {held chunk : Bytes} {later : List Bytes} {first : Frames}
    {packets : List Packet} {fault : Option Error} (cuts : Cuts (held ++ chunk) first)
    (sound : first.fault = none) (h : Handed first.unread later packets fault) :
    Handed held (chunk :: later) (first.packets ++ packets) fault := by
  cases h with
  | all further none =>
      have joined := cuts.append sound further
      rw [List.append_assoc, ← List.flatten_cons] at joined
      exact (Handed.all joined none :)
  | stopped split further none faulty stopped =>
      have joined := cuts.append sound further
      rw [List.append_assoc] at joined
      have split' : chunk :: later = (chunk :: _) ++ _ :: _ := congrArg (chunk :: ·) split
      exact (Handed.stopped split' joined none faulty stopped :)

theorem handed {s : Session} (ready : s.state = .ready) (resting : s.decoder.Resting)
    (chunks : List Bytes) :
    Handed s.decoder.buffer chunks (dispatched (s.receiveChunks chunks).1)
      (s.receiveChunks chunks).2 := by
  induction chunks generalizing s with
  | nil =>
      exact (Handed.all resting.cuts_buffer rfl :)
  | cons chunk later ih =>
      have cuts := cuts_frames (s.decoder.buffer ++ chunk)
      generalize frames (s.decoder.buffer ++ chunk) = first at cuts
      cases stopped : first.fault with
      | some fault =>
          have split : chunk :: later = [] ++ chunk :: later := rfl
          rw [receiveChunks, receive_of_fault ready resting cuts stopped]
          exact (Handed.stopped split resting.cuts_buffer rfl cuts stopped :)
      | none =>
          have further := ih (s := { s with decoder := Decoder.leftBy first }) ready
            (Decoder.resting_leftBy cuts stopped)
          rw [receiveChunks, receive_of_sound ready resting cuts stopped]
          simp only [SessionAction.dispatched_append, SessionAction.dispatched_serve]
          exact further.cons cuts stopped

/-! ## Commands behind the acceptance -/

/-- A session that has just let its client in is ready and has decoded nothing. -/
theorem ready_of_accepted {password : Option String} {earlier : List SessionCall}
    {call : SessionCall}
    (accepted : Handshake.accepted ∈
      said (asked (((Session.new password).run earlier).session.call call).1)) :
    ((Session.new password).run (earlier ++ [call])).session.state = .ready ∧
      ((Session.new password).run (earlier ++ [call])).session.decoder = {} := by
  have before := lawful_run password earlier
  obtain ⟨_, _, waiting, -, after⟩ := (step_call _ call).accepted_inv accepted
  rw [run_concat, SessionRun.extend]
  simp only [after]
  exact ⟨trivial, (before.waiting (.inr waiting)).2⟩

/-- What a client that was let in sends reaches the dispatcher in order, as far as it was not
received in one chunk with the first fault.  Without a fault all packets are handed over.  With
one, some chunk shows it first; the packets completed before that chunk are handed over, and
those completed in it are lost.  So nothing is lost exactly if that chunk completes no packet
in front of the fault. -/
theorem dispatched_receiveChunks (password : Option String) (earlier : List SessionCall)
    (call : SessionCall)
    (accepted : Handshake.accepted ∈
      said (asked (((Session.new password).run earlier).session.call call).1))
    (chunks : List Bytes) :
    let s := ((Session.new password).run (earlier ++ [call])).session
    let packets := dispatched (s.receiveChunks chunks).1
    let whole := frames chunks.flatten
    (s.receiveChunks chunks).2 = whole.fault ∧ packets <+: whole.packets ∧
      (whole.fault = none → packets = whole.packets) ∧
      ∀ fault, whole.fault = some fault →
        ∃ before chunk after, chunks = before ++ chunk :: after ∧
          (frames before.flatten).fault = none ∧
          (frames ((frames before.flatten).unread ++ chunk)).fault = some fault ∧
          packets = (frames before.flatten).packets ∧
          (packets = whole.packets ↔
            (frames ((frames before.flatten).unread ++ chunk)).packets = []) := by
  obtain ⟨ready, fresh⟩ := ready_of_accepted accepted
  intro s packets whole
  have resting : s.decoder.Resting := fresh ▸ Decoder.resting_new
  have outcome : Handed [] chunks packets (s.receiveChunks chunks).2 := by
    have outcome := handed ready resting chunks
    rwa [fresh] at outcome
  generalize (s.receiveChunks chunks).2 = fault at outcome ⊢
  clear_value packets
  cases outcome with
  | @all result cuts sound =>
      have same : result = whole := cuts.eq_frames
      rw [← same, sound]
      exact ⟨rfl, List.prefix_refl _, fun _ => rfl, nofun⟩
  | @stopped before after chunk first second fault split soundCuts sound faultyCuts stopped =>
      -- The chunk with the fault ends the cutting, so the chunks behind it add nothing.
      have joined := soundCuts.append sound faultyCuts
      obtain ⟨unread, cuts⟩ := joined.append_of_fault stopped after.flatten
      have flat : [] ++ before.flatten ++ chunk ++ after.flatten = chunks.flatten := by
        simp [split]
      have same := (flat ▸ cuts).eq_frames
      have packetsEq : whole.packets = first.packets ++ second.packets :=
        (congrArg Frames.packets same).symm
      have faultEq : whole.fault = some fault :=
        (congrArg Frames.fault same).symm.trans stopped
      have firstEq : frames before.flatten = first := soundCuts.eq_frames.symm
      have secondEq : frames (first.unread ++ chunk) = second := faultyCuts.eq_frames.symm
      refine ⟨faultEq.symm, packetsEq ▸ List.prefix_append .., ?_, ?_⟩
      · intro none
        rw [faultEq] at none
        cases none
      · intro fault' stopped'
        rw [faultEq] at stopped'
        cases stopped'
        refine ⟨before, chunk, after, split, ?_⟩
        rw [firstEq, secondEq, packetsEq]
        refine ⟨sound, stopped, rfl, ?_⟩
        exact List.self_eq_append_right

/-- The operation `PW1`, and a line that is no packet. -/
def operationThenNoise : List Bytes := [[0x21, 0x89, 0x01, 0x50, 0x57, 0x31, 0x0A], [0x58, 0x0A]]

theorem dispatched_receiveChunks_operationThenNoise :
    let earlier : List SessionCall := [.connect]
    let call : SessionCall := .receive Handshake.request
    let s := ((Session.new none).run (earlier ++ [call])).session
    Handshake.accepted ∈ said (asked (((Session.new none).run earlier).session.call call).1) ∧
      (s.receiveChunks operationThenNoise).2 = (frames operationThenNoise.flatten).fault ∧
      dispatched (s.receiveChunks operationThenNoise).1 <+:
        (frames operationThenNoise.flatten).packets := by
  have accepted : Handshake.accepted ∈
      said (asked (((Session.new none).run [.connect]).session.call
        (.receive Handshake.request)).1) := by decide
  have outcome := dispatched_receiveChunks none [.connect] (.receive Handshake.request) accepted
    operationThenNoise
  exact ⟨accepted, outcome.1, outcome.2.1⟩

/-- An operation is lost if it arrives in one chunk with the line that is no packet, although
it is framed in front of that line and is handed over if it arrives in a chunk of its own. -/
theorem operation_lost_before_noise :
    let s := ((Session.new none).run [.connect, .receive Handshake.request]).session
    dispatched (s.receiveChunks [operationThenNoise.flatten]).1 = [] ∧
      (frames operationThenNoise.flatten).packets.length = 1 ∧
      (dispatched (s.receiveChunks operationThenNoise).1).length = 1 := by
  decide +kernel

end Session

end ProjectorControl
