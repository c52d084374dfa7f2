import ProjectorControl.Proofs.Transport.Recording

/-!
# Being let in by any peer

Whatever a peer does, a client asks to be let in only after it was greeted, and it asks once.
It counts as let in only if the peer has said the greeting and the acceptance, and just these
ten bytes are then used up: all that has come behind them is in the inbox, and the decoder has
not looked at any of it.

`Admission.Sound` says this of every stage of a handshake.  Whatever arrives keeps it
(`Admission.Sound.receive`), so waiting keeps it, and `Admission.soundResult_run` says it of the
result.
-/

namespace ProjectorControl

open ProjectorControl.Net

/-- What is used up when a client was let in. -/
def Handshake.used : Bytes := Handshake.greeting ++ Handshake.accepted

namespace Admission

variable {π : Type} {password : Option String} {a next : Admission} {r : Recorded π}

/-! ## The stages -/

/-- The client was greeted, and then it has asked to be let in. -/
def Asked (password : Option String) (r : Recorded π) : Prop :=
  ∃ later, r.told = [(Handshake.greeting ++ later, Handshake.requestWith password)]

/-- What was told at each stage. -/
def Told (password : Option String) (r : Recorded π) : AdmissionStage → Prop
  | .greeting => r.told = []
  | .request unsent => r.told = [] ∧ unsent = Handshake.requestWith password
  | .reply => Asked password r

/-- The bytes that were used up at each stage. -/
def used : AdmissionStage → Bytes
  | .greeting => []
  | .request _ | .reply => Handshake.greeting

/-- The record of the peer agrees with a handshake. -/
structure Sound (password : Option String) (a : Admission) (r : Recorded π) : Prop where
  password_eq : a.password = password
  follows : r.Follows (used a.stage) a.inbox
  unscanned : a.inbox.decoder.scanned = 0
  told : Told password r a.stage

/-- The record of the peer agrees with the result of a handshake. -/
inductive SoundResult (password : Option String) (r : Recorded π) : AdmissionResult → Prop where
  | admitted {inbox : Inbox} :
      Asked password r → r.Follows Handshake.used inbox → inbox.decoder.scanned = 0 →
      SoundResult password r (.admitted inbox)
  | failed {fault : Error} :
      r.told = [] ∨ Asked password r → SoundResult password r (.failed fault)

/-- The record of the peer agrees with a handshake that goes on from a stage, or has ended. -/
inductive SoundStep (password : Option String) (from_ : AdmissionStage) (r : Recorded π) :
    AdmissionStep → Prop where
  | waits {next : Admission} :
      next.stage = from_ → next.Sound password r → SoundStep password from_ r (.going next)
  | greeted {next : Admission} {unsent : Bytes} :
      from_ = .greeting → next.stage = .request unsent → next.Sound password r →
      SoundStep password from_ r (.going next)
  | ended {result : AdmissionResult} :
      SoundResult password r result → SoundStep password from_ r (.ended result)

theorem Told.asked_or {stage : AdmissionStage} (told : Told password r stage) :
    r.told = [] ∨ Asked password r := by
  cases stage with
  | greeting => exact .inl told
  | request unsent => exact .inl told.1
  | reply => exact .inr told

theorem SoundStep.failed {stage : AdmissionStage} (told : Told password r stage) (fault : Error) :
    SoundStep password stage r (.ended (.failed fault)) :=
  .ended (.failed told.asked_or)

/-! ## Arrivals -/

theorem Sound.awaitMore (sound : a.Sound password r) (awaited : String) :
    SoundStep password a.stage r (a.awaitMore awaited) := by
  unfold Admission.awaitMore
  split
  next => exact .waits rfl sound
  next => exact .failed sound.told _

/-- A message that is taken stood in front of what is left. -/
theorem take?_eq_some {inbox rest : Inbox} {message : Bytes} {count : Nat}
    (taken : inbox.take? count = some (message, rest)) :
    inbox.decoder.buffer = message ++ rest.decoder.buffer ∧ rest.ending = inbox.ending ∧
      rest.decoder.scanned = 0 := by
  simp only [Inbox.take?] at taken
  split at taken
  next =>
    cases taken
    exact ⟨(List.take_append_drop ..).symm, rfl, rfl⟩
  next => cases taken

theorem follows_take {used : Bytes} {inbox rest : Inbox} {message : Bytes} {count : Nat}
    (follows : r.Follows used inbox) (taken : inbox.take? count = some (message, rest)) :
    r.Follows (used ++ message) rest := by
  obtain ⟨front, ending, -⟩ := take?_eq_some taken
  exact ⟨by rw [follows.heard, front, List.append_assoc], by rw [follows.ended, ending]⟩

/-- A message that has come is used up. -/
theorem Sound.take (sound : a.Sound password r) {message : Bytes} {rest : Inbox}
    (taken : a.inbox.take? Handshake.messageLength = some (message, rest))
    {stage : AdmissionStage} (told : Told password r stage)
    (uses : used stage = used a.stage ++ message) :
    Sound password { a with stage := stage, inbox := rest } r := by
  obtain ⟨-, -, unscanned⟩ := take?_eq_some taken
  exact ⟨sound.password_eq, uses ▸ follows_take sound.follows taken, unscanned, told⟩

/-- What has arrived is used soundly. -/
theorem Sound.progress (sound : a.Sound password r) :
    SoundStep password a.stage r a.progress := by
  have told := sound.told
  obtain ⟨_, limit, stage, inbox⟩ := a
  obtain rfl := sound.password_eq
  unfold Admission.progress
  cases stage with
  | request unsent => exact .waits rfl sound
  | greeting =>
      cases taken : inbox.take? Handshake.messageLength with
      | none => simpa only [taken] using sound.awaitMore "greeting"
      | some found =>
          obtain ⟨message, rest⟩ := found
          simp only [judgeGreeting]
          by_cases greeted : message = Handshake.greeting
          · rw [if_pos greeted]
            exact .greeted rfl rfl (sound.take taken ⟨told, rfl⟩ greeted.symm)
          · rw [if_neg greeted]
            exact .failed told _
  | reply =>
      cases taken : inbox.take? Handshake.messageLength with
      | none => simpa only [taken] using sound.awaitMore "auth reply"
      | some found =>
          obtain ⟨message, rest⟩ := found
          simp only [judgeReply]
          by_cases refused : message = Handshake.refused
          · rw [if_pos refused]
            exact .failed told _
          rw [if_neg refused]
          by_cases accepted : message = Handshake.accepted
          · rw [if_pos accepted]
            obtain ⟨-, -, unscanned⟩ := take?_eq_some taken
            subst accepted
            exact .ended (.admitted told (follows_take sound.follows taken) unscanned)
          · rw [if_neg accepted]
            exact .failed told _

theorem receive_eq (a : Admission) (arrival : Arrival) :
    a.receive arrival = { a with inbox := arrival.note a.inbox }.progress := by
  cases arrival <;> rfl

theorem scanned_note (arrival : Arrival) (inbox : Inbox) :
    (arrival.note inbox).decoder.scanned = inbox.decoder.scanned := by
  cases arrival with
  | bytes first more =>
      cases ending : inbox.ending with
      | none => simp only [Arrival.note, Inbox.feed, ending, Framing.Decoder.feed]
      | some how => simp only [Arrival.note, Inbox.feed, ending]
  | closed => rfl
  | failed reason => rfl

theorem Told.of_eq {stage : AdmissionStage} {after : Recorded π} (told : Told password r stage)
    (same : after.told = r.told) : Told password after stage := by
  cases stage with
  | greeting => exact same.trans told
  | request unsent => exact ⟨same.trans told.1, told.2⟩
  | reply =>
      obtain ⟨later, asked⟩ := told
      exact ⟨later, same.trans asked⟩

/-- Whatever arrives is used soundly. -/
theorem Sound.receive (sound : a.Sound password r) (arrival : Arrival) :
    SoundStep password a.stage (r.hear (some arrival)) (a.receive arrival) := by
  have noted : Sound password { a with inbox := arrival.note a.inbox } (r.hear (some arrival)) :=
    ⟨sound.password_eq, sound.follows.hear arrival,
      (scanned_note arrival a.inbox).trans sound.unscanned,
      sound.told.of_eq (r.told_hear (some arrival))⟩
  rw [receive_eq]
  exact noted.progress

/-! ## Whole handshakes -/

/-- Sending and receiving change the peer, of which a handshake knows nothing. -/
theorem Sound.of_peer (sound : a.Sound password r) (peer : π) :
    a.Sound password { r with peer := peer } :=
  ⟨sound.password_eq, ⟨sound.follows.heard, sound.follows.ended⟩, sound.unscanned,
    sound.told.of_eq rfl⟩

theorem exists_expired (a : Admission) : ∃ fault, a.expired = .ended (.failed fault) := by
  unfold Admission.expired
  split
  next => exact ⟨_, rfl⟩
  next => exact ⟨_, rfl⟩
  next => exact ⟨_, rfl⟩

theorem Sound.expired (sound : a.Sound password r) (stage : AdmissionStage) :
    SoundStep password stage r a.expired := by
  obtain ⟨fault, expired⟩ := a.exists_expired
  rw [expired]
  exact .ended (.failed sound.told.asked_or)

theorem expired_ne_going (a next : Admission) : a.expired ≠ .going next := by
  obtain ⟨fault, expired⟩ := a.exists_expired
  rw [expired]
  exact nofun

theorem SoundStep.conclude {stage : AdmissionStage} {step : AdmissionStep}
    (sound : SoundStep password stage r step) (now : Moment) :
    SoundResult password (Admission.conclude step now r).peer
      (Admission.conclude step now r).result := by
  have expires : ∀ {next : Admission}, next.Sound password r →
      SoundResult password (Admission.conclude (.going next) now r).peer
        (Admission.conclude (.going next) now r).result := by
    intro next sound
    obtain ⟨fault, expired⟩ := next.exists_expired
    simp only [Admission.conclude, expired]
    exact .failed sound.told.asked_or
  cases sound with
  | waits same sound => exact expires sound
  | greeted start after sound => exact expires sound
  | ended result => exact result

variable [Peer π]

/-- Waiting is sound, and a handshake that goes on afterwards has reached another stage. -/
theorem Sound.await (sound : a.Sound password r) (deadline : Moment) (waits : Nat) (now : Moment) :
    let done := a.await r deadline waits now
    SoundStep password a.stage done.2.2 done.1 ∧
      ∀ next, done.1 = .going next → next.stage ≠ a.stage := by
  induction waits generalizing a r now with
  | zero => exact ⟨sound.expired a.stage, fun next going => absurd going (expired_ne_going a next)⟩
  | succ waits ih =>
      unfold Admission.await
      simp only [Peer.receive]
      generalize Peer.receive now (deadline - now) r.peer = received
      obtain ⟨⟨result, latency⟩, peer⟩ := received
      have kept := sound.of_peer peer
      cases result with
      | none =>
          exact ⟨kept.expired a.stage, fun next going => absurd going (expired_ne_going a next)⟩
      | some arrival =>
          have step := kept.receive arrival
          simp only
          generalize a.receive arrival = outcome at step
          cases step with
          | @waits next same sound =>
              simp only [if_pos same]
              have later := ih sound (now + latency)
              rwa [same] at later
          | @greeted next unsent stage after sound =>
              have other : next.stage ≠ a.stage := by
                rw [stage, after]
                intro same
                cases same
              simp only [if_neg other]
              refine ⟨.greeted stage after sound, ?_⟩
              rintro _ ⟨⟩
              exact other
          | ended result => exact ⟨.ended result, fun _ going => by cases going⟩

/-- Sending the request is sound. -/
theorem Sound.ask (sound : a.Sound password r) {unsent : Bytes} (stage : a.stage = .request unsent)
    (now : Moment) :
    let done := a.ask r now
    SoundStep password .reply done.2.2 done.1 := by
  obtain ⟨own, limit, _, inbox⟩ := a
  have same : own = password := sound.password_eq
  subst same stage
  obtain ⟨untold, rfl⟩ := sound.told
  unfold Admission.ask
  simp only [Peer.send]
  generalize Peer.send _ now limit.nanos r.peer = sent
  obtain ⟨⟨result, latency⟩, peer⟩ := sent
  let after : Recorded π :=
    { r with peer := peer, told := r.told ++ [(r.heard, Handshake.requestWith own)] }
  have asked : Asked own after := by
    refine ⟨inbox.decoder.buffer, ?_⟩
    simp only [after, untold, List.nil_append]
    exact congrArg (fun heard => [(heard, _)]) sound.follows.heard
  match result with
  | none => exact .ended (.failed (.inr asked))
  | some (.error reason) => exact .ended (.failed (.inr asked))
  | some (.ok ()) =>
      have told : Sound own ⟨own, limit, .reply, inbox⟩ after :=
        ⟨rfl, ⟨sound.follows.heard, sound.follows.ended⟩, sound.unscanned, asked⟩
      simp only [Admission.taken, List.drop_length]
      exact told.progress

/-- A handshake with any peer is sound. -/
theorem soundResult_run (password : Option String) (limit : Duration) (peer : π) (now : Moment) :
    let done := ({ password := password, limit := limit } : Admission).run
      ({ peer := peer } : Recorded π) now
    SoundResult password done.peer done.result := by
  let start : Admission := { password := password, limit := limit }
  let silent : Recorded π := { peer := peer }
  have fresh : start.Sound password silent := ⟨rfl, ⟨rfl, rfl⟩, rfl, rfl⟩
  obtain ⟨greeted, other⟩ := fresh.await (now + limit.nanos) Handshake.messageLength now
  change SoundResult password (start.run silent now).peer (start.run silent now).result
  unfold Admission.run
  simp only [start]
  generalize Admission.await _ silent _ _ now = done at greeted other ⊢
  obtain ⟨step, now, r⟩ := done
  cases greeted with
  | waits same sound => exact absurd same (other _ rfl)
  | ended result => exact result
  | @greeted asking unsent _ stage sound =>
      have asked := sound.ask stage now
      simp only
      generalize asking.ask r now = done at asked ⊢
      obtain ⟨step, now, r⟩ := done
      cases asked with
      | greeted start => cases start
      | ended result => exact result
      | waits same sound =>
          obtain ⟨replied, -⟩ := sound.await (now + limit.nanos) Handshake.messageLength now
          exact replied.conclude _

end Admission

end ProjectorControl
