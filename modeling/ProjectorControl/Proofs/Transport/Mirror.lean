import ProjectorControl.Proofs.Packet.RoundTrip
import ProjectorControl.Proofs.Transport.Log

/-!
# Projectors in a mirror

In the mirror a lamp that is on is in standby, one that warms up cools down, and switching on is
switching off:

    3F 89 01 50 57 0A       asks                3F 89 01 50 57 0A
    40 89 01 50 57 33 0A    warming, cooling    40 89 01 50 57 32 0A
    21 89 01 50 57 30 0A    off, on             21 89 01 50 57 31 0A

`Mirrored` is the mirror image of a transport.  Whatever it is sent it passes on in the mirror, and
whatever comes back it gives in the mirror, in the time that it took.  So if a transport reports
some states, errors and acknowledgements, whatever they depend on, its mirror image reports the
mirrored states, the same errors and the same acknowledgements.
-/

namespace ProjectorControl

/-! ## States -/

namespace PowerState

/-- A state in the mirror. -/
def mirrored : PowerState → PowerState
  | standby => on
  | on => standby
  | cooling => warming
  | warming => cooling
  | emergency => emergency

@[simp] theorem mirrored_mirrored (state : PowerState) : state.mirrored.mirrored = state := by
  cases state <;> rfl

/-- States that are images of each other. -/
def Image (state other : PowerState) : Prop := other = state.mirrored

theorem mirrored_inj {state other : PowerState} :
    state.mirrored = other.mirrored ↔ state = other :=
  ⟨fun same => by rw [← mirrored_mirrored state, same, mirrored_mirrored], congrArg mirrored⟩

@[simp] theorem isTransitional_mirrored (state : PowerState) :
    state.mirrored.isTransitional = state.isTransitional := by
  cases state <;> rfl

/-- The state that a payload stands for. -/
def ofPayload? (payload : Bytes) : Option PowerState :=
  all.find? fun state => state.payload = payload

theorem ofPayload?_payload (state : PowerState) : ofPayload? state.payload = some state := by
  cases state <;> decide

theorem payload_of_ofPayload? {payload : Bytes} {state : PowerState}
    (found : ofPayload? payload = some state) : state.payload = payload := by
  simpa using List.find?_some found

/-- A payload in the mirror.  One that stands for no state is its own image. -/
def mirroredPayload (payload : Bytes) : Bytes :=
  (ofPayload? payload).elim payload fun state => state.mirrored.payload

theorem ofPayload?_mirroredPayload (payload : Bytes) :
    ofPayload? (mirroredPayload payload) = (ofPayload? payload).map mirrored := by
  unfold mirroredPayload
  cases found : ofPayload? payload with
  | none => exact found
  | some state => exact ofPayload?_payload state.mirrored

theorem mirroredPayload_of_none {payload : Bytes} (unknown : ofPayload? payload = none) :
    mirroredPayload payload = payload := by
  rw [mirroredPayload, unknown]
  rfl

theorem mirroredPayload_payload (state : PowerState) :
    mirroredPayload state.payload = state.mirrored.payload := by
  rw [mirroredPayload, ofPayload?_payload]
  rfl

theorem mirroredPayload_mirroredPayload (payload : Bytes) :
    mirroredPayload (mirroredPayload payload) = payload := by
  cases found : ofPayload? payload with
  | none => rw [mirroredPayload_of_none found, mirroredPayload_of_none found]
  | some state =>
      rw [← payload_of_ofPayload? found, mirroredPayload_payload, mirroredPayload_payload,
        mirrored_mirrored]

theorem length_mirroredPayload (payload : Bytes) :
    (mirroredPayload payload).length = payload.length := by
  cases found : ofPayload? payload with
  | none => rw [mirroredPayload_of_none found]
  | some state =>
      rw [← payload_of_ofPayload? found, mirroredPayload_payload]
      cases state <;> rfl

theorem terminator_notMem_mirroredPayload {payload : Bytes} (whole : terminator ∉ payload) :
    terminator ∉ mirroredPayload payload := by
  cases found : ofPayload? payload with
  | none => rwa [mirroredPayload_of_none found]
  | some state =>
      rw [← payload_of_ofPayload? found, mirroredPayload_payload]
      cases state <;> decide

end PowerState

/-! ## Packets -/

namespace Packet

/-- What commands and reports about the lamp are about. -/
def powerCode : Code := .ofChars 'P' 'W'

/-- A packet in the mirror.  What is not about the lamp is its own image. -/
def mirrored (p : Packet) : Packet :=
  if p.code = powerCode then
    { p with
      payload := PowerState.mirroredPayload p.payload
      payload_length_le := PowerState.length_mirroredPayload p.payload ▸ p.payload_length_le
      terminator_notMem_payload :=
        PowerState.terminator_notMem_mirroredPayload p.terminator_notMem_payload }
  else p

@[simp] theorem kind_mirrored (p : Packet) : p.mirrored.kind = p.kind := by
  unfold mirrored
  split <;> rfl

@[simp] theorem code_mirrored (p : Packet) : p.mirrored.code = p.code := by
  unfold mirrored
  split <;> rfl

theorem payload_mirrored {p : Packet} (power : p.code = powerCode) :
    p.mirrored.payload = PowerState.mirroredPayload p.payload := by
  rw [mirrored, if_pos power]

@[simp] theorem length_payload_mirrored (p : Packet) :
    p.mirrored.payload.length = p.payload.length := by
  unfold mirrored
  split
  next => exact PowerState.length_mirroredPayload p.payload
  next => rfl

@[simp] theorem mirrored_mirrored (p : Packet) : p.mirrored.mirrored = p := by
  by_cases power : p.code = powerCode
  · have again : p.mirrored.mirrored.payload = p.payload := by
      rw [payload_mirrored ((code_mirrored p).trans power), payload_mirrored power,
        PowerState.mirroredPayload_mirroredPayload]
    cases p
    simp_all [mirrored]
  · have unmoved : p.mirrored = p := if_neg power
    rw [unmoved, unmoved]

end Packet

/-- What came back, in the mirror. -/
def ResponsePackets.mirrored (packets : ResponsePackets) : ResponsePackets :=
  ⟨packets.basic.mirrored, packets.advanced.map Packet.mirrored⟩

/-- An exchange in the mirror.  It happens at the same time. -/
def LoggedExchange.mirrored (e : LoggedExchange) : LoggedExchange :=
  { e with packet := e.packet.mirrored, answer := e.answer.map ResponsePackets.mirrored }

/-! ## Transports -/

/-- Related transports are mirror images of each other, as far as packets about the lamp go. -/
structure Reflection {τ τ' : Type} [Transport τ] [Transport τ'] (image : τ → τ' → Prop) :
    Prop where
  /-- A packet and its image are answered by packets and their images, or by the same fault, and
  this takes the same time. -/
  exchange {t t'} : image t t' → ∀ packet : Packet, packet.code = Packet.powerCode → ∀ now,
    let done := Transport.exchange packet now none t
    ∃ left, image done.transport left ∧
      Transport.exchange packet.mirrored now none t' =
        ⟨done.answer.map ResponsePackets.mirrored, done.latency, left⟩
  /-- The passing of time leaves them so. -/
  advance {t t'} : image t t' → ∀ moment,
    image (Transport.advance moment t) (Transport.advance moment t')

/-- The mirror image of a transport. -/
structure Mirrored (τ : Type) where
  /-- The transport. -/
  transport : τ

instance {τ : Type} [Transport τ] : Transport (Mirrored τ) where
  exchange packet now interruption t :=
    let done := Transport.exchange packet.mirrored now interruption t.transport
    ⟨done.answer.map ResponsePackets.mirrored, done.latency, ⟨done.transport⟩⟩
  shutdown outcome now t := ⟨Transport.shutdown outcome now t.transport⟩
  advance moment t := ⟨Transport.advance moment t.transport⟩
  outcome t := Transport.outcome t.transport

/-- Every transport has a mirror image. -/
theorem Mirrored.reflection {τ : Type} [Transport τ] :
    Reflection fun (t : τ) (image : Mirrored τ) => image = ⟨t⟩ where
  exchange := by
    rintro t - rfl packet - now
    refine ⟨_, rfl, ?_⟩
    dsimp only [Transport.exchange]
    rw [Packet.mirrored_mirrored]
  advance := by
    rintro t - rfl moment
    rfl

/-- Transports with a log whose logs are mirror images, too. -/
structure Logged.Image {τ τ' : Type} (image : τ → τ' → Prop) (t : Logged τ) (t' : Logged τ') :
    Prop where
  transport : image t.transport t'.transport
  log : t'.log = t.log.map LoggedExchange.mirrored

theorem Reflection.logged {τ τ' : Type} [Transport τ] [Transport τ'] {image : τ → τ' → Prop}
    (faithful : Reflection image) : Reflection (Logged.Image image) where
  exchange := by
    intro t t' alike packet power now
    obtain ⟨left, again, answered⟩ := faithful.exchange alike.transport packet power now
    let done := Transport.exchange packet now none t.transport
    let e : LoggedExchange := ⟨packet, now, done.latency, done.answer⟩
    refine ⟨⟨left, t'.log ++ [e.mirrored]⟩, ⟨again, ?_⟩, ?_⟩
    · dsimp only [Transport.exchange]
      rw [List.map_append, alike.log]
      rfl
    · dsimp only [Transport.exchange]
      rw [answered]
      rfl
  advance alike moment := ⟨faithful.advance alike.transport moment, alike.log⟩

end ProjectorControl
