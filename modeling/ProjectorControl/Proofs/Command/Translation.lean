import ProjectorControl.Proofs.Command.Resolution
import ProjectorControl.Proofs.Packet.Language

/-!
# Commands and their packets

A command is made from a definition and a payload, and recognized from a packet.  The definition
puts its own bytes in front of the payload, and whoever has the command reads the payload behind
them.  That is a part of the packet because no definition of the table has a line end among its
bytes, so the bytes that a fitting packet begins with stand before its end
(`Command.isPrefix_leading`).  Hence a command can be made again from what it carries
(`Command.ofDefinition_payload`), and what it carries is what it was made of
(`Command.payload_of_ofDefinition`).

`Command.translates_back` puts the two directions together.
-/

namespace ProjectorControl

namespace CommandDefinition

variable {d : CommandDefinition} {packet : Packet}

/-- The definitions of the table do not end a line. -/
theorem terminator_notMem_payloadLeading (listed : d ∈ registry.commands) :
    terminator ∉ d.payloadLeading := by
  have table : ∀ d ∈ registry.commands, terminator ∉ d.payloadLeading := by decide +kernel
  exact table d listed

/-- The payload of a packet that fits begins with the bytes of the definition. -/
theorem isPrefix_leading (whole : terminator ∉ d.payloadLeading)
    (fits : d.matchesPacket packet = true) : d.payloadLeading <+: packet.payload := by
  rw [matchesPacket, Bool.and_eq_true, List.isPrefixOf_iff_prefix] at fits
  obtain ⟨leading, -⟩ := fits
  simp only [packetLeading, Packet.bytes, magic, Packet.Code.bytes, List.cons_append,
    List.nil_append, List.cons_prefix_cons] at leading
  obtain ⟨-, -, -, -, -, begins⟩ := leading
  rcases List.prefix_concat_iff.mp begins with ended | inside
  · exact absurd (ended ▸ List.mem_concat_self) whole
  · exact inside

end CommandDefinition

namespace Command

variable {c : Command} {d : CommandDefinition} {name : String} {payload : Bytes}

/-! ## Making a command again -/

theorem isPrefix_leading (listed : c.definition ∈ registry.commands) :
    c.definition.payloadLeading <+: c.packet.payload :=
  CommandDefinition.isPrefix_leading (CommandDefinition.terminator_notMem_payloadLeading listed)
    c.fits

/-- A command can be made again from its own payload. -/
theorem ofDefinition_payload (listed : c.definition ∈ registry.commands) :
    ofDefinition c.definition c.payload = .ok c := by
  obtain ⟨kind, code⟩ := CommandDefinition.eq_of_matchesPacket c.fits
  have parts : c.packet.payload = c.definition.payloadLeading ++ c.payload :=
    (List.prefix_iff_eq_append.mp (isPrefix_leading listed)).symm
  exact ofDefinition_eq_ok_iff.mpr ⟨Packet.build_eq_ok_iff.mpr ⟨kind, code, parts⟩, rfl⟩

/-- The payload of a command is what it was made with. -/
theorem payload_of_ofDefinition (made : ofDefinition d payload = .ok c) : c.payload = payload := by
  obtain ⟨built, rfl⟩ := ofDefinition_eq_ok_iff.mp made
  obtain ⟨-, -, parts⟩ := Packet.build_eq_ok_iff.mp built
  rw [Command.payload, parts, List.drop_left]

theorem payload_of_name (named : ofName name payload = .ok c) : c.payload = payload := by
  unfold ofName at named
  cases found : registry.get name with
  | error fault => rw [found] at named; cases named
  | ok d =>
      rw [found] at named
      exact payload_of_ofDefinition named

/-- The packet of a command resolves to its name, and perhaps to others that share the packet. -/
theorem mem_resolve_of_listed (listed : c.definition ∈ registry.commands) :
    c.name ∈ (registry.resolve c.packet none).map CommandDefinition.name := by
  refine List.mem_map.mpr ⟨c.definition, ?_, rfl⟩
  rw [registry, Registry.resolve_none_eq]
  exact List.mem_filter.mpr ⟨listed, c.fits⟩

/-! ## Both directions -/

/-- A command that a packet was recognized as stands for the packet, and nothing is lost. -/
structure StandsFor (c : Command) (packet : Packet) : Prop where
  /-- It has the packet. -/
  packet : c.packet = packet
  /-- It is in the table. -/
  listed : c.definition ∈ registry.commands
  /-- It is a query exactly if the table says so. -/
  isAdvanced : c.isAdvanced = c.definition.isAdvanced
  /-- The bytes in front of its payload are there. -/
  inRange : c.definition.payloadLeading.length ≤ c.packet.payload.length
  /-- It can be made again from its definition and its payload. -/
  again : ofDefinition c.definition c.payload = .ok c

theorem standsFor_of_ofPacket {packet : Packet} {model : Option Model}
    (recognized : ofPacket packet model = .ok c) : c.StandsFor packet := by
  have rule := recognition packet model
  rw [recognized] at rule
  cases rule with
  | known whole listed =>
      exact ⟨whole, listed, c.isAdvanced_eq, (isPrefix_leading listed).length_le,
        ofDefinition_payload listed⟩

/-- A packet is not recognized exactly if it fits no command, and no other fault comes up. -/
theorem unrecognized_iff (packet : Packet) (model : Option Model) :
    ((∃ fault, ofPacket packet model = .error fault) ↔
      ∀ d ∈ registry.commands, d.matchesPacket packet = false) ∧
    ∀ fault, ofPacket packet model = .error fault →
      fault = .unrecognizedCommand s!"{packet.text} ({packet.bytes.hex})" := by
  have rule := recognition packet model
  generalize ofPacket packet model = result at rule
  cases rule with
  | @known command whole listed =>
      refine ⟨⟨fun ⟨_, failed⟩ => (nomatch failed), fun none => ?_⟩, nofun⟩
      have fits : command.definition.matchesPacket packet = true := whole ▸ command.fits
      exact absurd fits (by simp [none _ listed])
  | unknown none =>
      refine ⟨⟨fun _ => none, fun _ => ⟨_, rfl⟩⟩, fun fault failed => ?_⟩
      cases failed
      rfl

/-- Commands and packets translate back and forth.  A packet is recognized as a command that stands
for it, unless it fits none; a command that is made under a name carries what it was made with, and
its packet leads back to the name; and the packets that can be bound to a command are those that fit
it. -/
theorem translates_back :
    (∀ packet model,
      (∀ c, ofPacket packet model = .ok c → c.StandsFor packet) ∧
      ((∃ fault, ofPacket packet model = .error fault) ↔
        ∀ d ∈ registry.commands, d.matchesPacket packet = false) ∧
      ∀ fault, ofPacket packet model = .error fault →
        fault = .unrecognizedCommand s!"{packet.text} ({packet.bytes.hex})") ∧
    (∀ name payload c, ofName name payload = .ok c →
      c.payload = payload ∧ name ∈ (registry.resolve c.packet none).map CommandDefinition.name) ∧
    ∀ packet, ∀ d ∈ registry.commands,
      (∃ c, bind packet d = .ok c) ↔ d.matchesPacket packet = true := by
  refine ⟨fun packet model => ⟨fun c => standsFor_of_ofPacket, unrecognized_iff packet model⟩,
    fun name payload c named => ⟨payload_of_name named, ?_⟩, fun packet d _ => ⟨?_, ?_⟩⟩
  · obtain ⟨listed, rfl⟩ := listed_of_name named
    exact mem_resolve_of_listed listed
  · rintro ⟨c, bound⟩
    obtain ⟨rfl, rfl⟩ := bind_eq_ok_iff.mp bound
    exact c.fits
  · exact fun fits => ⟨_, bind_of_fits fits⟩

/-- A picture mode that two generations of models have, each under a name of its own.  The packet
leads to both names, and the first one is meant, unless the model is known to be of the other
generation. -/
theorem translates_back_pictureMode :
    let packet : Packet :=
      ⟨.basicCommand, .ofChars 'P' 'M', [0x50, 0x4D, 0x39], by decide, by decide, by decide⟩
    let hd750 : Option Model := Model.all.find? fun m => m.name = "DLA-HD750"
    ∃ c, ofName "picture_mode_v3.thx" [] = .ok c ∧ c.packet = packet ∧
      (ofPacket packet none).toOption.map Command.name = some "picture_mode_v2.thx" ∧
      (ofPacket packet hd750).toOption = some c ∧ c.StandsFor packet ∧ c.payload = [] ∧
      "picture_mode_v3.thx" ∈ (registry.resolve c.packet none).map CommandDefinition.name ∧
      ∃ bound, bind packet c.definition = .ok bound := by
  intro packet hd750
  have computed : ∃ c, ofName "picture_mode_v3.thx" [] = .ok c ∧ c.packet = packet ∧
      (ofPacket packet none).toOption.map Command.name = some "picture_mode_v2.thx" ∧
      (ofPacket packet hd750).toOption = some c :=
    ⟨_, rfl, by decide +kernel⟩
  obtain ⟨c, made, whole, first, second⟩ := computed
  obtain ⟨byPacket, byName, bound⟩ := translates_back
  have recognized : ofPacket packet hd750 = .ok c := by
    generalize ofPacket packet hd750 = result at second
    cases result with
    | error fault => cases second
    | ok found => rw [Option.some.inj second]
  have standsFor := (byPacket packet hd750).1 c recognized
  obtain ⟨payload, names⟩ := byName _ _ _ made
  exact ⟨c, made, whole, first, second, standsFor, payload, names,
    (bound packet _ standsFor.listed).mpr (whole ▸ c.fits)⟩

end Command

end ProjectorControl
