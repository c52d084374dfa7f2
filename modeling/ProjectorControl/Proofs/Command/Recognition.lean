import ProjectorControl.Command.Basic

/-!
# Recognizing packets

The index of a registry only saves comparisons.  Its lists are the commands of one kind and
code (`CommandIndex.lookup_foldl_add`), and a packet fits commands of its own kind and code
only (`CommandDefinition.key_of_matchesPacket`), so the candidates for a packet are just the
commands that it fits (`Registry.candidates_ofGroups`).

Commands that a model does not have are dropped only while others are left.  So a packet is
recognized if and only if it fits some command, whatever the model: `Command.Recognition` says
what comes of it.
-/

namespace ProjectorControl

namespace Packet.Kind

theorem byte_injective {a b : Kind} (same : a.byte = b.byte) : a = b := by
  have found := ofByte?_byte a
  rw [same, ofByte?_byte b] at found
  exact (Option.some.inj found).symm

@[simp] theorem isCommand_command (advanced : Bool) : (command advanced).isCommand = true := by
  cases advanced <;> rfl

@[simp] theorem isAdvanced_command (advanced : Bool) :
    (command advanced).isAdvanced = advanced := by
  cases advanced <;> rfl

end Packet.Kind

/-! ## The index -/

namespace CommandIndex

theorem lookup_cons (key : CommandKey) (row : CommandKey × List CommandDefinition)
    (index : CommandIndex) :
    lookup key (row :: index) = if row.1 = key then row.2 else lookup key index := by
  by_cases same : row.1 = key
  · simp [lookup, same]
  · simp [lookup, same]

theorem lookup_add (d : CommandDefinition) (key : CommandKey) (index : CommandIndex) :
    lookup key (add d index) = lookup key index ++ if d.key = key then [d] else [] := by
  induction index with
  | nil =>
      rw [add, lookup_cons]
      rfl
  | cons row later ih =>
      obtain ⟨rowKey, known⟩ := row
      by_cases mine : rowKey = d.key
      · rw [add, if_pos mine, lookup_cons, lookup_cons]
        by_cases same : rowKey = key
        · rw [if_pos same, if_pos same, if_pos (mine ▸ same)]
        · rw [if_neg same, if_neg same, if_neg (mine ▸ same), List.append_nil]
      · rw [add, if_neg mine, lookup_cons, lookup_cons, ih]
        by_cases same : rowKey = key
        · have other : d.key ≠ key := fun h => mine (same.trans h.symm)
          rw [if_pos same, if_pos same, if_neg other, List.append_nil]
        · rw [if_neg same, if_neg same]

/-- Filling an index lists the commands of each key in their order. -/
theorem lookup_foldl_add (key : CommandKey) (commands : List CommandDefinition)
    (index : CommandIndex) :
    lookup key (commands.foldl (fun index d => index.add d) index) =
      lookup key index ++ commands.filter fun d => d.key = key := by
  induction commands generalizing index with
  | nil => simp
  | cons d later ih =>
      rw [List.foldl_cons, ih, lookup_add, List.append_assoc]
      by_cases same : d.key = key
      · simp [same]
      · simp [same]

end CommandIndex

/-! ## Candidates -/

namespace CommandDefinition

variable {d : CommandDefinition} {packet : Packet}

/-- A packet that fits a command is of the command's kind and code. -/
theorem eq_of_matchesPacket (fits : d.matchesPacket packet = true) :
    packet.kind = d.kind ∧ packet.code = d.code := by
  rw [matchesPacket, Bool.and_eq_true, List.isPrefixOf_iff_prefix] at fits
  obtain ⟨leading, -⟩ := fits
  simp only [packetLeading, Packet.bytes, magic, Packet.Code.bytes, List.cons_append,
    List.nil_append, List.cons_prefix_cons] at leading
  obtain ⟨kind, -, -, fst, snd, -⟩ := leading
  have code : packet.code = d.code := by
    cases codes : packet.code
    simp only [codes] at fst snd
    rw [← fst, ← snd]
  exact ⟨(Packet.Kind.byte_injective kind).symm, code⟩

theorem key_of_matchesPacket (fits : d.matchesPacket packet = true) :
    d.key = (packet.kind.isAdvanced, packet.code) := by
  obtain ⟨kind, code⟩ := eq_of_matchesPacket fits
  rw [kind, code]
  simp [key, CommandDefinition.kind]

theorem isCommand_of_matchesPacket (fits : d.matchesPacket packet = true) :
    packet.isCommand = true := by
  obtain ⟨kind, -⟩ := eq_of_matchesPacket fits
  simp [Packet.isCommand, kind, CommandDefinition.kind]

end CommandDefinition

namespace Registry

/-- The candidates for a packet are the commands that it fits. -/
theorem candidates_ofGroups (groups : List CommandGroup) (packet : Packet) :
    (ofGroups groups).candidates packet =
      (ofGroups groups).commands.filter fun d => d.matchesPacket packet := by
  simp only [candidates, ofGroups]
  rw [CommandIndex.lookup_foldl_add, CommandIndex.lookup, List.find?_nil, List.nil_append,
    List.filter_filter]
  refine List.filter_congr fun d _ => ?_
  by_cases fits : d.matchesPacket packet = true
  · simp [fits, CommandDefinition.key_of_matchesPacket fits]
  · simp [fits]

theorem narrow_subset (model : Model) (found : List CommandDefinition) :
    narrow model found ⊆ found := by
  unfold narrow
  split
  next => exact fun _ member => (List.mem_filter.mp member).1
  next => exact List.Subset.refl _

/-- Dropping the commands of other models leaves some. -/
theorem narrow_eq_nil_iff {model : Model} {found : List CommandDefinition} :
    narrow model found = [] ↔ found = [] := by
  unfold narrow
  split
  next some =>
    obtain ⟨several, applies⟩ := some
    obtain ⟨d, member, applied⟩ := List.any_eq_true.mp applies
    have filled : found ≠ [] := List.ne_nil_of_length_pos (Nat.zero_lt_of_lt several)
    simp only [filled, iff_false]
    exact List.ne_nil_of_mem (List.mem_filter.mpr ⟨member, applied⟩)
  next => exact Iff.rfl

theorem mem_resolve {d : CommandDefinition} {packet : Packet} {model : Option Model}
    (member : d ∈ registry.resolve packet model) :
    d ∈ registry.commands ∧ d.matchesPacket packet = true := by
  have candidate : d ∈ registry.candidates packet := by
    unfold resolve at member
    split at member
    next =>
      split at member
      next => exact member
      next => exact narrow_subset _ _ member
    next => cases member
  rw [registry, candidates_ofGroups] at candidate
  exact List.mem_filter.mp candidate

theorem resolve_eq_nil_iff {packet : Packet} {model : Option Model} :
    registry.resolve packet model = [] ↔
      ∀ d ∈ registry.commands, d.matchesPacket packet = false := by
  have none_iff : registry.candidates packet = [] ↔
      ∀ d ∈ registry.commands, d.matchesPacket packet = false := by
    rw [registry, candidates_ofGroups, List.filter_eq_nil_iff]
    simp only [Bool.not_eq_true]
  unfold resolve
  split
  next =>
    split
    next => exact none_iff
    next => exact narrow_eq_nil_iff.trans none_iff
  next response =>
    simp only [true_iff]
    intro d _
    exact Bool.eq_false_iff.mpr fun fits =>
      response (CommandDefinition.isCommand_of_matchesPacket fits)

end Registry

/-! ## Commands -/

theorem Registry.mem_of_get {registry : Registry} {name : String} {d : CommandDefinition}
    (found : registry.get name = .ok d) : d ∈ registry.commands ∧ d.name = name := by
  unfold get get? at found
  split at found
  next first =>
    cases found
    exact ⟨List.mem_of_find?_eq_some first, of_decide_eq_true (List.find?_some first :)⟩
  next => cases found

namespace Command

variable {packet : Packet} {d : CommandDefinition} {command : Command}

/-- A packet has no flaw exactly if it fits.  That it is a command need not be asked, since the
first of the leading bytes tells the kind. -/
theorem misfit?_eq_none_iff : misfit? packet d = none ↔ d.matchesPacket packet = true := by
  refine ⟨matchesPacket_of_misfit?, fun fits => ?_⟩
  have isCommand := CommandDefinition.isCommand_of_matchesPacket fits
  rw [CommandDefinition.matchesPacket, Bool.and_eq_true] at fits
  obtain ⟨begins, sized⟩ := fits
  simp only [misfit?, isCommand, begins, Bool.not_true, Bool.false_eq_true, if_false]
  split at sized
  next fixed =>
    rw [fixed]
    exact if_neg (not_not_intro (of_decide_eq_true sized))
  next unfixed => rw [unfixed]

theorem bind_of_fits (fits : d.matchesPacket packet = true) :
    bind packet d = .ok ⟨packet, d, fits⟩ := by
  have flawless := misfit?_eq_none_iff.mpr fits
  unfold bind
  split
  next flawed => cases flawless.symm.trans flawed
  next => rfl

theorem bind_eq_ok_iff :
    bind packet d = .ok command ↔ command.packet = packet ∧ command.definition = d := by
  constructor
  · intro bound
    unfold bind at bound
    split at bound
    next => cases bound
    next =>
      cases bound
      exact ⟨rfl, rfl⟩
  · rintro ⟨rfl, rfl⟩
    exact bind_of_fits command.fits

/-- What is made for a definition is the packet of its parts, bound to it. -/
theorem ofDefinition_eq_ok_iff {payload : Bytes} :
    ofDefinition d payload = .ok command ↔
      Packet.build d.kind d.code (d.payloadLeading ++ payload) = .ok command.packet ∧
        command.definition = d := by
  unfold ofDefinition
  cases built : Packet.build d.kind d.code (d.payloadLeading ++ payload) with
  | error fault => simp [Bind.bind, Except.bind]
  | ok packet =>
      simp only [Bind.bind, Except.bind, bind_eq_ok_iff, Except.ok.injEq]
      exact and_congr_left' eq_comm

/-- The command of a name is in the table under that name. -/
theorem listed_of_name {name : String} {payload : Bytes}
    (named : ofName name payload = .ok command) :
    command.definition ∈ registry.commands ∧ command.name = name := by
  unfold ofName at named
  cases found : registry.get name with
  | error fault => rw [found] at named; cases named
  | ok d =>
      rw [found] at named
      obtain ⟨listed, same⟩ := Registry.mem_of_get found
      obtain ⟨-, rfl⟩ := ofDefinition_eq_ok_iff.mp named
      exact ⟨listed, same⟩

/-- The packet of a query is of the kind that the table says. -/
theorem isAdvanced_eq (c : Command) : c.isAdvanced = c.definition.isAdvanced := by
  obtain ⟨kind, -⟩ := CommandDefinition.eq_of_matchesPacket c.fits
  rw [isAdvanced, kind, CommandDefinition.kind]
  cases c.definition.isAdvanced <;> rfl

/-- What comes of an attempt to recognize a packet. -/
inductive Recognition (packet : Packet) : Except Error Command → Prop where
  | known {command : Command} :
      command.packet = packet → command.definition ∈ registry.commands →
      Recognition packet (.ok command)
  | unknown :
      (∀ d ∈ registry.commands, d.matchesPacket packet = false) →
      Recognition packet
        (.error (.unrecognizedCommand s!"{packet.text} ({packet.bytes.hex})"))

theorem recognition (packet : Packet) (model : Option Model) :
    Recognition packet (ofPacket packet model) := by
  unfold ofPacket
  cases found : registry.resolve packet model with
  | nil => exact .unknown (Registry.resolve_eq_nil_iff.mp found)
  | cons d later =>
      have member : d ∈ registry.resolve packet model := found ▸ List.mem_cons_self
      obtain ⟨listed, fits⟩ := Registry.mem_resolve member
      simp only [bind_of_fits fits]
      exact .known rfl listed

end Command

end ProjectorControl
