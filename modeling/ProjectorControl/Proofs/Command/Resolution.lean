import Mathlib.Data.List.Nodup
import ProjectorControl.Proofs.Command.Recognition

/-!
# Registries and their tables

A registry answers as if it went through its whole table, command by command.  A packet resolves to
the commands that it fits, each once and in the order of the table (`Registry.resolve_none_eq`),
since the candidates that the index gives are these, and a response fits none.  A model keeps those
of its own, unless there are none (`Registry.narrow_eq`): with one command at most there is nothing
to drop, so it does not matter that a registry does not look then.

If no two commands have one name, a name finds its own command (`Registry.get_eq_ok_iff`).
`Registry.resolve_eq_scan` puts this together for the tables that a registry accepts.
-/

namespace ProjectorControl

namespace Registry

/-! ## By packet -/

/-- Without a model, a packet resolves to all commands that it fits. -/
theorem resolve_none_eq (groups : List CommandGroup) (packet : Packet) :
    (ofGroups groups).resolve packet none =
      (groups.flatMap CommandGroup.definitions).filter fun d => d.matchesPacket packet := by
  unfold resolve
  split
  next => exact candidates_ofGroups groups packet
  next response =>
    symm
    rw [List.filter_eq_nil_iff]
    intro d _ fits
    exact response (CommandDefinition.isCommand_of_matchesPacket fits)

/-- A model keeps its own commands of those found, or all of them if it has none. -/
theorem narrow_eq (model : Model) (found : List CommandDefinition) :
    narrow model found =
      if (found.filter fun d => d.group.appliesTo model).isEmpty then found
      else found.filter fun d => d.group.appliesTo model := by
  match found with
  | [] => rfl
  | [d] =>
      have alone : narrow model [d] = [d] := by simp [narrow]
      rw [alone]
      by_cases applies : d.group.appliesTo model = true
      · simp [applies]
      · simp [applies]
  | d :: e :: later =>
      by_cases applies : (d :: e :: later).any fun d => d.group.appliesTo model
      · obtain ⟨own, member, applied⟩ := List.any_eq_true.mp applies
        have some : ((d :: e :: later).filter fun d => d.group.appliesTo model).isEmpty = false :=
          List.isEmpty_eq_false_iff_exists_mem.mpr ⟨own, List.mem_filter.mpr ⟨member, applied⟩⟩
        rw [narrow, if_pos ⟨by simp, applies⟩, some, if_neg Bool.false_ne_true]
      · have none : (d :: e :: later).filter (fun d => d.group.appliesTo model) = [] := by
          rw [List.filter_eq_nil_iff]
          intro own member applied
          exact applies (List.any_eq_true.mpr ⟨own, member, applied⟩)
        rw [narrow, if_neg (fun both => applies both.2), none, List.isEmpty_nil, if_pos rfl]

/-- With a model, the commands of other models are left out, as long as that leaves any. -/
theorem resolve_some_eq (groups : List CommandGroup) (packet : Packet) (model : Model) :
    (ofGroups groups).resolve packet (some model) =
      narrow model ((ofGroups groups).resolve packet none) := by
  unfold resolve
  split
  next => rfl
  next => rfl

/-! ## By name -/

variable {groups : List CommandGroup} {name : String}

theorem get_ofGroups_eq (groups : List CommandGroup) (name : String) :
    (ofGroups groups).get name =
      match (groups.flatMap CommandGroup.definitions).find? fun d => d.name = name with
      | some d => .ok d
      | none => .error (.unknownCommand name) := rfl

/-- If no two commands have one name, each is found by its name and by no other. -/
theorem get_eq_ok_iff (accepted : Accepts groups) {d : CommandDefinition} :
    (ofGroups groups).get name = .ok d ↔
      d ∈ groups.flatMap CommandGroup.definitions ∧ d.name = name := by
  have apart := accepted.2
  rw [get_ofGroups_eq]
  generalize groups.flatMap CommandGroup.definitions = table at apart ⊢
  cases found : table.find? fun d => d.name = name with
  | none =>
      rw [List.find?_eq_none] at found
      simp only [reduceCtorEq, false_iff]
      rintro ⟨member, named⟩
      exact found d member (decide_eq_true named)
  | some first =>
      have listed : first ∈ table := List.mem_of_find?_eq_some found
      have named : first.name = name := by simpa using List.find?_some found
      simp only [Except.ok.injEq]
      constructor
      · rintro rfl
        exact ⟨listed, named⟩
      · rintro ⟨member, same⟩
        exact List.inj_on_of_nodup_map apart listed member (named.trans same.symm)

/-- A name that no command has is unknown. -/
theorem get_of_forall_ne (unnamed : ∀ d ∈ groups.flatMap CommandGroup.definitions, d.name ≠ name) :
    (ofGroups groups).get name = .error (.unknownCommand name) := by
  have none : (groups.flatMap CommandGroup.definitions).find? (fun d => d.name = name) = none := by
    rw [List.find?_eq_none]
    intro d member named
    exact unnamed d member (of_decide_eq_true named)
  rw [get_ofGroups_eq, none]

/-! ## As a scan of the table -/

/-- A registry is its table.  A packet of any kind resolves to the commands of the table that it
fits, in their order, and with a model to those of the model, unless there are none.  Each command
is found by its own name and by no other, and a name that no command has is unknown. -/
theorem resolve_eq_scan (groups : List CommandGroup) (accepted : Accepts groups) :
    let built := ofGroups groups
    let table := groups.flatMap CommandGroup.definitions
    built.commands = table ∧
      (∀ packet,
        let scan := table.filter fun d => d.matchesPacket packet
        built.resolve packet none = scan ∧
          ∀ model,
            let own := scan.filter fun d => d.group.appliesTo model
            built.resolve packet (some model) = if own.isEmpty then scan else own) ∧
      (∀ d name, built.get name = .ok d ↔ d ∈ table ∧ d.name = name) ∧
      ∀ name, (∀ d ∈ table, d.name ≠ name) → built.get name = .error (.unknownCommand name) := by
  intro built table
  refine ⟨rfl, fun packet => ⟨resolve_none_eq groups packet, fun model => ?_⟩,
    fun d name => get_eq_ok_iff accepted, fun name => get_of_forall_ne⟩
  intro own
  rw [resolve_some_eq, narrow_eq, resolve_none_eq]

/-- A picture mode of two generations.  A model of one of them has one command for it, and a model
of neither leaves both. -/
theorem resolve_eq_scan_pictureMode :
    let groups := [CommandTable.pictureModeV1, CommandTable.pictureModeV2,
      CommandTable.pictureModeV3]
    let packet : Packet :=
      ⟨.basicCommand, .ofChars 'P' 'M', [0x50, 0x4D, 0x30], by decide, by decide, by decide⟩
    let named (model : String) : Option Model := Model.all.find? fun m => m.name = model
    let found (model : Option Model) := (ofGroups groups).resolve packet model
    Accepts groups ∧
      (found none).map CommandDefinition.name =
        ["picture_mode_v2.film", "picture_mode_v3.cinema_1"] ∧
      (found (named "DLA-X3")).map CommandDefinition.name = ["picture_mode_v2.film"] ∧
      found (named "DLA-NZ8") = found none ∧
      (ofGroups groups).get "picture_mode_v3.film" =
        .error (.unknownCommand "picture_mode_v3.film") := by
  intro groups packet named found
  have accepted : Accepts groups := by
    unfold Accepts
    decide +kernel
  obtain ⟨-, resolves, -, unknown⟩ := resolve_eq_scan groups accepted
  have x3 : named "DLA-X3" = some ⟨"DLA-X3", Model.familyPayload '-' 'X' 'H' 'B'⟩ := by
    decide +kernel
  have nz8 : named "DLA-NZ8" = some ⟨"DLA-NZ8", Model.familyPayload 'B' '5' 'A' '2'⟩ := by
    decide +kernel
  refine ⟨accepted, ?_, ?_, ?_, unknown _ (by decide +kernel)⟩
  · simp only [found]
    rw [(resolves packet).1]
    decide +kernel
  · simp only [found]
    rw [x3, (resolves packet).2]
    decide +kernel
  · simp only [found]
    rw [nz8, (resolves packet).2, (resolves packet).1]
    decide +kernel

end Registry

end ProjectorControl
