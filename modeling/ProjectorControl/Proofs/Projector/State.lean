import ProjectorControl.Projector.State

/-!
# The state of a projector

A name is *known* to a field if the response map of the field's query has a payload for it.
Setting a field checks just that (`ProjectorState.set_of_knows`, `ProjectorState.set_eq_ok`),
and sees no other field.  So the first state of a projector is *valid*: every field holds a
name it knows (`ProjectorState.valid_ofConfig`), and whatever sets a field keeps it valid.

The power field knows the names of the power states and no others, so a valid state says what
the lamp does.
-/

namespace ProjectorControl

namespace PowerState

@[simp] theorem ofName_name (power : PowerState) : ofName power.name = .ok power := by
  rw [ofName, ofName?_name]

theorem ofName_eq_ok {name : String} {power : PowerState} :
    ofName name = .ok power ↔ name = power.name := by
  constructor
  · intro read
    unfold ofName ofName? at read
    split at read
    next state found =>
      cases read
      have same := List.find?_some found
      exact (decide_eq_true_iff.mp same).symm
    next => cases read
  · rintro rfl
    exact ofName_name power

theorem ofName_of_ne {name : String} (noPower : ∀ power : PowerState, name ≠ power.name) :
    ofName name = .error (.unexpectedState name) := by
  cases read : ofName name with
  | ok power => exact absurd (ofName_eq_ok.mp read) (noPower power)
  | error fault =>
      unfold ofName at read
      split at read
      next => cases read
      next =>
        cases read
        rfl

end PowerState

/-! ## Names that a field knows -/

namespace StatusField

theorem mem_all (field : StatusField) : field ∈ all := by
  cases field <;> decide

/-- Every field has a query, and the query has a response map. -/
theorem responseMap_eq (field : StatusField) : field.responseMap = .ok field.responses := by
  cases field <;> rfl

/-- The response map of the field has a payload for the name. -/
def Knows (field : StatusField) (name : String) : Prop :=
  ∃ payload, field.responses.payloadFor? name = some payload

theorem mem_payloads {field : StatusField} {name : String} {payload : Bytes}
    (found : field.responses.payloadFor? name = some payload) :
    (name, payload) ∈ field.responses.payloads := by
  obtain ⟨entry, first, rfl⟩ := Option.map_eq_some_iff.mp found
  have same := List.find?_some first
  rw [decide_eq_true_iff] at same
  exact same ▸ List.mem_of_find?_eq_some first

/-- The payloads of names can be sent, and are read as the same names. -/
theorem payloads_sound (field : StatusField) :
    ∀ entry ∈ field.responses.payloads,
      entry.2.length = 1 ∧ terminator ∉ entry.2 ∧
        field.responses.get? entry.2 = some entry.1 := by
  cases field <;> decide

theorem knows_power (power : PowerState) : StatusField.power.Knows power.name := by
  cases power <;> exact ⟨_, rfl⟩

/-- The power field knows power states only. -/
theorem exists_of_knows_power {name : String} (known : StatusField.power.Knows name) :
    ∃ power : PowerState, name = power.name := by
  have listed : ∀ entry ∈ StatusField.power.responses.payloads,
      ∃ power ∈ PowerState.all, entry.1 = power.name := by decide
  obtain ⟨payload, found⟩ := known
  obtain ⟨power, -, named⟩ := listed _ (mem_payloads found)
  exact ⟨power, named⟩

end StatusField

namespace ProjectorState

/-! ## Setting fields -/

@[simp] theorem get_put_same (s : ProjectorState) (field : StatusField) (name : String) :
    (s.put field name).get field = name := by
  cases field <;> rfl

theorem get_put_of_ne (s : ProjectorState) {field other : StatusField} (name : String)
    (different : other ≠ field) : (s.put field name).get other = s.get other := by
  cases field <;> cases other <;> first | rfl | exact absurd rfl different

variable {s after : ProjectorState} {field : StatusField} {name : String}

theorem set_of_knows (known : field.Knows name) : s.set field name = .ok (s.put field name) := by
  obtain ⟨payload, found⟩ := known
  rw [set, field.responseMap_eq]
  simp only [bind, Except.bind, found]

theorem set_of_not_knows (unknown : ¬ field.Knows name) :
    s.set field name = .error (.unknownStatus field.name name) := by
  have missing : field.responses.payloadFor? name = none :=
    Option.eq_none_iff_forall_ne_some.mpr fun payload found => unknown ⟨payload, found⟩
  rw [set, field.responseMap_eq]
  simp only [bind, Except.bind, missing]

theorem set_eq_ok (done : s.set field name = .ok after) :
    field.Knows name ∧ after = s.put field name := by
  by_cases known : field.Knows name
  · rw [set_of_knows known] at done
    exact ⟨known, (Except.ok.inj done).symm⟩
  · rw [set_of_not_knows known] at done
    cases done

/-! ## Valid states -/

/-- Every field holds a name that it knows. -/
def Valid (s : ProjectorState) : Prop := ∀ field : StatusField, field.Knows (s.get field)

theorem Valid.put (valid : s.Valid) (known : field.Knows name) : (s.put field name).Valid := by
  intro other
  by_cases same : other = field
  · rw [same, get_put_same]
    exact known
  · rw [get_put_of_ne s name same]
    exact valid other

theorem Valid.exists_power (valid : s.Valid) :
    ∃ power : PowerState, s.get .power = power.name ∧ s.powerState = .ok power := by
  obtain ⟨power, named⟩ := StatusField.exists_of_knows_power (valid .power)
  exact ⟨power, named, PowerState.ofName_eq_ok.mpr named⟩

/-- Setting some fields from the settings leaves the others alone. -/
theorem get_of_foldlM {c : EmulatorConfig} {fields : List StatusField}
    (done : fields.foldlM (fun s field => s.set field (c.initialStatus field)) s = .ok after) :
    ∀ field, (field ∈ fields → field.Knows (c.initialStatus field) ∧
        after.get field = c.initialStatus field) ∧
      (field ∉ fields → after.get field = s.get field) := by
  induction fields generalizing s with
  | nil =>
      cases done
      exact fun field => ⟨nofun, fun _ => rfl⟩
  | cons first later ih =>
      rw [List.foldlM_cons] at done
      cases set : s.set first (c.initialStatus first) with
      | error fault =>
          rw [set] at done
          cases done
      | ok middle =>
          rw [set] at done
          obtain ⟨known, rfl⟩ := set_eq_ok set
          intro field
          obtain ⟨inside, outside⟩ := ih done field
          constructor
          · intro member
            by_cases again : field ∈ later
            · exact inside again
            · obtain rfl := (List.mem_cons.mp member).resolve_right again
              rw [outside again, get_put_same]
              exact ⟨known, rfl⟩
          · intro missing
            rw [List.mem_cons, not_or] at missing
            obtain ⟨different, elsewhere⟩ := missing
            rw [outside elsewhere, get_put_of_ne s _ different]

theorem get_ofConfig {c : EmulatorConfig} (read : ofConfig c = .ok s) (field : StatusField) :
    field.Knows (c.initialStatus field) ∧ s.get field = c.initialStatus field :=
  (get_of_foldlM read field).1 field.mem_all

theorem valid_ofConfig {c : EmulatorConfig} (read : ofConfig c = .ok s) : s.Valid := by
  intro field
  obtain ⟨known, same⟩ := get_ofConfig read field
  exact same ▸ known

end ProjectorState

end ProjectorControl
