import ProjectorControl.Command.Group
import ProjectorControl.Proofs.Command.ResponseMap

/-!
# Families of models

Models are put into families one after another, in the order of a table.  A family is found by its
payload or started at the end, so the families are those of the payloads in the order in which these
appear first, and each holds the models of its payload in the order of the table
(`Model.familiesOf_eq`).  No model is in two families and none is left out, and the model that a
payload finds is the first of its family (`Model.Grouped`).

The families have different payloads, so the answers to the query for the model can be read in both
directions (`Model.inverts_responses`).
-/

namespace ProjectorControl

namespace Model

/-- The family of a payload: the names of all models with the payload. -/
def familyOf (models : List Model) (payload : Bytes) : Bytes × List String :=
  (payload, (models.filter fun model => model.statusPayload = payload).map Model.name)

/-- The payloads of a table, in the order of their first appearance. -/
def payloads (models : List Model) : List Bytes := (models.map statusPayload).eraseDups

/-! ## One model more -/

theorem familyOf_concat (models : List Model) (model : Model) (payload : Bytes) :
    familyOf (models ++ [model]) payload =
      (payload, (familyOf models payload).2 ++
        if model.statusPayload = payload then [model.name] else []) := by
  rw [familyOf, familyOf, List.filter_append, List.map_append]
  by_cases own : model.statusPayload = payload
  · simp [own]
  · simp [own]

theorem mem_payloads {models : List Model} {payload : Bytes} :
    payload ∈ payloads models ↔ payload ∈ models.map statusPayload :=
  List.mem_eraseDups

theorem payloads_concat (models : List Model) (model : Model) :
    payloads (models ++ [model]) =
      payloads models ++
        if model.statusPayload ∈ models.map statusPayload then [] else [model.statusPayload] := by
  rw [payloads, payloads, List.map_append, List.eraseDups_append, List.map_singleton]
  generalize models.map statusPayload = before
  by_cases known : model.statusPayload ∈ before
  · simp [List.removeAll, known]
  · simp [List.removeAll, known, List.eraseDups_cons]

theorem nodup_payloads (models : List Model) : (payloads models).Nodup := by
  induction models using List.reverseRecOn with
  | nil => exact List.nodup_nil
  | append_singleton models model ih =>
      rw [payloads_concat]
      split
      next => rwa [List.append_nil]
      next unknown =>
        rw [← mem_payloads] at unknown
        refine List.nodup_append.mpr ⟨ih, List.nodup_singleton _, ?_⟩
        rintro payload member other alone rfl
        exact unknown (List.mem_singleton.mp alone ▸ member)

/-- A model is added to the family of its payload, or starts one. -/
theorem addToFamilies_map (models : List Model) (model : Model) {known : List Bytes}
    (distinct : known.Nodup) :
    addToFamilies model (known.map (familyOf models)) =
      known.map (familyOf (models ++ [model])) ++
        if model.statusPayload ∈ known then [] else [(model.statusPayload, [model.name])] := by
  induction known with
  | nil => simp [addToFamilies]
  | cons payload later ih =>
      obtain ⟨once, distinct⟩ := List.nodup_cons.mp distinct
      rw [List.map_cons, List.map_cons, familyOf_concat]
      by_cases own : payload = model.statusPayload
      · have others : later.map (familyOf models) = later.map (familyOf (models ++ [model])) := by
          refine List.map_congr_left fun other member => ?_
          have foreign : model.statusPayload ≠ other := fun same => once (own ▸ same ▸ member)
          rw [familyOf_concat, if_neg foreign, List.append_nil]
          rfl
        subst own
        rw [familyOf, addToFamilies, if_pos rfl, if_pos rfl, if_pos List.mem_cons_self, others,
          List.append_nil]
      · have step : (model.statusPayload ∈ payload :: later) = (model.statusPayload ∈ later) := by
          rw [List.mem_cons, or_iff_right (Ne.symm own)]
        rw [familyOf, addToFamilies, if_neg own, if_neg (Ne.symm own), List.append_nil, ih distinct,
          List.cons_append]
        simp only [step]

/-- The families of a table are those of its payloads, in their order. -/
theorem familiesOf_eq (models : List Model) :
    familiesOf models = (payloads models).map (familyOf models) := by
  induction models using List.reverseRecOn with
  | nil => rfl
  | append_singleton models model ih =>
      have added : familiesOf (models ++ [model]) = addToFamilies model (familiesOf models) := by
        rw [familiesOf, List.foldl_append]
        rfl
      rw [added, ih, addToFamilies_map models model (nodup_payloads models), payloads_concat,
        List.map_append]
      simp only [mem_payloads]
      split
      next => rfl
      next unknown =>
        have none : models.filter (fun old => old.statusPayload = model.statusPayload) = [] := by
          rw [List.filter_eq_nil_iff]
          intro old member same
          exact unknown (List.mem_map.mpr ⟨old, member, of_decide_eq_true same⟩)
        rw [List.map_singleton, familyOf_concat, if_pos rfl, familyOf, none]
        rfl

/-! ## What families are -/

/-- The models of different payloads, one payload after another, are the models that have one of
these payloads. -/
theorem perm_flatMap_filter (models : List Model) {known : List Bytes} (distinct : known.Nodup) :
    (known.flatMap fun payload => models.filter fun model => model.statusPayload = payload).Perm
      (models.filter fun model => model.statusPayload ∈ known) := by
  induction known with
  | nil => simp
  | cons payload later ih =>
      obtain ⟨once, distinct⟩ := List.nodup_cons.mp distinct
      have both := List.filter_append_perm (fun model => decide (model.statusPayload = payload))
        (models.filter fun model => model.statusPayload ∈ payload :: later)
      have own : (models.filter fun model => model.statusPayload ∈ payload :: later).filter
          (fun model => model.statusPayload = payload) =
          models.filter fun model => model.statusPayload = payload := by
        rw [List.filter_filter]
        refine List.filter_congr fun model _ => ?_
        by_cases same : model.statusPayload = payload
        · simp [same]
        · simp [same]
      have others : (models.filter fun model => model.statusPayload ∈ payload :: later).filter
          (fun model => !decide (model.statusPayload = payload)) =
          models.filter fun model => model.statusPayload ∈ later := by
        rw [List.filter_filter]
        refine List.filter_congr fun model _ => ?_
        by_cases same : model.statusPayload = payload
        · simp [same, once]
        · simp [same]
      rw [own, others] at both
      rw [List.flatMap_cons]
      exact ((ih distinct).append_left _).trans both

/-- The families of a table, each with its payload. -/
structure Grouped (models : List Model) (families : List (Bytes × List String)) : Prop where
  /-- The payloads stand in the order of their first appearance. -/
  payloads_eq : families.map Prod.fst = (models.map statusPayload).eraseDups
  /-- No payload has two families. -/
  distinct : (families.map Prod.fst).Nodup
  /-- A family has the models of its payload, in the order of the table. -/
  names_eq : ∀ family ∈ families,
    family.2 = (models.filter fun model => model.statusPayload = family.1).map Model.name
  /-- Each model is in one family. -/
  partition : (families.flatMap Prod.snd).Perm (models.map Model.name)
  /-- The model that a payload finds is the first of its family. -/
  head?_eq : ∀ family ∈ families, ∃ model,
    firstWithPayload? models family.1 = some model ∧ family.2.head? = some model.name

theorem grouped_familiesOf (models : List Model) : Grouped models (familiesOf models) := by
  have each : ∀ family ∈ familiesOf models, ∃ payload ∈ payloads models,
      familyOf models payload = family := by
    intro family member
    rw [familiesOf_eq] at member
    exact List.mem_map.mp member
  have first : (familiesOf models).map Prod.fst = payloads models := by
    rw [familiesOf_eq, List.map_map]
    exact List.map_id _
  constructor
  case payloads_eq => exact first
  case distinct => exact first ▸ nodup_payloads models
  case names_eq =>
    intro family member
    obtain ⟨payload, -, rfl⟩ := each family member
    rfl
  case partition =>
    have known : (models.filter fun model => model.statusPayload ∈ payloads models) = models := by
      rw [List.filter_eq_self]
      intro model member
      exact decide_eq_true (mem_payloads.mpr (List.mem_map_of_mem member))
    have whole := (perm_flatMap_filter models (nodup_payloads models)).map Model.name
    rw [known, List.map_flatMap] at whole
    rw [familiesOf_eq, List.flatMap_map]
    exact whole
  case head?_eq =>
    intro family member
    obtain ⟨payload, known, rfl⟩ := each family member
    obtain ⟨member, listed, own⟩ := List.mem_map.mp (mem_payloads.mp known)
    obtain ⟨model, found⟩ := ResponseMap.exists_find?
      (fun model => model.statusPayload = payload) listed (decide_eq_true own)
    refine ⟨model, found, ?_⟩
    rw [familyOf, List.head?_map, List.head?_filter]
    exact congrArg (Option.map Model.name) found

/-! ## Tables in both directions -/

/-- The answers to the query for the model stand for the families, and no two are the same. -/
theorem inverts_responses :
    responses.Inverts (families.map fun family => (family.1, String.intercalate "," family.2)) := by
  refine ResponseMap.inverts_ofEntries ?_
  rw [List.map_map]
  exact (grouped_familiesOf all).distinct

/-- Tables can be read in both directions.  The response map of entries with different payloads
finds the name of each payload and a payload of each name, the one that was entered first, and lists
the entries by their payloads.  The families of a table of models are told apart by their payloads,
share out the models without a change of order, and begin with the model that their payload finds. -/
theorem inverts_and_grouped :
    (∀ entries : List (Bytes × String), (entries.map Prod.fst).Nodup →
      (ResponseMap.ofEntries entries).Inverts entries) ∧
    ∀ models : List Model, Grouped models (familiesOf models) :=
  ⟨fun _ => ResponseMap.inverts_ofEntries, grouped_familiesOf⟩

/-- Two payloads of one name, which are not entered in their order, and a family whose models do not
stand together. -/
theorem inverts_and_grouped_apart :
    let entries : List (Bytes × String) := [([0x31], "on"), ([0x30], "off"), ([0x30, 0x30], "on")]
    let map := ResponseMap.ofEntries entries
    let first := familyPayload 'B' '5' 'A' '1'
    let models : List Model :=
      [⟨"DLA-NZ9", first⟩, ⟨"DLA-NZ8", familyPayload 'B' '5' 'A' '2'⟩, ⟨"DLA-RS4100", first⟩]
    (entries.map Prod.fst).Nodup ∧
      map.payloadFor? "on" = some [0x31] ∧ map.get? [0x31] = some "on" ∧
      map.first? = some ([0x30], "off") ∧
      (first, ["DLA-NZ9", "DLA-RS4100"]) ∈ familiesOf models ∧
      ∃ model, firstWithPayload? models first = some model ∧ model.name = "DLA-NZ9" := by
  intro entries map first models
  have distinct : (entries.map Prod.fst).Nodup := by decide
  have read := inverts_and_grouped.1 entries distinct
  have grouped := inverts_and_grouped.2 models
  have family : (first, ["DLA-NZ9", "DLA-RS4100"]) ∈ familiesOf models := by decide
  refine ⟨distinct, ?_, ?_, ?_, family, ?_⟩
  · rw [read.payloadFor?_eq]
    decide
  · exact (read.get?_eq_some_iff _ _).mpr (by decide)
  · exact (read.first?_eq_some_iff _).mpr (by decide)
  · obtain ⟨model, found, named⟩ := grouped.head?_eq _ family
    exact ⟨model, found, (Option.some.inj named).symm⟩

end Model

end ProjectorControl
