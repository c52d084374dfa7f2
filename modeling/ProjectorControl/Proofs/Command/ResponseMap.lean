import Mathlib.Data.List.Induction
import Mathlib.Data.List.Nodup
import ProjectorControl.Command.ResponseMap

/-!
# Response maps in both directions

A response map keeps two lists, and an entry is added to each by a rule of its own.  Towards names
the last entry of a payload counts (`ResponseMap.get?_ofEntries`), and towards payloads the first
entry of a name (`ResponseMap.payloadFor?_ofEntries`).  The entries that are listed are those that
count towards names, in the strict order of their payloads (`ResponseMap.ascending_ofEntries`).

So the two directions fit together if no payload is entered twice: the map holds all of the entries
then, and the payload that is found for a name is read as that name (`ResponseMap.Inverts`).
-/

namespace ProjectorControl

namespace ResponseMap

variable {entries : List (Bytes × String)} {payload : Bytes} {name : String}

/-- Where something fits, something is found. -/
theorem exists_find? {α : Type} {xs : List α} (p : α → Bool) {x : α} (member : x ∈ xs)
    (fits : p x = true) : ∃ first, xs.find? p = some first :=
  Option.isSome_iff_exists.mp (List.find?_isSome.mpr ⟨x, member, fits⟩)

/-! ## One entry more -/

theorem find?_putEntry (payload : Bytes) (name : String) (entries : List (Bytes × String))
    (other : Bytes) :
    (putEntry payload name entries).find? (fun entry => entry.1 = other) =
      if payload = other then some (payload, name)
      else entries.find? fun entry => entry.1 = other := by
  induction entries with
  | nil =>
      by_cases same : payload = other
      · simp [putEntry, same]
      · simp [putEntry, same]
  | cons entry later ih =>
      obtain ⟨p, n⟩ := entry
      rw [putEntry]
      by_cases before : payload < p
      · rw [if_pos before]
        by_cases same : payload = other
        · simp [same]
        · simp [same]
      rw [if_neg before]
      by_cases here : payload = p
      · rw [if_pos here, ← here]
        by_cases same : payload = other
        · simp [same]
        · simp [same]
      · rw [if_neg here, List.find?_cons, ih, List.find?_cons]
        by_cases same : payload = other
        · simp [same, Ne.symm (same ▸ here)]
        · simp [same]

/-- An entry counts for its payload, whatever was there before. -/
theorem get?_insert (map : ResponseMap) (payload : Bytes) (name : String) (other : Bytes) :
    (map.insert payload name).get? other =
      if payload = other then some name else map.get? other := by
  rw [get?, insert, find?_putEntry]
  by_cases same : payload = other
  · rw [if_pos same, if_pos same]
    rfl
  · rw [if_neg same, if_neg same]
    rfl

/-- An entry counts for its name if none was there before. -/
theorem payloadFor?_insert (map : ResponseMap) (payload : Bytes) (name other : String) :
    (map.insert payload name).payloadFor? other =
      (map.payloadFor? other).or (if name = other then some payload else none) := by
  simp only [payloadFor?, insert, putPayload]
  generalize map.payloads = payloads
  by_cases known : (payloads.any fun known => known.1 = name) = true
  · rw [if_pos known]
    by_cases same : name = other
    · obtain ⟨old, member, named⟩ := List.any_eq_true.mp known
      rw [same] at named
      obtain ⟨first, found⟩ := exists_find? (fun known => known.1 = other) member named
      rw [found]
      rfl
    · rw [if_neg same, Option.or_none]
  · rw [if_neg known, List.find?_append, Option.map_or, List.find?_singleton]
    by_cases same : name = other
    · simp [same]
    · simp [same]

/-! ## All entries -/

theorem ofEntries_concat (entries : List (Bytes × String)) (entry : Bytes × String) :
    ofEntries (entries ++ [entry]) = (ofEntries entries).insert entry.1 entry.2 := by
  rw [ofEntries, List.foldl_append]
  rfl

/-- The name of a payload is that of the last entry for it. -/
theorem get?_ofEntries (entries : List (Bytes × String)) (payload : Bytes) :
    (ofEntries entries).get? payload =
      (entries.reverse.find? fun entry => entry.1 = payload).map Prod.snd := by
  induction entries using List.reverseRecOn with
  | nil => rfl
  | append_singleton entries entry ih =>
      rw [ofEntries_concat, get?_insert, ih, List.reverse_concat, List.find?_cons]
      by_cases same : entry.1 = payload
      · simp [same]
      · simp [same]

/-- The payload of a name is that of the first entry for it. -/
theorem payloadFor?_ofEntries (entries : List (Bytes × String)) (name : String) :
    (ofEntries entries).payloadFor? name =
      (entries.find? fun entry => entry.2 = name).map Prod.fst := by
  induction entries using List.reverseRecOn with
  | nil => rfl
  | append_singleton entries entry ih =>
      rw [ofEntries_concat, payloadFor?_insert, ih, List.find?_append, Option.map_or,
        List.find?_singleton]
      by_cases same : entry.2 = name
      · simp [same]
      · simp [same]

/-! ## The order of the payloads -/

/-- Each payload stands before all later ones. -/
def Ascending (entries : List (Bytes × String)) : Prop :=
  entries.Pairwise fun entry later => entry.1 < later.1

theorem mem_putEntry {entry : Bytes × String} (member : entry ∈ putEntry payload name entries) :
    entry = (payload, name) ∨ entry ∈ entries := by
  induction entries with
  | nil => exact .inl (List.mem_singleton.mp member)
  | cons first later ih =>
      obtain ⟨p, n⟩ := first
      rw [putEntry] at member
      split at member
      next => exact List.mem_cons.mp member
      next =>
        split at member
        next => exact (List.mem_cons.mp member).imp_right (List.mem_cons_of_mem _)
        next =>
          rcases List.mem_cons.mp member with rfl | behind
          · exact .inr List.mem_cons_self
          · exact (ih behind).imp_right (List.mem_cons_of_mem _)

theorem Ascending.putEntry (ascending : Ascending entries) (payload : Bytes) (name : String) :
    Ascending (putEntry payload name entries) := by
  induction entries with
  | nil => exact List.pairwise_singleton _ _
  | cons first later ih =>
      obtain ⟨p, n⟩ := first
      obtain ⟨before, rest⟩ := List.pairwise_cons.mp ascending
      rw [ResponseMap.putEntry]
      split
      next less =>
        refine List.pairwise_cons.mpr ⟨fun entry member => ?_, ascending⟩
        rcases List.mem_cons.mp member with rfl | behind
        · exact less
        · exact List.lt_trans less (before entry behind)
      next notLess =>
        split
        next same =>
          subst same
          exact List.pairwise_cons.mpr ⟨before, rest⟩
        next different =>
          have greater : p < payload :=
            Std.lt_of_le_of_ne (List.not_lt.mp notLess) (Ne.symm different)
          refine List.pairwise_cons.mpr ⟨fun entry member => ?_, ih rest⟩
          rcases mem_putEntry member with rfl | old
          · exact greater
          · exact before entry old

theorem ascending_ofEntries (entries : List (Bytes × String)) :
    Ascending (ofEntries entries).entries := by
  induction entries using List.reverseRecOn with
  | nil => exact List.Pairwise.nil
  | append_singleton entries entry ih =>
      rw [ofEntries_concat]
      exact ih.putEntry entry.1 entry.2

theorem Ascending.nodup (ascending : Ascending entries) : (entries.map Prod.fst).Nodup := by
  rw [List.nodup_iff_pairwise_ne, List.pairwise_map]
  refine ascending.imp fun before same => ?_
  rw [same] at before
  exact List.lt_irrefl _ before

/-- The first of ascending entries is the one before all others. -/
theorem Ascending.head?_eq_some_iff (ascending : Ascending entries) {entry : Bytes × String} :
    entries.head? = some entry ↔
      entry ∈ entries ∧ ∀ other ∈ entries, other ≠ entry → entry.1 < other.1 := by
  cases entries with
  | nil => simp
  | cons first later =>
      obtain ⟨before, -⟩ := List.pairwise_cons.mp ascending
      rw [List.head?_cons, Option.some.injEq]
      constructor
      · rintro rfl
        refine ⟨List.mem_cons_self, fun other member different => ?_⟩
        exact before other ((List.mem_cons.mp member).resolve_left different)
      · rintro ⟨member, least⟩
        by_cases same : first = entry
        · exact same
        · have behind : first.1 < entry.1 :=
            before entry ((List.mem_cons.mp member).resolve_left (Ne.symm same))
          exact absurd (least first List.mem_cons_self same) (List.lt_asymm behind)

/-! ## Entries of different payloads -/

/-- If no payload has two entries, each is found by its payload. -/
theorem find?_map_eq_some_iff (distinct : (entries.map Prod.fst).Nodup) :
    (entries.find? fun entry => entry.1 = payload).map Prod.snd = some name ↔
      (payload, name) ∈ entries := by
  constructor
  · intro named
    obtain ⟨entry, found, rfl⟩ := Option.map_eq_some_iff.mp named
    have same : entry.1 = payload := by simpa using List.find?_some found
    exact same ▸ List.mem_of_find?_eq_some found
  · intro member
    obtain ⟨entry, found⟩ :=
      exists_find? (fun entry => entry.1 = payload) member (decide_eq_true rfl)
    have same : entry.1 = payload := by simpa using List.find?_some found
    obtain rfl : entry = (payload, name) :=
      List.inj_on_of_nodup_map distinct (List.mem_of_find?_eq_some found) member same
    rw [found]
    rfl

/-- The map and the entries say the same, in both directions. -/
structure Inverts (map : ResponseMap) (entries : List (Bytes × String)) : Prop where
  /-- A payload has the name of its entry, and none without an entry. -/
  get?_eq_some_iff : ∀ payload name, map.get? payload = some name ↔ (payload, name) ∈ entries
  /-- A name has the payload of its first entry. -/
  payloadFor?_eq : ∀ name,
    map.payloadFor? name = (entries.find? fun entry => entry.2 = name).map Prod.fst
  /-- The payload of a name is read as that name. -/
  get?_payloadFor? : ∀ name ∈ entries.map Prod.snd,
    ∃ payload, map.payloadFor? name = some payload ∧ map.get? payload = some name
  /-- No entry is lost, and none is added. -/
  perm : map.entries.Perm entries
  /-- The entries are listed by their payloads. -/
  ascending : Ascending map.entries
  /-- The first entry has the least payload. -/
  first?_eq_some_iff : ∀ entry, map.first? = some entry ↔
    entry ∈ entries ∧ ∀ other ∈ entries, other ≠ entry → entry.1 < other.1

theorem get?_ofEntries_eq_some_iff (distinct : (entries.map Prod.fst).Nodup) :
    (ofEntries entries).get? payload = some name ↔ (payload, name) ∈ entries := by
  have backwards : (entries.reverse.map Prod.fst).Nodup := by
    rw [List.map_reverse]
    exact List.nodup_reverse.mpr distinct
  rw [get?_ofEntries, find?_map_eq_some_iff backwards, List.mem_reverse]

/-- The entries that are listed are those that were entered. -/
theorem perm_ofEntries (distinct : (entries.map Prod.fst).Nodup) :
    (ofEntries entries).entries.Perm entries := by
  have listed := (ascending_ofEntries entries).nodup
  rw [List.perm_ext_iff_of_nodup (List.Nodup.of_map _ listed) (List.Nodup.of_map _ distinct)]
  rintro ⟨payload, name⟩
  rw [← find?_map_eq_some_iff listed]
  exact get?_ofEntries_eq_some_iff distinct

theorem exists_get?_payloadFor? (distinct : (entries.map Prod.fst).Nodup)
    (present : name ∈ entries.map Prod.snd) :
    ∃ payload, (ofEntries entries).payloadFor? name = some payload ∧
      (ofEntries entries).get? payload = some name := by
  obtain ⟨entry, member, named⟩ := List.mem_map.mp present
  obtain ⟨⟨payload, same⟩, found⟩ :=
    exists_find? (fun entry => entry.2 = name) member (decide_eq_true named)
  obtain rfl : same = name := by simpa using List.find?_some found
  refine ⟨payload, ?_, ?_⟩
  · rw [payloadFor?_ofEntries, found]
    rfl
  · rw [get?_ofEntries_eq_some_iff distinct]
    exact List.mem_of_find?_eq_some found

/-- The map of entries with different payloads says what they say. -/
theorem inverts_ofEntries (distinct : (entries.map Prod.fst).Nodup) :
    (ofEntries entries).Inverts entries where
  get?_eq_some_iff _ _ := get?_ofEntries_eq_some_iff distinct
  payloadFor?_eq := payloadFor?_ofEntries entries
  get?_payloadFor? _ := exists_get?_payloadFor? distinct
  perm := perm_ofEntries distinct
  ascending := ascending_ofEntries entries
  first?_eq_some_iff entry := by
    rw [first?, (ascending_ofEntries entries).head?_eq_some_iff]
    simp only [(perm_ofEntries distinct).mem_iff]

end ResponseMap

end ProjectorControl
