import Mathlib.Data.List.Nodup
import ProjectorControl.Proofs.Projector.Mailboxes

/-!
# Who is let in, and under which number

A projector looks whether there is room for another session, and opens one in a second step.  In
between, and at any time, sessions end and are told something.

    limit 2    arrive  enter  arrive  enter  arrive    leave 1  arrive  enter
    sessions           1              1 2    rejected  2                2 3

A `Reception` is a table of sessions with whoever is at the door, and it notes what happens.
`Reception.Kept` is what every step keeps between the table and the notes, so it holds after any
steps in any order, and `Reception.Orderly` is what can be read off it.
-/

namespace ProjectorControl

/-! ## The table -/

namespace SessionTable

theorem ids_openSession (t : SessionTable) : t.openSession.2.ids = t.ids ++ [t.openSession.1] :=
  List.map_append

/-- The numbers so far, and the next one. -/
theorem range'_openSession (t : SessionTable) :
    List.range' 1 t.opened ++ [t.openSession.1] = List.range' 1 t.openSession.2.opened := by
  change _ = List.range' 1 (t.opened + 1)
  rw [List.range'_1_concat, Nat.add_comm]
  rfl

theorem ids_remove (t : SessionTable) (id : SessionId) :
    (t.remove id).ids = t.ids.filter fun other => other ≠ id := by
  unfold ids remove
  rw [List.filter_map]
  rfl

theorem ids_map {f : SessionEntry → SessionEntry} (keeps : ∀ e, (f e).id = e.id)
    (entries : List SessionEntry) :
    (entries.map f).map SessionEntry.id = entries.map SessionEntry.id := by
  rw [List.map_map]
  exact List.map_congr_left fun e _ => keeps e

theorem ids_post (t : SessionTable) (id : SessionId) (message : SessionMessage) :
    (t.post id message).ids = t.ids := by
  refine ids_map (fun e => ?_) t.entries
  split <;> rfl

theorem ids_of_take? {t after : SessionTable} {id : SessionId} {message : SessionMessage}
    (taken : t.take? id = some (message, after)) : after.ids = t.ids := by
  unfold take? at taken
  split at taken
  next => cases taken
  next => cases taken
  next =>
    cases taken
    refine ids_map (fun e => ?_) t.entries
    split <;> rfl

theorem size_eq (t : SessionTable) : t.size = t.ids.length := (List.length_map _).symm

theorem mem_ids_iff {t : SessionTable} {id : SessionId} :
    id ∈ t.ids ↔ ∃ mailbox, t.mailbox? id = some mailbox := by
  rw [← Option.isSome_iff_exists, mailbox?, Option.isSome_map, List.find?_isSome, ids, List.mem_map]
  simp only [decide_eq_true_eq]

/-- What is said to nobody changes nothing. -/
theorem post_of_notMem {t : SessionTable} {id : SessionId} (absent : id ∉ t.ids)
    (message : SessionMessage) : t.post id message = t := by
  have untouched : ∀ e ∈ t.entries, e.id ≠ id :=
    fun e member same => absent (same ▸ List.mem_map_of_mem member)
  unfold post
  rw [List.map_congr_left fun e member => if_neg (untouched e member), List.map_id']

/-- Who is not there cannot be taken out. -/
theorem remove_of_notMem {t : SessionTable} {id : SessionId} (absent : id ∉ t.ids) :
    t.remove id = t := by
  have untouched : ∀ e ∈ t.entries, decide (e.id ≠ id) = true :=
    fun e member => decide_eq_true fun same => absent (same ▸ List.mem_map_of_mem member)
  unfold remove
  rw [List.filter_eq_self.mpr untouched]

/-- In whatever order the sessions are found, by number they are in the order of the table. -/
theorem mergeSort_eq {t : SessionTable} (increasing : t.ids.Pairwise (· < ·))
    {found : List SessionEntry} (same : found.Perm t.entries) :
    (found.mergeSort fun a b => a.id ≤ b.id) = t.entries := by
  have sorted : t.entries.Pairwise fun a b => decide (a.id ≤ b.id) = true :=
    (List.pairwise_map.mp increasing).imp fun less => decide_eq_true (Nat.le_of_lt less)
  have distinct : t.ids.Nodup := increasing.imp Nat.ne_of_lt
  refine List.Perm.eq_of_pairwise ?_ (List.pairwise_mergeSort ?_ ?_ found) sorted
    ((List.mergeSort_perm found _).trans same)
  · intro a b member member' le ge
    have listed := same.mem_iff.mp (List.mem_mergeSort.mp member)
    exact List.inj_on_of_nodup_map distinct listed member'
      (Nat.le_antisymm (of_decide_eq_true le) (of_decide_eq_true ge))
  · intro a b c le le'
    exact decide_eq_true (Nat.le_trans (of_decide_eq_true le) (of_decide_eq_true le'))
  · intro a b
    simpa using Nat.le_total a.id b.id

end SessionTable

/-! ## The door -/

/-- A table of sessions, and whoever is at the door. -/
structure Reception where
  /-- How many sessions there may be. -/
  limit : Nat
  /-- The sessions. -/
  sessions : SessionTable := {}
  /-- Whether a client was let in whose session is not open yet. -/
  entering : Bool := false

/-- What can happen at the door and behind it. -/
inductive ReceptionEvent where
  /-- A client connects, and it is seen whether there is room. -/
  | arrive
  /-- The session of a client that was let in is opened. -/
  | enter
  /-- A session ends. -/
  | leave (id : SessionId)
  /-- A session is told something. -/
  | tell (id : SessionId) (message : SessionMessage)
  /-- A session takes the first message from its mailbox. -/
  | take (id : SessionId)
  deriving DecidableEq, Repr

/-- What is noted. -/
inductive ReceptionNote where
  /-- A client was turned away. -/
  | rejected
  /-- A session was opened. -/
  | opened (id : SessionId)
  /-- A session was taken out. -/
  | removed (id : SessionId)
  /-- A session in the table was told something. -/
  | told (id : SessionId) (message : SessionMessage)
  /-- A session has taken a message. -/
  | taken (id : SessionId) (message : SessionMessage)
  deriving DecidableEq, Repr

namespace ReceptionNote

/-- The numbers under which sessions were opened, in order. -/
def openings (notes : List ReceptionNote) : List SessionId :=
  notes.filterMap fun
    | opened id => some id
    | _ => none

/-- What a session was told, in order. -/
def toldTo (id : SessionId) (notes : List ReceptionNote) : List SessionMessage :=
  notes.filterMap fun
    | told other message => if other = id then some message else none
    | _ => none

/-- What a session has taken, in order. -/
def takenBy (id : SessionId) (notes : List ReceptionNote) : List SessionMessage :=
  notes.filterMap fun
    | taken other message => if other = id then some message else none
    | _ => none

/-- The session that a note is about. -/
def session? : ReceptionNote → Option SessionId
  | rejected => none
  | opened id | removed id | told id _ | taken id _ => some id

variable {id : SessionId} {notes : List ReceptionNote}

@[simp] theorem openings_append (earlier later : List ReceptionNote) :
    openings (earlier ++ later) = openings earlier ++ openings later :=
  List.filterMap_append

@[simp] theorem toldTo_append (id : SessionId) (earlier later : List ReceptionNote) :
    toldTo id (earlier ++ later) = toldTo id earlier ++ toldTo id later :=
  List.filterMap_append

@[simp] theorem takenBy_append (id : SessionId) (earlier later : List ReceptionNote) :
    takenBy id (earlier ++ later) = takenBy id earlier ++ takenBy id later :=
  List.filterMap_append

theorem openings_concat {note : ReceptionNote} (other : ∀ id, note ≠ opened id) :
    openings (notes ++ [note]) = openings notes := by
  rw [openings_append]
  cases note with
  | opened id => exact absurd rfl (other id)
  | _ => exact List.append_nil _

theorem toldTo_of_silent (silent : ∀ note ∈ notes, note.session? ≠ some id) :
    toldTo id notes = [] := by
  refine List.filterMap_eq_nil_iff.mpr fun note member => ?_
  have other := silent note member
  cases note with
  | told source message => exact if_neg fun same => other (congrArg some same)
  | _ => rfl

theorem takenBy_of_silent (silent : ∀ note ∈ notes, note.session? ≠ some id) :
    takenBy id notes = [] := by
  refine List.filterMap_eq_nil_iff.mpr fun note member => ?_
  have other := silent note member
  cases note with
  | taken source message => exact if_neg fun same => other (congrArg some same)
  | _ => rfl

end ReceptionNote

namespace Reception

open ReceptionNote (openings toldTo takenBy)

/-- What comes of an event. -/
def step (r : Reception) : ReceptionEvent → Reception × List ReceptionNote
  | .arrive =>
    if r.entering then (r, [])
    else if r.limit ≤ r.sessions.size then (r, [.rejected])
    else ({ r with entering := true }, [])
  | .enter =>
    if r.entering then
      let (id, sessions) := r.sessions.openSession
      ({ r with sessions := sessions, entering := false }, [.opened id])
    else (r, [])
  | .leave id =>
    ({ r with sessions := r.sessions.remove id },
      if id ∈ r.sessions.ids then [.removed id] else [])
  | .tell id message =>
    ({ r with sessions := r.sessions.post id message },
      if id ∈ r.sessions.ids then [.told id message] else [])
  | .take id =>
    match r.sessions.take? id with
    | none => (r, [])
    | some (message, sessions) => ({ r with sessions := sessions }, [.taken id message])

/-- Lets several things happen, one after another. -/
def run (r : Reception) : List ReceptionEvent → Reception × List ReceptionNote
  | [] => (r, [])
  | event :: later =>
    let (r, first) := r.step event
    let (r, rest) := r.run later
    (r, first ++ rest)

/-- What every step keeps between the table and the notes. -/
structure Kept (r : Reception) (notes : List ReceptionNote) : Prop where
  /-- There is room for everybody, and for whoever is at the door. -/
  room : r.sessions.size + r.entering.toNat ≤ r.limit
  /-- Sessions are counted. -/
  counted : openings notes = List.range' 1 r.sessions.opened
  /-- No note is about a session that was not opened yet. -/
  known : ∀ note ∈ notes, ∀ id ∈ note.session?, id ≤ r.sessions.opened
  /-- The table is in the order of the openings. -/
  listed : r.sessions.ids.Sublist (List.range' 1 r.sessions.opened)
  /-- In the table is who was opened and not removed. -/
  standing : ∀ id, id ∈ r.sessions.ids ↔ .opened id ∈ notes ∧ .removed id ∉ notes
  /-- In a mailbox is what its session was told and has not taken. -/
  held : ∀ id mailbox, r.sessions.mailbox? id = some mailbox →
    toldTo id notes = takenBy id notes ++ mailbox

namespace Kept

variable {r : Reception} {notes : List ReceptionNote}

theorem start (limit : Nat) : Kept { limit := limit } [] where
  room := Nat.zero_le _
  counted := rfl
  known := List.forall_mem_nil _
  listed := .refl _
  standing := by simp [SessionTable.ids]
  held := by simp [SessionTable.mailbox?]

theorem le_opened (kept : r.Kept notes) {id : SessionId} (member : id ∈ r.sessions.ids) :
    id ≤ r.sessions.opened :=
  kept.known _ ((kept.standing id).mp member).1 id rfl

theorem silent (kept : r.Kept notes) :
    ∀ note ∈ notes, note.session? ≠ some (r.sessions.opened + 1) :=
  fun note member about => Nat.not_succ_le_self _ (kept.known note member _ about)

theorem known_concat (kept : r.Kept notes) {note : ReceptionNote} {opened : Nat}
    (later : r.sessions.opened ≤ opened) (about : ∀ id ∈ note.session?, id ≤ opened) :
    ∀ note' ∈ notes ++ [note], ∀ id ∈ note'.session?, id ≤ opened :=
  List.forall_mem_append.mpr ⟨fun note' member id same =>
    Nat.le_trans (kept.known note' member id same) later, by simpa using about⟩

theorem reject (kept : r.Kept notes) : r.Kept (notes ++ [.rejected]) where
  room := kept.room
  counted := (ReceptionNote.openings_concat (by nofun)).trans kept.counted
  known := kept.known_concat (Nat.le_refl _) nofun
  listed := kept.listed
  standing := by simpa using kept.standing
  held := by simpa [toldTo, takenBy] using kept.held

theorem enter (kept : r.Kept notes) (entering : r.entering = true) :
    Kept { r with sessions := r.sessions.openSession.2, entering := false }
      (notes ++ [.opened r.sessions.openSession.1]) where
  room := by
    have room := kept.room
    rw [entering, SessionTable.size_eq] at room
    rw [SessionTable.size_eq, SessionTable.ids_openSession, List.length_append]
    exact room
  counted := by
    rw [ReceptionNote.openings_append, kept.counted]
    exact r.sessions.range'_openSession
  known := kept.known_concat (Nat.le_succ _) fun id same => by cases same; exact Nat.le_refl _
  listed := by
    rw [SessionTable.ids_openSession, ← SessionTable.range'_openSession]
    exact kept.listed.append (.refl _)
  standing := by
    intro id
    have unremoved : .removed (r.sessions.opened + 1) ∉ notes := fun member =>
      kept.silent _ member rfl
    simp only [SessionTable.ids_openSession, List.mem_append, List.mem_singleton, kept.standing]
    by_cases new : id = r.sessions.opened + 1
    · simp [new, unremoved, SessionTable.openSession]
    · simp [new, SessionTable.openSession]
  held := by
    intro id mailbox found
    rw [SessionTable.mailbox?_openSession] at found
    rw [ReceptionNote.toldTo_append, ReceptionNote.takenBy_append]
    cases before : r.sessions.mailbox? id with
    | some earlier =>
        rw [before, Option.some_or] at found
        cases found
        simpa [toldTo, takenBy] using kept.held id mailbox before
    | none =>
        rw [before, Option.none_or] at found
        split at found
        next new =>
          cases found
          subst new
          simp only [ReceptionNote.toldTo_of_silent kept.silent,
            ReceptionNote.takenBy_of_silent kept.silent]
          rfl
        next => cases found

theorem leave (kept : r.Kept notes) {id : SessionId} (member : id ∈ r.sessions.ids) :
    Kept { r with sessions := r.sessions.remove id } (notes ++ [.removed id]) where
  room := by
    refine Nat.le_trans (Nat.add_le_add_right ?_ _) kept.room
    exact List.length_filter_le ..
  counted := (ReceptionNote.openings_concat (by nofun)).trans kept.counted
  known := kept.known_concat (Nat.le_refl _) fun _ same => by
    cases same
    exact kept.le_opened member
  listed := by
    rw [SessionTable.ids_remove]
    exact List.filter_sublist.trans kept.listed
  standing := by
    intro other
    rw [SessionTable.ids_remove, List.mem_filter, kept.standing]
    by_cases same : other = id <;> simp [same]
  held := by
    intro other mailbox found
    rw [SessionTable.mailbox?_remove] at found
    split at found
    next => cases found
    next => simpa [toldTo, takenBy] using kept.held other mailbox found

theorem tell (kept : r.Kept notes) {id : SessionId} (member : id ∈ r.sessions.ids)
    (message : SessionMessage) :
    Kept { r with sessions := r.sessions.post id message } (notes ++ [.told id message]) where
  room := by
    rw [SessionTable.size_eq, SessionTable.ids_post, ← SessionTable.size_eq]
    exact kept.room
  counted := (ReceptionNote.openings_concat (by nofun)).trans kept.counted
  known := kept.known_concat (Nat.le_refl _) fun _ same => by
    cases same
    exact kept.le_opened member
  listed := by
    rw [SessionTable.ids_post]
    exact kept.listed
  standing := by
    intro other
    rw [SessionTable.ids_post, kept.standing]
    simp
  held := by
    intro other mailbox found
    rw [SessionTable.mailbox?_post] at found
    obtain ⟨earlier, before, rfl⟩ := Option.map_eq_some_iff.mp found
    rw [ReceptionNote.toldTo_append, ReceptionNote.takenBy_append, kept.held other earlier before]
    simp only [toldTo, takenBy]
    by_cases same : id = other <;> simp [same]

theorem take (kept : r.Kept notes) {id : SessionId} {message : SessionMessage}
    {sessions : SessionTable} (taken : r.sessions.take? id = some (message, sessions)) :
    Kept { r with sessions := sessions } (notes ++ [.taken id message]) := by
  obtain ⟨opened, later, front, mailboxes⟩ := SessionTable.mailbox?_of_take? taken
  have ids := SessionTable.ids_of_take? taken
  have member : id ∈ r.sessions.ids := SessionTable.mem_ids_iff.mpr ⟨_, front⟩
  exact {
    room := by
      rw [SessionTable.size_eq, ids, ← SessionTable.size_eq]
      exact kept.room
    counted := by
      rw [opened]
      exact (ReceptionNote.openings_concat (by nofun)).trans kept.counted
    known := kept.known_concat (Nat.le_of_eq opened.symm) fun _ same => by
      cases same
      rw [opened]
      exact kept.le_opened member
    listed := by
      rw [ids, opened]
      exact kept.listed
    standing := by
      intro other
      rw [ids, kept.standing]
      simp
    held := by
      intro other mailbox found
      rw [mailboxes] at found
      rw [ReceptionNote.toldTo_append, ReceptionNote.takenBy_append]
      split at found
      next same =>
        cases found
        subst same
        rw [kept.held id _ front]
        simp [toldTo, takenBy]
      next other =>
        rw [kept.held _ mailbox found]
        simp [toldTo, takenBy, other] }

/-- Whatever happens is noted as it is. -/
theorem step (kept : r.Kept notes) (event : ReceptionEvent) :
    (r.step event).1.Kept (notes ++ (r.step event).2) := by
  have still : r.Kept (notes ++ []) := (List.append_nil notes).symm ▸ kept
  unfold Reception.step
  cases event with
  | arrive =>
      dsimp only
      split
      next => exact still
      next outside =>
        split
        next => exact kept.reject
        next free =>
          have room : r.sessions.size + 1 ≤ r.limit := Nat.lt_of_not_le free
          exact { still with room := room }
  | enter =>
      dsimp only
      split
      next entering => exact kept.enter entering
      next => exact still
  | leave id =>
      dsimp only
      split
      next member => exact kept.leave member
      next absent =>
        rw [SessionTable.remove_of_notMem absent]
        exact still
  | tell id message =>
      dsimp only
      split
      next member => exact kept.tell member message
      next absent =>
        rw [SessionTable.post_of_notMem absent]
        exact still
  | take id =>
      dsimp only
      cases taken : r.sessions.take? id with
      | none => exact still
      | some found => exact kept.take taken

theorem run (kept : r.Kept notes) (events : List ReceptionEvent) :
    (r.run events).1.Kept (notes ++ (r.run events).2) := by
  induction events generalizing r notes with
  | nil => exact (List.append_nil notes).symm ▸ kept
  | cons event later ih =>
      have all := ih (kept.step event)
      rw [List.append_assoc] at all
      exact all

end Kept

/-- A table whose notes are in order: who is let in, under which number, and whom a message
reaches. -/
structure Orderly (r : Reception) (notes : List ReceptionNote) : Prop where
  /-- There are no more sessions than there may be. -/
  size_le : r.sessions.size ≤ r.limit
  /-- Whoever is turned away comes when there are just as many. -/
  rejects : ∀ event, .rejected ∈ (r.step event).2 ↔
    event = .arrive ∧ r.entering = false ∧ r.sessions.size = r.limit
  /-- The next number is higher than all before, also than those of sessions that have ended. -/
  increasing : (openings notes).Pairwise (· < ·)
  /-- In the table is who was opened and not removed. -/
  standing : ∀ id, id ∈ r.sessions.ids ↔ .opened id ∈ notes ∧ .removed id ∉ notes
  /-- They are in the order in which they were opened. -/
  listed : r.sessions.ids.Sublist (openings notes)
  /-- In whatever order they are found, by number they are in this order. -/
  snapshot : ∀ found : List SessionEntry, found.Perm r.sessions.entries →
    (found.mergeSort fun a b => a.id ≤ b.id) = r.sessions.entries
  /-- A message reaches the session of its number, if it is in the table, behind all that the
  session was told before, and reaches no other. -/
  reaches : ∀ id ∈ r.sessions.ids, ∃ mailbox, toldTo id notes = takenBy id notes ++ mailbox ∧
    r.sessions.mailbox? id = some mailbox ∧
    ∀ message other, (r.sessions.post id message).mailbox? other =
      if id = other then some (mailbox ++ [message]) else r.sessions.mailbox? other
  /-- Under the number of a session that has ended, or that nobody has, a message changes
  nothing. -/
  unreached : ∀ id, id ∉ r.sessions.ids → ∀ message, r.sessions.post id message = r.sessions

theorem rejected_mem_step {r : Reception} {event : ReceptionEvent} :
    .rejected ∈ (r.step event).2 ↔
      event = .arrive ∧ r.entering = false ∧ r.limit ≤ r.sessions.size := by
  unfold step
  cases event with
  | arrive =>
      dsimp only
      split
      next entering => simp [entering]
      next outside =>
        split
        next full => simp [outside, full]
        next free => simp [free]
  | enter =>
      dsimp only
      split <;> simp
  | leave id =>
      dsimp only
      split <;> simp
  | tell id message =>
      dsimp only
      split <;> simp
  | take id =>
      dsimp only
      split <;> simp

theorem Kept.orderly {r : Reception} {notes : List ReceptionNote} (kept : r.Kept notes) :
    r.Orderly notes := by
  have room : r.sessions.size ≤ r.limit := Nat.le_trans (Nat.le_add_right _ _) kept.room
  have counting : (List.range' 1 r.sessions.opened).Pairwise (· < ·) := List.pairwise_lt_range'
  refine ⟨room, fun event => ?_, kept.counted ▸ counting, kept.standing,
    kept.counted ▸ kept.listed,
    fun found => SessionTable.mergeSort_eq (counting.sublist kept.listed), fun id member => ?_,
    fun id absent => SessionTable.post_of_notMem absent⟩
  · rw [rejected_mem_step, Nat.le_antisymm_iff, and_iff_right room]
  · obtain ⟨mailbox, found⟩ := SessionTable.mem_ids_iff.mp member
    refine ⟨mailbox, kept.held id mailbox found, found, fun message other => ?_⟩
    rw [SessionTable.mailbox?_post]
    split
    next same =>
      subst same
      rw [found]
      rfl
    next => cases r.sessions.mailbox? other <;> simp

end Reception

end ProjectorControl
