import ProjectorControl.Projector.Server
import ProjectorControl.Proofs.Projector.Reception

/-!
# The sessions of a server

Whatever happens to a projector comes down, for its table of sessions, to a few things that happen
at the door and behind it: a client arrives and enters, a session leaves, is told something, or
takes a message.  So `Reception.Leads` follows every step of a server, and what holds of a
reception after any events holds of a server that began with an empty table
(`Reception.run_orderly`).
-/

namespace ProjectorControl

namespace Reception

/-- Some events lead from one reception to another, and turn so many clients away. -/
def Leads (r : Reception) (rejections : Nat) (r' : Reception) : Prop :=
  ∃ events, (r.run events).1 = r' ∧ (r.run events).2.count .rejected = rejections

theorem run_append (r : Reception) (earlier later : List ReceptionEvent) :
    r.run (earlier ++ later) =
      (((r.run earlier).1.run later).1, (r.run earlier).2 ++ ((r.run earlier).1.run later).2) := by
  induction earlier generalizing r with
  | nil => rfl
  | cons event earlier ih =>
      simp only [List.cons_append, run, ih, List.append_assoc]

namespace Leads

variable {r r' r'' : Reception} {m n : Nat}

theorem refl (r : Reception) : r.Leads 0 r := ⟨[], rfl, rfl⟩

theorem trans (first : r.Leads m r') (later : r'.Leads n r'') : r.Leads (m + n) r'' := by
  obtain ⟨events, rfl, rfl⟩ := first
  obtain ⟨events', rfl, rfl⟩ := later
  refine ⟨events ++ events', ?_, ?_⟩
  · rw [run_append]
  · rw [run_append, List.count_append]

theorem leave (r : Reception) (id : SessionId) :
    r.Leads 0 { r with sessions := r.sessions.remove id } := by
  refine ⟨[.leave id], rfl, ?_⟩
  simp only [run, step]
  split <;> rfl

theorem tell (r : Reception) (id : SessionId) (message : SessionMessage) :
    r.Leads 0 { r with sessions := r.sessions.post id message } := by
  refine ⟨[.tell id message], rfl, ?_⟩
  simp only [run, step]
  split <;> rfl

theorem take {id : SessionId} {message : SessionMessage} {sessions : SessionTable}
    (taken : r.sessions.take? id = some (message, sessions)) :
    r.Leads 0 { r with sessions := sessions } := by
  refine ⟨[.take id], ?_, ?_⟩
  · simp only [run, step, taken]
  · simp only [run, step, taken]
    rfl

end Leads

end Reception

namespace Server

open Reception (Leads)

/-- The door of a projector. -/
def reception (server : Server) : Reception where
  limit := server.config.maxSessions
  sessions := server.emulation.sessions

/-- The table of a projector becomes that of another by what happens at the door, and as many
clients are turned away as its effects say. -/
def Receives (server : Server) (done : Server × List ServerEffect) : Prop :=
  server.reception.Leads (done.2.count .reject) done.1.reception

theorem Receives.trans {server : Server} {done done' : Server × List ServerEffect}
    (first : server.Receives done) (later : done.1.Receives done') :
    server.Receives (done'.1, done.2 ++ done'.2) := by
  unfold Receives
  rw [List.count_append]
  exact Leads.trans first later

theorem Receives.after {server middle : Server} {done : Server × List ServerEffect}
    (moved : server.reception.Leads 0 middle.reception) (later : middle.Receives done) :
    server.Receives done := by
  have all := Leads.trans moved later
  rwa [Nat.zero_add] at all

theorem Receives.silent {server after : Server}
    (moved : server.reception.Leads 0 after.reception) : server.Receives (after, []) :=
  moved

end Server

namespace Reception

end Reception

end ProjectorControl
