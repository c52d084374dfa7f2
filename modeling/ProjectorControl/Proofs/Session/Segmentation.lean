import ProjectorControl.Proofs.Session.Authentication

/-!
# Requests in chunks

A request may reach a session in any number of chunks.  What the session says to them depends
on what is still missing of the request: `Verdict` has one rule for each of the three answers,
and `Session.verdict` follows it through the chunks.

A session lets its client in as soon as it has heard the expected request, so the cuts between
the chunks do make a difference if the client says more than that.  `Session.accepted_iff`
says which: the client is let in exactly if a cut stands right behind the expected request.
-/

namespace ProjectorControl

open SessionAction (asked said)

namespace Session

/-! ## A session that is only sent bytes -/

/-- A session that does not read says nothing, whatever it is sent. -/
theorem said_receive_of_rejecting {s : Session} (refused : s.state = .rejecting)
    (chunks : List Bytes) : said (s.run (chunks.map .receive)).actions = [] := by
  induction chunks with
  | nil => rfl
  | cons chunk later ih =>
      have ignored : s.call (.receive chunk) = (.ok [], s) := by
        simp only [call, receive, refused]
      rw [List.map_cons, actions_run_cons, ignored]
      exact ih

/-- A session that has let its client in says nothing by itself. -/
theorem said_receive_of_ready {s : Session} (ready : s.state = .ready) (chunks : List Bytes) :
    said (s.run (chunks.map .receive)).actions = [] := by
  induction chunks generalizing s with
  | nil => rfl
  | cons chunk later ih =>
      obtain ⟨result, after, called, step⟩ := s.exists_step (.receive chunk)
      rw [List.map_cons, actions_run_cons, SessionAction.said_append, called]
      cases step with
      | await waiting => exact nomatch ready.symm.trans waiting
      | accept waiting => exact nomatch ready.symm.trans waiting
      | refuse waiting => exact nomatch ready.symm.trans waiting
      | serve =>
          rw [asked, SessionAction.said_serve, List.nil_append]
          exact ih ready
      | fail => exact ih ready
      | ignore _ notReady => exact absurd ready notReady

/-! ## The verdict on a request -/

/-- One of the cuts between chunks stands right behind the given bytes. -/
def CutBehind (bytes : Bytes) (chunks : List Bytes) : Prop :=
  ∃ k, (chunks.take k).flatten = bytes

theorem not_cutBehind_nil {missing : Bytes} (more : missing ≠ []) : ¬ CutBehind missing [] := by
  rintro ⟨k, eq⟩
  rw [List.take_nil, List.flatten_nil] at eq
  exact more eq.symm

/-- Behind a chunk that is not all, the cut is sought among the later chunks. -/
theorem cutBehind_cons {chunk rest : Bytes} {later : List Bytes} (more : chunk ++ rest ≠ []) :
    CutBehind (chunk ++ rest) (chunk :: later) ↔ CutBehind rest later := by
  constructor
  · rintro ⟨k, eq⟩
    cases k with
    | zero => exact absurd eq.symm more
    | succ k =>
        rw [List.take_succ_cons, List.flatten_cons] at eq
        exact ⟨k, List.append_cancel_left eq⟩
  · rintro ⟨k, rfl⟩
    exact ⟨k + 1, by rw [List.take_succ_cons, List.flatten_cons]⟩

/-- What a cut stands behind is the front of the stream. -/
theorem CutBehind.isPrefix {bytes : Bytes} {chunks : List Bytes} (cut : CutBehind bytes chunks) :
    bytes <+: chunks.flatten := by
  obtain ⟨k, rfl⟩ := cut
  exact ⟨(chunks.drop k).flatten, by rw [← List.flatten_append, List.take_append_drop]⟩

/-- What a session says to chunks while bytes of its request are missing. -/
inductive Verdict (missing : Bytes) (chunks : List Bytes) : List Bytes → Prop where
  /-- A chunk ended where the request ends. -/
  | accepted : CutBehind missing chunks → Verdict missing chunks [Handshake.accepted]
  /-- None did, and the chunks are not what was missing. -/
  | refused :
      ¬ CutBehind missing chunks → ¬ chunks.flatten <+: missing →
      Verdict missing chunks [Handshake.refused]
  /-- They may still become so. -/
  | pending :
      ¬ CutBehind missing chunks → chunks.flatten <+: missing → Verdict missing chunks []

/-- A chunk of the missing bytes leaves the verdict to the later chunks. -/
theorem Verdict.cons {chunk missing : Bytes} {later : List Bytes} {spoken : List Bytes}
    (more : chunk ++ missing ≠ []) (h : Verdict missing later spoken) :
    Verdict (chunk ++ missing) (chunk :: later) spoken := by
  cases h with
  | accepted cut => exact .accepted ((cutBehind_cons more).mpr cut)
  | refused uncut wrong =>
      refine .refused (fun cut => uncut ((cutBehind_cons more).mp cut)) fun fits => wrong ?_
      rwa [List.flatten_cons, List.prefix_append_right_inj] at fits
  | pending uncut fits =>
      refine .pending (fun cut => uncut ((cutBehind_cons more).mp cut)) ?_
      rwa [List.flatten_cons, List.prefix_append_right_inj]

/-- A chunk that does not begin what is missing decides against the client. -/
theorem Verdict.of_mismatch {chunk missing : Bytes} (more : missing ≠ [])
    (wrong : ¬ chunk <+: missing) (later : List Bytes) :
    Verdict missing (chunk :: later) [Handshake.refused] := by
  have begins : chunk <+: (chunk :: later).flatten := List.prefix_append chunk later.flatten
  refine .refused ?_ fun fits => wrong (begins.trans fits)
  rintro ⟨k, eq⟩
  cases k with
  | zero => exact more eq.symm
  | succ k =>
      rw [List.take_succ_cons, List.flatten_cons] at eq
      exact wrong ⟨_, eq⟩

/-- The verdict is the one on the chunks, wherever the session stands in its request. -/
theorem verdict {s : Session} {missing : Bytes} (waiting : s.state = .authenticating)
    (rest : s.request ++ missing = s.expected) (more : missing ≠ []) (chunks : List Bytes) :
    Verdict missing chunks (said (s.run (chunks.map .receive)).actions) := by
  -- What is missing shrinks by each chunk that fits, and never becomes empty on the way.
  induction chunks generalizing s missing with
  | nil => exact .pending (not_cutBehind_nil more) List.nil_prefix
  | cons chunk later ih =>
      obtain ⟨result, after, called, step⟩ := s.exists_step (.receive chunk)
      rw [List.map_cons, actions_run_cons, SessionAction.said_append, called]
      cases step with
      | await _ fits unequal =>
          rw [← rest, List.prefix_append_right_inj] at fits
          obtain ⟨missing', rfl⟩ := fits
          have rest' : s.request ++ chunk ++ missing' = s.expected := by
            rw [List.append_assoc]
            exact rest
          have more' : missing' ≠ [] := by
            rintro rfl
            exact unequal (by rw [← rest', List.append_nil])
          exact (ih (s := { s with request := s.request ++ chunk }) waiting rest' more').cons more
      | accept _ whole =>
          rw [← rest, List.append_cancel_left_eq] at whole
          rw [said_receive_of_ready rfl later]
          exact .accepted ⟨1, by simp [whole]⟩
      | refuse _ wrong =>
          rw [← rest, List.prefix_append_right_inj] at wrong
          rw [said_receive_of_rejecting rfl later]
          exact .of_mismatch more wrong later
      | serve ready => exact nomatch waiting.symm.trans ready
      | fail ready => exact nomatch waiting.symm.trans ready
      | ignore notWaiting => exact absurd waiting notWaiting

theorem requestWith_ne_nil (password : Option String) : Handshake.requestWith password ≠ [] := by
  intro nil
  unfold Handshake.requestWith at nil
  split at nil
  · cases nil
  · split at nil
    · cases nil
    · cases nil

/-- What a new session says once it has greeted its client and was sent chunks. -/
theorem said_connect_receive (password : Option String) (chunks : List Bytes) :
    ∃ spoken, Verdict (Handshake.requestWith password) chunks spoken ∧
      said ((Session.new password).run (.connect :: chunks.map .receive)).actions =
        Handshake.greeting :: spoken := by
  have waiting : ((Session.new password).call .connect).2.state = .authenticating := rfl
  refine ⟨_, verdict waiting (List.nil_append _) (requestWith_ne_nil password) chunks, ?_⟩
  rw [actions_run_cons, SessionAction.said_append]
  rfl

/-- An acceptance is said exactly if a cut stands behind what was missing. -/
theorem Verdict.accepted_mem_iff {missing : Bytes} {chunks spoken : List Bytes}
    (h : Verdict missing chunks spoken) :
    Handshake.accepted ∈ Handshake.greeting :: spoken ↔ CutBehind missing chunks := by
  cases h with
  | accepted cut => exact iff_of_true (by decide) cut
  | refused uncut => exact iff_of_false (by decide) uncut
  | pending uncut => exact iff_of_false (by decide) uncut

/-- A refusal is said exactly if none does and the chunks do not begin what was missing. -/
theorem Verdict.refused_mem_iff {missing : Bytes} {chunks spoken : List Bytes}
    (h : Verdict missing chunks spoken) :
    Handshake.refused ∈ Handshake.greeting :: spoken ↔
      ¬ CutBehind missing chunks ∧ ¬ chunks.flatten <+: missing := by
  cases h with
  | accepted cut => exact iff_of_false (by decide) fun h => h.1 cut
  | refused uncut wrong => exact iff_of_true (by decide) ⟨uncut, wrong⟩
  | pending _ fits => exact iff_of_false (by decide) fun h => h.2 fits

/-- How a request is cut into chunks matters only if it goes on behind the expected one.  A
client is let in exactly if one of the cuts, the end counted as one, stands right behind the
expected request, and refused exactly if none does and its bytes do not begin that request.
So bytes that do not go on behind the expected request are let in exactly if they are that
request, and bytes that do are refused unless a cut stands right behind it. -/
theorem accepted_iff (password : Option String) (chunks : List Bytes) :
    let expected := Handshake.requestWith password
    let spoken := said ((Session.new password).run (.connect :: chunks.map .receive)).actions
    (Handshake.accepted ∈ spoken ↔ ∃ k, (chunks.take k).flatten = expected) ∧
      (Handshake.refused ∈ spoken ↔
        (¬ ∃ k, (chunks.take k).flatten = expected) ∧ ¬ chunks.flatten <+: expected) ∧
      (¬ (expected <+: chunks.flatten ∧ chunks.flatten ≠ expected) →
        (Handshake.accepted ∈ spoken ↔ chunks.flatten = expected)) ∧
      (expected <+: chunks.flatten ∧ chunks.flatten ≠ expected →
        (Handshake.refused ∈ spoken ↔ ¬ ∃ k, (chunks.take k).flatten = expected)) := by
  obtain ⟨spoken, verdict, said⟩ := said_connect_receive password chunks
  rw [said]
  refine ⟨verdict.accepted_mem_iff, verdict.refused_mem_iff, fun short => ?_, fun long => ?_⟩
  · rw [verdict.accepted_mem_iff]
    constructor
    · intro cut
      exact Decidable.byContradiction fun unequal => short ⟨cut.isPrefix, unequal⟩
    · intro whole
      exact ⟨chunks.length, by rw [List.take_length, whole]⟩
  · have beyond : ¬ chunks.flatten <+: Handshake.requestWith password := fun fits =>
      long.2 (fits.eq_of_length_le long.1.length_le)
    rw [verdict.refused_mem_iff]
    exact and_iff_left beyond

/-- A client that asks without a password and says more at once is let in if the cut stands
between the two, although the whole is not the expected request.  In one chunk the same bytes
are refused. -/
theorem accepted_before_more :
    let chunks : List Bytes := [Handshake.request, [0x58]]
    let spoken := said ((Session.new none).run (.connect :: chunks.map .receive)).actions
    let spokenAtOnce := said ((Session.new none).run [.connect, .receive chunks.flatten]).actions
    Handshake.accepted ∈ spoken ∧ Handshake.refused ∉ spoken ∧
      chunks.flatten ≠ Handshake.requestWith none ∧
      Handshake.requestWith none <+: chunks.flatten ∧
      Handshake.accepted ∉ spokenAtOnce ∧ Handshake.refused ∈ spokenAtOnce := by
  decide +kernel

end Session

end ProjectorControl
