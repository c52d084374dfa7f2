import ProjectorControl.Proofs.Session.Run

/-!
# Letting clients in

`SessionRun.Lawful` is what holds of every run of a new session: the request it expects stays
the same, its actions have a `Transcript`, and as long as it waits for the request it has kept
all of it that it has heard.  A call keeps this (`SessionRun.Lawful.extend`), whichever rule it
follows.

An acceptance comes from one rule only (`Session.Step.accepted_inv`), and no rule asks for
anything once the session was told to close (`Session.Step.of_not_live`).  Together this gives
`Session.authentication_safe`.
-/

namespace ProjectorControl

open SessionAction (asked said dispatched Guarded)

/-! ## What holds of every run -/

/-- What holds after any calls on a new session that expects a request. -/
structure SessionRun.Lawful (expected : Bytes) (r : SessionRun) : Prop where
  /-- The expected request stays the same. -/
  expected_eq : r.session.expected = expected
  /-- The actions are those of a session in this state. -/
  transcript : Transcript r.session.state r.actions
  /-- Until the client is let in or refused, all it has said is kept as its request. -/
  waiting :
    r.session.state = .unconnected ∨ r.session.state = .authenticating →
      r.heard = r.session.request ∧ r.session.decoder = {}

namespace SessionRun

theorem lawful_new (password : Option String) :
    Lawful (Handshake.requestWith password) { session := Session.new password } where
  expected_eq := rfl
  transcript := .start
  waiting _ := ⟨rfl, rfl⟩

/-- A call keeps what holds of a run. -/
theorem Lawful.extend {expected : Bytes} {r : SessionRun} (h : r.Lawful expected)
    (call : SessionCall) : (r.extend call).Lawful expected := by
  obtain ⟨result, after, called, step⟩ := r.session.exists_step call
  have told := h.transcript
  unfold SessionRun.extend
  rw [called]
  cases step with
  | greet state =>
      rw [state] at told
      refine ⟨h.expected_eq, .greet told, fun _ => ?_⟩
      simpa [Session.hears] using h.waiting (.inl state)
  | greetAgain =>
      simp only [asked, Session.hears, List.append_nil]
      exact h
  | await state =>
      refine ⟨h.expected_eq, by simpa [asked] using told, fun _ => ?_⟩
      obtain ⟨heard, decoder⟩ := h.waiting (.inr state)
      refine ⟨?_, decoder⟩
      simp only [Session.hears, if_pos state, heard]
  | accept state =>
      rw [state] at told
      exact ⟨h.expected_eq, .accept told, nofun⟩
  | refuse state =>
      rw [state] at told
      exact ⟨h.expected_eq, .refuse told, nofun⟩
  | serve state =>
      -- The request is no longer kept, but then the state rules out that it is awaited.
      refine ⟨h.expected_eq, ?_, fun early => by simp [state] at early⟩
      simp only [state] at told ⊢
      exact .serve _ told
  | fail state =>
      refine ⟨h.expected_eq, ?_, fun early => by simp [state] at early⟩
      simpa [asked] using told
  | ignore notWaiting =>
      simp only [asked, Session.hears, if_neg notWaiting, List.append_nil]
      exact h
  | expireHandshake state =>
      rw [state] at told
      exact ⟨h.expected_eq, .expireHandshake told, nofun⟩
  | expireIdle state =>
      refine ⟨h.expected_eq, ?_, fun early => by simp [state] at early⟩
      simp only [state] at told ⊢
      exact .expireIdle told
  | expireStale =>
      simp only [asked, Session.hears, List.append_nil]
      exact h
  | beginClose =>
      refine ⟨h.expected_eq, ?_, nofun⟩
      simp only [asked, List.append_nil]
      exact .beginClose told
  | beginCloseAgain =>
      simp only [asked, Session.hears, List.append_nil]
      exact h
  | finishClose =>
      refine ⟨h.expected_eq, ?_, nofun⟩
      simp only [asked, List.append_nil]
      exact .finishClose told

theorem Lawful.foldl {expected : Bytes} {r : SessionRun} (h : r.Lawful expected)
    (calls : List SessionCall) : (calls.foldl SessionRun.extend r).Lawful expected := by
  induction calls generalizing r with
  | nil => exact h
  | cons call later ih => exact ih (h.extend call)

end SessionRun

namespace Session

theorem lawful_run (password : Option String) (calls : List SessionCall) :
    ((Session.new password).run calls).Lawful (Handshake.requestWith password) :=
  (SessionRun.lawful_new password).foldl calls

/-! ## Acceptance and closing -/

/-- An acceptance is sent only in answer to the bytes that complete the request. -/
theorem Step.accepted_inv {s after : Session} {call : SessionCall}
    {result : Except Error (List SessionAction)} (step : s.Step call result after)
    (sent : Handshake.accepted ∈ said (asked result)) :
    ∃ bytes, call = .receive bytes ∧ s.state = .authenticating ∧
      s.request ++ bytes = s.expected ∧ after = { s with state := .ready, request := [] } := by
  cases step with
  | greet => exact absurd sent (by decide)
  | greetAgain => cases sent
  | await => cases sent
  | accept state whole => exact ⟨_, rfl, state, whole, rfl⟩
  | refuse => exact absurd sent (by decide)
  | serve =>
      rw [asked, SessionAction.said_serve] at sent
      cases sent
  | fail => cases sent
  | ignore => cases sent
  | expireHandshake => exact absurd sent (by decide)
  | expireIdle => cases sent
  | expireStale => cases sent
  | beginClose => cases sent
  | beginCloseAgain => cases sent
  | finishClose => cases sent

/-- A session that has begun to close asks for nothing more, and stays so. -/
theorem Step.of_not_live {s after : Session} {call : SessionCall}
    {result : Except Error (List SessionAction)} (step : s.Step call result after)
    (dead : s.state.isLive = false) : asked result = [] ∧ after.state.isLive = false := by
  cases step with
  | greet state => rw [state] at dead; cases dead
  | greetAgain => exact ⟨rfl, dead⟩
  | await state => rw [state] at dead; cases dead
  | accept state => rw [state] at dead; cases dead
  | refuse state => rw [state] at dead; cases dead
  | serve state => rw [state] at dead; cases dead
  | fail state => rw [state] at dead; cases dead
  | ignore => exact ⟨rfl, dead⟩
  | expireHandshake state => rw [state] at dead; cases dead
  | expireIdle state => rw [state] at dead; cases dead
  | expireStale => exact ⟨rfl, dead⟩
  | beginClose live => simp [live] at dead
  | beginCloseAgain => exact ⟨rfl, dead⟩
  | finishClose => exact ⟨rfl, rfl⟩

theorem actions_run_of_not_live {s : Session} (dead : s.state.isLive = false)
    (calls : List SessionCall) : (s.run calls).actions = [] := by
  induction calls generalizing s with
  | nil => rfl
  | cons call later ih =>
      obtain ⟨none, dead⟩ := (s.step_call call).of_not_live dead
      rw [actions_run_cons, none, ih dead]
      rfl

/-- Whoever closes a session ends what it asks for. -/
theorem actions_run_of_close {s : Session} {call : SessionCall}
    (closing : call = .beginClose ∨ call = .finishClose) (later : List SessionCall) :
    (s.run (call :: later)).actions = [] := by
  rw [actions_run_cons]
  rcases closing with rfl | rfl
  · have dead : s.beginClose.2.state.isLive = false := by
      unfold beginClose
      split
      next => rfl
      next dead => exact Bool.eq_false_iff.mpr dead
    exact actions_run_of_not_live dead later
  · exact actions_run_of_not_live (s := s.finishClose) rfl later

/-- No run lets a client in that has not asked with the password.  A new session greets the
client at most once and then decides at most once; it agrees only in answer to the bytes that
complete the expected request, hands over packets only after that, and asks for nothing once
it was told to close. -/
theorem authentication_safe (password : Option String) (calls : List SessionCall) :
    let s := Session.new password
    let actions := (s.run calls).actions
    (said actions).count Handshake.greeting ≤ 1 ∧
      (said actions).count Handshake.accepted ≤ 1 ∧
      (said actions).count Handshake.refused ≤ 1 ∧
      ¬ (Handshake.accepted ∈ said actions ∧ Handshake.refused ∈ said actions) ∧
      (∀ earlier packet later, actions = earlier ++ .dispatch packet :: later →
        Handshake.accepted ∈ said earlier) ∧
      ∀ earlier call later, calls = earlier ++ call :: later →
        (Handshake.accepted ∈ said (asked ((s.run earlier).session.call call).1) →
          (∃ bytes, call = .receive bytes) ∧
            (s.run (earlier ++ [call])).heard = Handshake.requestWith password) ∧
        (call = .beginClose ∨ call = .finishClose →
          actions = (s.run earlier).actions) := by
  have told := (lawful_run password calls).transcript
  have decided : ∀ spoken ∈ Transcript.outcomes,
      spoken.count Handshake.greeting ≤ 1 ∧ spoken.count Handshake.accepted ≤ 1 ∧
        spoken.count Handshake.refused ≤ 1 ∧
        ¬ (Handshake.accepted ∈ spoken ∧ Handshake.refused ∈ spoken) := by decide
  obtain ⟨greeting, accepted, refused, once⟩ := decided _ told.said_mem
  refine ⟨greeting, accepted, refused, once, told.guarded, ?_⟩
  rintro earlier call later rfl
  constructor
  · intro sent
    have before := lawful_run password earlier
    obtain ⟨bytes, rfl, waiting, whole, -⟩ := (step_call _ call).accepted_inv sent
    refine ⟨⟨bytes, rfl⟩, ?_⟩
    rw [run_concat, SessionRun.extend]
    simp only [hears, if_pos waiting, (before.waiting (.inr waiting)).1]
    rw [whole, before.expected_eq]
  · intro closing
    rw [run_append]
    simp only [actions_run_of_close closing, List.append_nil]

end Session

end ProjectorControl
