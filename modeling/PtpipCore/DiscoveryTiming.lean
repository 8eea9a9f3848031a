import PtpipCore.DiscoveryRuns
import Mathlib.Order.Monotone.Basic

/-!
# Which attempts listen

The time of a discovery is counted from the start of its first attempt. An
attempt without ten cameras that goes out of its receive loop has let that time
pass, and after the pause it is over for the attempts behind.
-/

namespace DiscoveryTiming

open Effects ByteStream Text Types Discovery DiscoveryRuns
open EStateM (Result)

/-- At least one receive was called. -/
def Listens (a : Attempt) : Prop :=
  ∃ calledAt returnedAt reception, Event.received calledAt returnedAt reception ∈ a.events

/-- The search before an attempt. -/
def searchBefore (config : DiscoveryConfig) (number : Nat) : Discover Search := do
  setUpSocket
  let startTime ← now
  (List.range' 1 (number - 1)).foldlM (tryAttempt config) ⟨startTime, [], []⟩

/-- An attempt up to its receive loop: its requests are out. -/
def asking (config : DiscoveryConfig) (number : Nat) : Discover Search := do
  let b ← searchBefore config number
  sendAll buildDiscoveryRequest (getDiscoveryDestinations config)
  return b

/-- When the requests of an attempt are out, the clock shows that the time is not yet up. -/
def InTime (config : DiscoveryConfig) (n : Network) (number : Nat) : Prop :=
  ∃ b m, asking config number n = .ok b m ∧ m.clock 0 - b.startTime ≤ config.timeout

/-- A receive that times out has blocked for the timeout, and a pause for its duration. -/
def Timely (config : DiscoveryConfig) : Event → Prop
  | .checked _ => True
  | .received calledAt returnedAt reception =>
    reception = .failed .wouldBlock ∨ reception = .failed .timedOut →
      calledAt + config.timeout ≤ returnedAt
  | .slept duration calledAt returnedAt => calledAt + duration ≤ returnedAt

def AllTimely (config : DiscoveryConfig) (attempts : List Attempt) : Prop :=
  ∀ a ∈ attempts, ∀ e ∈ a.events, Timely config e

section loop

variable {config : DiscoveryConfig} {b b' : Search} {n n' : Network}

lemma listen_startTime (b : Search) (d : Bytes × SocketAddr) :
    (b.listen d).startTime = b.startTime := by
  unfold Search.listen Search.add
  split
  · rfl
  · split
    · split <;> rfl
    · rfl

/-- Events are only added. -/
lemma receiveLoop_grows (h : receiveLoop config b n = .ok b' n') :
    n.events <+: n'.events ∧ n'.attempts = n.attempts := by
  refine receiveLoop_induct config (P := fun _ m => n.events <+: m.events ∧ m.attempts = n.attempts)
    (Q := fun _ m => n.events <+: m.events ∧ m.attempts = n.attempts) ?_ ?_
    ⟨List.prefix_refl _, rfl⟩ h
  all_goals
    rintro b m b' m' ⟨hevents, hattempts⟩ turn
    refine ⟨hevents.trans ?_, ?_⟩
    · cases turn <;> simp [Network.checked, Network.received]
    · cases turn <;> exact hattempts

/-- The first turn of the receive loop is its last one, or the loop goes on behind it. -/
lemma receiveLoop_first (h : receiveLoop config b n = .ok b' n') :
    ∃ r m, Turn config b n r m ∧
      (r = .inr b' ∧ m = n' ∨ ∃ b'', r = .inl b'' ∧ receiveLoop config b'' m = .ok b' n') := by
  obtain ⟨r, m, hturn, turn⟩ := receiveTurn_turn config b n
  refine ⟨r, m, turn, ?_⟩
  cases r with
  | inl b'' =>
    refine Or.inr ⟨b'', rfl, ?_⟩
    rw [receiveLoop, ← loop_continue hturn]
    exact h
  | inr b'' =>
    rw [receiveLoop, loop_break hturn] at h
    cases h
    exact Or.inl ⟨rfl, rfl⟩

/-- The first check lets a receive follow, or it is too late and the only event. -/
lemma receiveLoop_events (fresh : n.events = []) (room : b.cameras.length < 10)
    (h : receiveLoop config b n = .ok b' n') :
    n'.events = [.checked (n.elapsed b)] ∧ config.timeout < n.elapsed b ∨
      [.checked (n.elapsed b), .received (n.clock 1) (n.clock 2) n.next] <+: n'.events ∧
        n.elapsed b ≤ config.timeout := by
  have hreceived : (n.checked b).received.events =
      [.checked (n.elapsed b), .received (n.clock 1) (n.clock 2) n.next] := by
    simp [Network.received, Network.checked, Network.next, fresh]
  rcases receiveLoop_first h with ⟨r, m, turn, ⟨rfl, rfl⟩ | ⟨b'', rfl, hrest⟩⟩
  · cases turn with
    | late late => exact Or.inl ⟨by simp [Network.checked, fresh], late⟩
    | full _ enough => exact absurd enough (Nat.not_le_of_lt room)
    | silence kind inTime => exact Or.inr ⟨hreceived ▸ List.prefix_refl _, inTime⟩
  · have hgrows := (receiveLoop_grows hrest).1
    cases turn with
    | datagram buffer srcAddr inTime => exact Or.inr ⟨hreceived ▸ hgrows, inTime⟩
    | fault kind inTime => exact Or.inr ⟨hreceived ▸ hgrows, inTime⟩

/-- The clock never goes back, and the start lies behind. -/
structure Ticking (b : Search) (n : Network) : Prop where
  monotone : Monotone n.clock
  started : b.startTime ≤ n.clock 0

namespace Ticking

/-- The clock has been read some more times. -/
lemma later (ticking : Ticking b n) (k : Nat) (hclock : n'.clock = fun i => n.clock (i + k))
    (hstart : b'.startTime = b.startTime) : Ticking b' n' where
  monotone := hclock ▸ fun _ _ hij => ticking.monotone (Nat.add_le_add_right hij k)
  started := by
    rw [hstart, hclock]
    exact Nat.le_trans ticking.started (ticking.monotone (Nat.zero_le _))

lemma turn {r : Search ⊕ Search} (ticking : Ticking b n) (h : Turn config b n r n') :
    Ticking (r.elim id id) n' := by
  cases h with
  | late | full => exact ticking.later 1 rfl rfl
  | datagram buffer srcAddr => exact ticking.later 3 rfl (listen_startTime b _)
  | silence | fault => exact ticking.later 3 rfl rfl

/-- A loop that ends without ten cameras ends when the time is up. -/
lemma turn_stops (ticking : Ticking b n) (h : Turn config b n (.inr b') n')
    (room : b'.cameras.length < 10) (timely : ∀ e ∈ n'.events, Timely config e) :
    b'.startTime + config.timeout ≤ n'.clock 0 := by
  cases h with
  | late late =>
    have hnext : n.clock 0 ≤ n.clock 1 := ticking.monotone (Nat.zero_le _)
    have helapsed : n.elapsed b = n.clock 0 - b.startTime := rfl
    change b.startTime + config.timeout ≤ n.clock 1
    omega
  | full _ enough => exact absurd enough (Nat.not_le_of_lt room)
  | silence kind _ _ failed quiet =>
    have hlast : Event.received (n.clock 1) (n.clock 2) n.next ∈ (n.checked b).received.events := by
      simp [Network.received, Network.checked, Network.next]
    have hnext : n.next = .failed kind := failed
    have hblocked : n.clock 1 + config.timeout ≤ n.clock 2 :=
      timely _ hlast (hnext ▸ quiet.imp (congrArg _) (congrArg _))
    have hcalled : n.clock 0 ≤ n.clock 1 := ticking.monotone (Nat.zero_le _)
    have hreturned : n.clock 2 ≤ n.clock 3 := ticking.monotone (Nat.le_succ _)
    have hstarted := ticking.started
    change b.startTime + config.timeout ≤ n.clock 3
    omega

end Ticking

end loop

section attempts

variable {config : DiscoveryConfig} {b b' : Search} {n n' : Network} {number known : Nat}

/-- The pause adds at most its own event. -/
lemma paused_events (config : DiscoveryConfig) (n : Network) (number : Nat) (b : Search) :
    ∃ pauses, (paused config n number b).events = n.events ++ pauses ∧
      ∀ e ∈ pauses, ∃ duration calledAt returnedAt, e = .slept duration calledAt returnedAt := by
  rcases paused_cases config n number b with hpaused | hpaused
  · rw [hpaused]
    exact ⟨_, rfl, fun e he => ⟨_, _, _, List.mem_singleton.mp he⟩⟩
  · rw [hpaused]
    exact ⟨[], (List.append_nil _).symm, fun e he => absurd he List.not_mem_nil⟩

/-- An attempt that starts without ten cameras listens if and only if the time is not yet up. -/
lemma listens_iff (fresh : n.events = []) (room : b.cameras.length < 10)
    (h : receiveLoop config b n = .ok b' n') :
    Listens ⟨number, known, (paused config n' number b').events⟩ ↔
      n.elapsed b ≤ config.timeout := by
  obtain ⟨pauses, hpauses, hslept⟩ := paused_events config n' number b'
  rcases receiveLoop_events fresh room h with ⟨hevents, late⟩ | ⟨⟨rest, hevents⟩, inTime⟩
  · rw [hpauses, hevents]
    refine iff_of_false ?_ (Nat.not_le_of_lt late)
    rintro ⟨calledAt, returnedAt, reception, hmem⟩
    rcases List.mem_append.mp hmem with hmem | hmem
    · cases List.mem_singleton.mp hmem
    · obtain ⟨_, _, _, heq⟩ := hslept _ hmem
      cases heq
  · rw [hpauses, ← hevents]
    refine iff_of_true ⟨n.clock 1, n.clock 2, n.next, ?_⟩ inTime
    exact List.mem_append_left _ (List.mem_append_left _
      (List.mem_cons_of_mem _ List.mem_cons_self))

lemma Ticking.paused (ticking : Ticking b n) (config : DiscoveryConfig) (number : Nat) :
    Ticking b (paused config n number b) := by
  rcases paused_cases config n number b with hpaused | hpaused
  · rw [hpaused]
    exact ticking.later 2 rfl rfl
  · rw [hpaused]
    exact ticking

/-- When the time is up before a pause, it is over after it. -/
lemma Ticking.paused_late (ticking : Ticking b n) (again : number < config.retryCount)
    (long : 2 ≤ config.timeout) (up : b.startTime + config.timeout ≤ n.clock 0)
    (timely : ∀ e ∈ (DiscoveryRuns.paused config n number b).events, Timely config e) :
    b.startTime + config.timeout < (DiscoveryRuns.paused config n number b).clock 0 := by
  have hpositive : 0 < pauseLength config b := by
    unfold pauseLength
    split <;> omega
  rw [DiscoveryRuns.paused, if_pos again] at timely ⊢
  have hslept : n.clock 0 + pauseLength config b ≤ n.clock 1 :=
    timely _ (List.mem_append_right _ (List.mem_singleton_self _))
  have hreturned : n.clock 1 ≤ n.clock 2 := ticking.monotone (Nat.le_succ _)
  change b.startTime + config.timeout < n.clock 2
  omega

/-- The loop ends with ten cameras or when the time is up. -/
lemma receiveLoop_ends (ticking : Ticking b n) (h : receiveLoop config b n = .ok b' n') :
    Ticking b' n' ∧ (b'.cameras.length < 10 → (∀ e ∈ n'.events, Timely config e) →
      b'.startTime + config.timeout ≤ n'.clock 0) := by
  refine receiveLoop_induct config (P := Ticking)
    (Q := fun b' n' => Ticking b' n' ∧ (b'.cameras.length < 10 →
      (∀ e ∈ n'.events, Timely config e) → b'.startTime + config.timeout ≤ n'.clock 0))
    ?_ ?_ ticking h
  · intro b n b' n' ticking turn
    exact ticking.turn turn
  · intro b n b' n' ticking turn
    exact ⟨ticking.turn turn, ticking.turn_stops turn⟩

/-- How an attempt finds what the attempts before it have left since the start. -/
structure Before (config : DiscoveryConfig) (start : Network) (number : Nat) (b : Search)
    (n : Network) : Prop where
  positive : 1 ≤ number
  reached : searchBefore config number start = .ok b n
  fresh : n.events = []
  ticking : Ticking b n
  listens : ∀ a ∈ n.attempts, a.known < 10 → (Listens a ↔ InTime config start a.number)
  late : 2 ≤ config.timeout → AllTimely config n.attempts → 2 ≤ number →
    number ≤ config.retryCount → b.cameras.length < 10 →
      b.startTime + config.timeout < n.clock 0
  deaf : 2 ≤ config.timeout → AllTimely config n.attempts →
    ∀ a ∈ n.attempts, 2 ≤ a.number → a.known < 10 → ¬ Listens a

lemma allTimely_append {attempts : List Attempt} {a : Attempt} :
    AllTimely config (attempts ++ [a]) ↔
      AllTimely config attempts ∧ ∀ e ∈ a.events, Timely config e := by
  simp only [AllTimely, List.forall_mem_append, List.forall_mem_singleton]

variable {start : Network}

lemma searchBefore_next (positive : 1 ≤ number)
    (reached : searchBefore config number start = .ok b n)
    (h : tryAttempt config b number n = .ok b' n') :
    searchBefore config (number + 1) start = .ok b' n' := by
  obtain ⟨k, rfl⟩ : ∃ k, number = 1 + k := ⟨number - 1, by omega⟩
  obtain ⟨u, m, hready, hrest⟩ := bind_eq_ok_iff.mp reached
  obtain ⟨startTime, m', hnow, hsearch⟩ := bind_eq_ok_iff.mp hrest
  have hrange : List.range' 1 (1 + k + 1 - 1) = List.range' 1 (1 + k - 1) ++ [1 + k] := by
    rw [Nat.add_sub_cancel, Nat.add_sub_cancel_left, Nat.add_comm, List.range'_1_concat,
      Nat.add_comm]
  rw [searchBefore, bind_ok hready, bind_ok hnow, hrange, List.foldlM_append, bind_ok hsearch,
    List.foldlM_cons, bind_ok h]
  rfl

/-- What the clock shows behind the requests of an attempt decides whether it is in time. -/
lemma inTime_iff (reached : searchBefore config number start = .ok b n)
    (out : sendAll buildDiscoveryRequest (getDiscoveryDestinations config) n = .ok () n') :
    InTime config start number ↔ n'.elapsed b ≤ config.timeout := by
  have hasking : asking config number start = .ok b n' := by
    rw [asking, bind_ok reached, bind_ok out]
    rfl
  constructor
  · rintro ⟨b', m, h, inTime⟩
    cases hasking.symm.trans h
    exact inTime
  · exact fun inTime => ⟨b, n', hasking, inTime⟩

/-- What one attempt preserves. -/
theorem Before.tried (before : Before config start number b n) (bound : number ≤ config.retryCount)
    (h : tryAttempt config b number n = .ok b' n') : Before config start (number + 1) b' n' := by
  have hreached := searchBefore_next before.positive before.reached h
  rcases tried_of_ok config h with _ | ⟨sends, sent, _, _, m, out, listens⟩
  have hinTime := inTime_iff before.reached out
  have hfresh : (sending n sends sent).events = [] := before.fresh
  have hsending : Ticking b (sending n sends sent) := before.ticking.later 0 rfl rfl
  obtain ⟨ticking, up⟩ := receiveLoop_ends hsending listens
  have hloop : ∀ {e}, e ∈ m.events → e ∈ (paused config m number b').events := by
    obtain ⟨pauses, hpauses, _⟩ := paused_events config m number b'
    exact fun he => hpauses ▸ List.mem_append_left _ he
  have hattempts : (closed (paused config m number b') number b.cameras.length).attempts =
      n.attempts ++ [⟨number, b.cameras.length, (paused config m number b').events⟩] := by
    rw [closed, paused_attempts, (receiveLoop_grows listens).2]
    rfl
  refine ⟨Nat.le_add_left 1 number, hreached, rfl, (ticking.paused config number).later 0 rfl rfl,
    ?_, ?_, ?_⟩
  · rw [hattempts]
    intro a ha room
    rcases List.mem_append.mp ha with ha | ha
    · exact before.listens a ha room
    · cases List.mem_singleton.mp ha
      exact (listens_iff hfresh room listens).trans hinTime.symm
  · rw [hattempts, allTimely_append]
    rintro long ⟨_, timely⟩ _ again room
    exact ticking.paused_late again long (up room fun e he => timely e (hloop he)) timely
  · rw [hattempts, allTimely_append]
    rintro long ⟨timely, _⟩ a ha second room heard
    rcases List.mem_append.mp ha with ha | ha
    · exact before.deaf long timely a ha second room heard
    · cases List.mem_singleton.mp ha
      have hlate := before.late long timely second bound room
      have onTime := (listens_iff hfresh room listens).mp heard
      change n.clock 0 - b.startTime ≤ config.timeout at onTime
      omega

end attempts

/-- The attempts of a run, whether it succeeds or not. -/
def attemptsOf (config : DiscoveryConfig) (n : Network) : List Attempt :=
  (endState (discoverCameras config n)).attempts

lemma attemptsOf_eq (config : DiscoveryConfig) (n : Network) :
    attemptsOf config n = (endState (search config n)).attempts := by
  rw [attemptsOf, discoverCameras]
  exact bind_keeps Network.attempts (fun _ _ => rfl) n

/-- What is known of the attempts when a run is over. -/
structure After (config : DiscoveryConfig) (start : Network) (attempts : List Attempt) : Prop where
  listens : ∀ a ∈ attempts, a.known < 10 → (Listens a ↔ InTime config start a.number)
  deaf : 2 ≤ config.timeout → AllTimely config attempts →
    ∀ a ∈ attempts, 2 ≤ a.number → a.known < 10 → ¬ Listens a

theorem search_after (config : DiscoveryConfig) {n : Network} (events : n.events = [])
    (attempts : n.attempts = []) (monotone : Monotone n.clock) :
    After config n (endState (search config n)).attempts := by
  have hnone : ∀ a, a ∉ n.attempts := fun a => attempts ▸ List.not_mem_nil
  refine search_induct config (P := Before config n)
    (Q := fun r => After config n (endState r).attempts) ?_ ?_ ?_ ?_ ?_
  · intro kind _
    exact ⟨fun a ha => absurd ha (hnone a), fun _ _ a ha => absurd ha (hnone a)⟩
  · intro hsetUp
    have start : Ticking ⟨n.clock 0, [], []⟩ n := ⟨monotone, Nat.le_refl _⟩
    have hready : setUpSocket n = .ok () n := by rw [setUpSocket, hsetUp]
    refine ⟨Nat.le_refl 1, bind_ok hready, events, start.later 1 rfl rfl,
      fun a ha => absurd ha (hnone a), ?_, fun _ _ a ha => absurd ha (hnone a)⟩
    intro _ _ second
    exact absurd second (by decide)
  · intro number b m b' m' bound before htry
    exact before.tried bound htry
  · intro number b m e m' before tried
    obtain ⟨kind, sends, sent, _⟩ := tried
    exact ⟨before.listens, before.deaf⟩
  · intro b m before
    exact ⟨before.listens, before.deaf⟩

/-- In every run, exactly the attempts listen behind whose requests the time is not yet up; with a
clock that does not go back, calls that block as long as they should and a timeout of at least two
nanoseconds, no attempt after the first one does unless ten cameras are known. -/
theorem attempts_listen_iff {config : DiscoveryConfig} {n : Network} (events : n.events = [])
    (attempts : n.attempts = []) (monotone : Monotone n.clock) :
    ((∀ a ∈ attemptsOf config n, a.known < 10 → Listens a) ↔
        ∀ a ∈ attemptsOf config n, a.known < 10 → InTime config n a.number) ∧
      (2 ≤ config.timeout → AllTimely config (attemptsOf config n) →
        ∀ a ∈ attemptsOf config n, 2 ≤ a.number → a.known < 10 → ¬ Listens a) := by
  rw [attemptsOf_eq]
  obtain ⟨listens, deaf⟩ := search_after config events attempts monotone
  exact ⟨forall₃_congr listens, deaf⟩

/-- Two attempts with a timeout of a second. -/
def twice : DiscoveryConfig := ⟨1000000000, 2, false, some [.v4 ⟨127, 0, 0, 1⟩ 1900]⟩

/-- Nobody answers: the first receive takes a second, the pause half a second. -/
def silent : Network :=
  ⟨none, [], [], fun i => if i < 3 then 0 else if i < 5 then 1000000000 else 1500000000, [], [], []⟩

lemma silent_monotone : Monotone silent.clock := by
  intro i j hij
  simp only [silent]
  split_ifs <;> omega

/-- The network between the two attempts. -/
def afterSilence : Network :=
  ⟨none, [], [], fun i => silent.clock (i + 6),
    [(buildDiscoveryRequest, .v4 ⟨127, 0, 0, 1⟩ 1900)], [],
    [⟨1, 0, [.checked 0, .received 0 1000000000 (.failed .wouldBlock),
      .slept 500000000 1000000000 1500000000]⟩]⟩

lemma silent_attempts : attemptsOf twice silent =
    afterSilence.attempts ++ [⟨2, 0, [.checked 1500000000]⟩] := by
  have htry : ∀ {number : Nat} {n n' n'' : Network} {b : Search},
      sendAll buildDiscoveryRequest (getDiscoveryDestinations twice) n = .ok () n' →
      receiveTurn twice b n' = .ok (.inr b) n'' →
      tryAttempt twice b number n =
        .ok b (closed (paused twice n'' number b) number b.cameras.length) := by
    intro number n n' n'' b hsend hturn
    have hloop : receiveLoop twice b n' = .ok b n'' := loop_break hturn
    rw [tryAttempt, bind_ok hsend, bind_ok hloop, bind_ok (pause_eq twice number b n'')]
    rfl
  have hfirst : tryAttempt twice ⟨0, [], []⟩ 1
      { silent with clock := fun i => silent.clock (i + 1) } = .ok ⟨0, [], []⟩ afterSilence :=
    (htry rfl (receiveTurn_listening twice (by decide) (by decide))).trans rfl
  have hsecond : tryAttempt twice ⟨0, [], []⟩ 2 afterSilence = .ok ⟨0, [], []⟩ _ :=
    htry rfl (receiveTurn_late twice (by decide))
  rw [attemptsOf_eq]
  change (endState ((List.range' 1 2).foldlM (tryAttempt twice) ⟨0, [], []⟩
    { silent with clock := fun i => silent.clock (i + 1) })).attempts = _
  rw [List.range'_succ, List.foldlM_cons, bind_ok hfirst, List.range'_succ,
    List.foldlM_cons, bind_ok hsecond]
  rfl

lemma silent_timely : AllTimely twice (attemptsOf twice silent) := by
  rw [silent_attempts]
  simp [AllTimely, afterSilence, Timely, twice]

theorem silent_attempts_listen :
    ((∀ a ∈ attemptsOf twice silent, a.known < 10 → Listens a) ↔
        ∀ a ∈ attemptsOf twice silent, a.known < 10 → InTime twice silent a.number) ∧
      (2 ≤ twice.timeout → AllTimely twice (attemptsOf twice silent) →
        ∀ a ∈ attemptsOf twice silent, 2 ≤ a.number → a.known < 10 → ¬ Listens a) :=
  attempts_listen_iff rfl rfl silent_monotone

/-- The second attempt sends its requests and does not listen. -/
theorem retry_deaf : ¬ ∀ (config : DiscoveryConfig) (n : Network), 2 ≤ config.retryCount →
    0 < config.timeout → n.events = [] → n.attempts = [] → Monotone n.clock →
    AllTimely config (attemptsOf config n) →
      ∀ a ∈ attemptsOf config n, a.known < 10 → Listens a := by
  intro all
  have heard := all twice silent (by decide) (by decide) rfl rfl silent_monotone silent_timely
    ⟨2, 0, [.checked 1500000000]⟩ (by rw [silent_attempts]; decide) (by decide)
  obtain ⟨_, _, _, hmem⟩ := heard
  cases List.mem_singleton.mp hmem

end DiscoveryTiming
