import PtpipCore.DiscoveryResults

/-!
# What discovery sends

Every attempt sends the request to every destination, in their order. What is received, and how
long it takes, makes no difference to it: a discovery that returns has sent all its rounds, and one
that fails has sent its requests up to the first that the network refuses.
-/

namespace DiscoveryRounds

open Effects Types Discovery DiscoveryRuns DiscoveryResults
open EStateM (Result)

/-- The destinations of all requests of a discovery. -/
def rounds (config : DiscoveryConfig) : List SocketAddr :=
  (List.replicate config.retryCount (getDiscoveryDestinations config)).flatten

section sending

/-- The requests to these destinations have gone out, and nothing else. -/
structure Went (n : Network) (dests : List SocketAddr) (m : Network) : Prop where
  sends : m.sends = n.sends.drop dests.length
  sent : m.sent = n.sent ++ dests.map fun dest => (buildDiscoveryRequest, dest)
  taken : ∀ o ∈ n.sends.take dests.length, o = none

/-- The requests to these destinations have gone out up to one that the network refused. -/
def Stuck (n : Network) (dests : List SocketAddr) (e : PtpIpError) (m : Network) : Prop :=
  ∃ done dest todo kind, dests = done ++ dest :: todo ∧
    n.sends[done.length]? = some (some kind) ∧ e = FromIo.fromIo kind ∧
    m.sent = n.sent ++ (done.map fun dest => (buildDiscoveryRequest, dest)) ∧
    ∀ o ∈ n.sends.take done.length, o = none

variable {n m k : Network} {dests more : List SocketAddr} {e : PtpIpError}

lemma Went.nothing (n : Network) : Went n [] n :=
  ⟨rfl, (List.append_nil _).symm, fun _ ho => absurd ho List.not_mem_nil⟩

/-- What keeps the sends and the requests sent keeps them as they went. -/
lemma Went.later (went : Went n dests m) (sends : k.sends = m.sends) (sent : k.sent = m.sent) :
    Went n dests k :=
  ⟨sends.trans went.sends, sent.trans went.sent, went.taken⟩

lemma Went.append (went : Went n dests m) (wentMore : Went m more k) :
    Went n (dests ++ more) k := by
  constructor
  · rw [wentMore.sends, went.sends, List.drop_drop, List.length_append]
  · rw [wentMore.sent, went.sent, List.map_append, List.append_assoc]
  · rw [List.length_append, List.take_add, ← went.sends]
    exact List.forall_mem_append.mpr ⟨went.taken, wentMore.taken⟩

lemma Went.stuck (went : Went n dests m) (stuck : Stuck m more e k) :
    Stuck n (dests ++ more) e k := by
  obtain ⟨done, dest, todo, kind, rfl, hrefused, rfl, hsent, htaken⟩ := stuck
  refine ⟨dests ++ done, dest, todo, kind, (List.append_assoc _ _ _).symm, ?_, rfl, ?_, ?_⟩
  · rw [List.length_append, ← List.getElem?_drop, ← went.sends, hrefused]
  · rw [hsent, went.sent, List.map_append, List.append_assoc]
  · rw [List.length_append, List.take_add, ← went.sends]
    exact List.forall_mem_append.mpr ⟨went.taken, htaken⟩

lemma Stuck.append (stuck : Stuck n dests e m) (more : List SocketAddr) :
    Stuck n (dests ++ more) e m := by
  obtain ⟨done, dest, todo, kind, rfl, rest⟩ := stuck
  exact ⟨done, dest, todo ++ more, kind, List.append_assoc _ _ _, rest⟩

/-- A refusal is met before the end. -/
lemma Stuck.not_taken (stuck : Stuck n dests e m) :
    ¬ ∀ o ∈ n.sends.take dests.length, o = none := by
  obtain ⟨done, dest, todo, kind, rfl, hrefused, -⟩ := stuck
  intro taken
  obtain ⟨inside, hget⟩ := List.getElem?_eq_some_iff.mp hrefused
  have hmem : some kind ∈ n.sends.take (done ++ dest :: todo).length := by
    refine List.mem_take_iff_getElem.mpr ⟨done.length, ?_, hget⟩
    rw [List.length_append, List.length_cons]
    omega
  cases taken _ hmem

/-- What a step that sends requests comes to. -/
inductive Sends (n : Network) (dests : List SocketAddr) {α : Type} :
    Result PtpIpError Network α → Prop where
  | went {a : α} {m : Network} (went : Went n dests m) : Sends n dests (.ok a m)
  | stuck {e : PtpIpError} {m : Network} (stuck : Stuck n dests e m) : Sends n dests (.error e m)

lemma sendTo_sends (dest : SocketAddr) (n : Network) :
    Sends n [dest] (sendTo buildDiscoveryRequest dest n) := by
  unfold sendTo
  split
  · next none =>
    refine .went ⟨?_, rfl, ?_⟩
    · change n.sends = n.sends.drop 1
      rw [none]
      rfl
    · rw [none]
      exact fun o ho => absurd ho List.not_mem_nil
  · next rest hcons =>
    refine .went ⟨?_, rfl, ?_⟩
    · change rest = n.sends.drop 1
      rw [hcons]
      rfl
    · rw [hcons]
      exact List.forall_mem_singleton.mpr rfl
  · next kind rest hcons =>
    refine .stuck ⟨[], dest, [], kind, rfl, ?_, rfl, (List.append_nil _).symm, ?_⟩
    · rw [hcons]
      rfl
    · exact fun o ho => absurd ho List.not_mem_nil

lemma Sends.bind {α β : Type} {first : Discover α} {next : α → Discover β}
    (sends : Sends n dests (first n)) (rest : ∀ a m, Sends m more (next a m)) :
    Sends n (dests ++ more) ((first >>= next) n) := by
  cases hfirst : first n with
  | ok a m =>
    rw [hfirst] at sends
    rw [bind_ok hfirst]
    cases sends with
    | went went =>
      have hrest := rest a m
      cases hnext : next a m with
      | ok b k =>
        rw [hnext] at hrest
        cases hrest with
        | went wentMore => exact .went (went.append wentMore)
      | error e k =>
        rw [hnext] at hrest
        cases hrest with
        | stuck stuck => exact .stuck (went.stuck stuck)
  | error e m =>
    rw [hfirst] at sends
    rw [bind_error hfirst]
    cases sends with
    | stuck stuck => exact .stuck (stuck.append more)

lemma sendAll_sends (dests : List SocketAddr) (n : Network) :
    Sends n dests (sendAll buildDiscoveryRequest dests n) := by
  induction dests generalizing n with
  | nil => exact .went (Went.nothing n)
  | cons dest dests ih => exact (sendTo_sends dest n).bind fun _ m => ih m

end sending

section attempts

variable {config : DiscoveryConfig} {b b' : Search} {n n' : Network}

/-- To listen sends nothing. -/
lemma receiveLoop_sent (h : receiveLoop config b n = .ok b' n') : n'.sent = n.sent := by
  refine receiveLoop_induct config (P := fun _ m => m.sent = n.sent)
    (Q := fun _ m => m.sent = n.sent) ?_ ?_ rfl h
  · intro b m b' m' hm hturn
    cases hturn <;> exact hm
  · intro b m b' m' hm hturn
    cases hturn <;> exact hm

lemma paused_sent (n : Network) (number : Nat) (b : Search) :
    (paused config n number b).sent = n.sent := by
  rcases paused_cases config n number b with h | h
  · rw [h]
    rfl
  · rw [h]

lemma tryAttempt_sends (config : DiscoveryConfig) (b : Search) (number : Nat) (n : Network) :
    Sends n (getDiscoveryDestinations config) (tryAttempt config b number n) := by
  have quiet : ∀ m, Sends m [] ((do
      let b' ← receiveLoop config b
      pause config number b'
      noteAttempt number b.cameras.length
      return b' : Discover Search) m) := by
    intro m
    obtain ⟨b', m', hloop⟩ := receiveLoop_ok config b m
    rw [bind_ok hloop, bind_ok (pause_eq config number b' m')]
    refine .went ((Went.nothing m).later ?_ ?_)
    · exact (paused_sends config m' number b').trans (receiveLoop_sends hloop)
    · exact (paused_sent m' number b').trans (receiveLoop_sent hloop)
  have hsends := (sendAll_sends (getDiscoveryDestinations config) n).bind fun _ m => quiet m
  rw [List.append_nil] at hsends
  exact hsends

/-- One attempt after the other, from a number on. -/
lemma attempts_send (config : DiscoveryConfig) (number count : Nat) (b : Search) (n : Network) :
    Sends n (List.replicate count (getDiscoveryDestinations config)).flatten
      ((List.range' number count).foldlM (tryAttempt config) b n) := by
  induction count generalizing number b n with
  | zero => exact .went (Went.nothing n)
  | succ count ih =>
    rw [List.replicate_succ, List.flatten_cons, List.range'_succ, List.foldlM_cons]
    exact (tryAttempt_sends config b number n).bind fun b' m => ih (number + 1) b' m

lemma search_sends (config : DiscoveryConfig) (ready : n.setUp = none) :
    Sends n (rounds config) (search config n) := by
  have hready : setUpSocket n = .ok () n := by rw [setUpSocket, ready]
  have hnow : Sends n [] (now n) := .went ((Went.nothing n).later rfl rfl)
  rw [search, bind_ok hready]
  exact hnow.bind fun startTime m => attempts_send config 1 config.retryCount ⟨startTime, [], []⟩ m

/-- How a discovery ends. -/
inductive Ends (config : DiscoveryConfig) (n : Network) :
    Result PtpIpError Network (List DiscoveredCamera) → Prop where
  | noSocket {kind : ErrorKind} (failed : n.setUp = some kind) :
      Ends config n (.error (FromIo.fromIo kind) n)
  | stuck {e : PtpIpError} {m : Network} (ready : n.setUp = none)
      (stuck : Stuck n (rounds config) e m) : Ends config n (.error e m)
  | returned {cameras : List DiscoveredCamera} {m : Network} (ready : n.setUp = none)
      (went : Went n (rounds config) m) : Ends config n (.ok cameras m)

/-- Whatever is received and whenever, a discovery sends its request to every destination in every
round, or up to the first one that is refused; it returns exactly if there is a socket and none is
refused. -/
theorem discovery_rounds (config : DiscoveryConfig) (n : Network) :
    Ends config n (discoverCameras config n) ∧
    ((∃ cameras m, discoverCameras config n = .ok cameras m) ↔
      n.setUp = none ∧ ∀ o ∈ n.sends.take (rounds config).length, o = none) := by
  have ends : Ends config n (discoverCameras config n) := by
    cases failed : n.setUp with
    | some kind =>
      have hfailed : setUpSocket n = .error (FromIo.fromIo kind) n := by rw [setUpSocket, failed]
      have hsearch : search config n = .error (FromIo.fromIo kind) n := bind_error hfailed
      rw [discoverCameras, bind_error hsearch]
      exact .noSocket failed
    | none =>
      have hsends := search_sends config failed
      cases hsearch : search config n with
      | ok b m =>
        rw [hsearch] at hsends
        rw [discoverCameras, bind_ok hsearch]
        cases hsends with
        | went went => exact .returned failed went
      | error e m =>
        rw [hsearch] at hsends
        rw [discoverCameras, bind_error hsearch]
        cases hsends with
        | stuck stuck => exact .stuck failed stuck
  refine ⟨ends, ?_, ?_⟩
  · rintro ⟨cameras, m, hrun⟩
    rw [hrun] at ends
    cases ends with
    | returned ready went => exact ⟨ready, went.taken⟩
  · rintro ⟨ready, taken⟩
    cases hrun : discoverCameras config n with
    | ok cameras m => exact ⟨cameras, m, rfl⟩
    | error e m =>
      rw [hrun] at ends
      cases ends with
      | noSocket failed => cases ready.symm.trans failed
      | stuck _ stuck => exact absurd taken stuck.not_taken

end attempts

end DiscoveryRounds
