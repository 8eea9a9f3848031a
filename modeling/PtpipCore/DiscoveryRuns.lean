import PtpipCore.Discovery
import PtpipCore.Lib.FirstHeard

/-!
# What discovery finds

Over all attempts, the cameras are those that the first datagrams of the sources
announce, each address and port once, in the order of arrival. A source whose
first datagram announces nothing is not listened to again.
-/

namespace DiscoveryRuns

open Effects ByteStream Text Types Discovery FirstHeard
open EStateM (Result)

section attempts

variable (config : DiscoveryConfig)

/-- Requests have gone out. -/
def sending (n : Network) (sends : List (Option ErrorKind)) (sent : List (Bytes × SocketAddr)) :
    Network := { n with sends := sends, sent := sent }

def slept (n : Network) (duration : Nat) : Network :=
  { n with
    clock := fun i => n.clock (i + 2)
    events := n.events ++ [.slept duration (n.clock 0) (n.clock 1)] }

/-- An attempt is over. -/
def closed (n : Network) (number known : Nat) : Network :=
  { n with events := [], attempts := n.attempts ++ [⟨number, known, n.events⟩] }

/-- What sending can come to. -/
inductive Sent (n : Network) : Result PtpIpError Network Unit → Prop
  | out (sends : List (Option ErrorKind)) (sent : List (Bytes × SocketAddr))
      (h : sends <:+ n.sends) : Sent n (.ok () (sending n sends sent))
  | failed (kind : ErrorKind) (sends : List (Option ErrorKind)) (sent : List (Bytes × SocketAddr))
      (h : some kind ∈ n.sends) : Sent n (.error (FromIo.fromIo kind) (sending n sends sent))

lemma sendTo_sent (packet : Bytes) (dest : SocketAddr) (n : Network) :
    Sent n (sendTo packet dest n) := by
  unfold sendTo
  split
  · exact Sent.out n.sends _ (List.suffix_refl _)
  · next rest hcons => exact Sent.out rest _ ⟨[none], hcons.symm⟩
  · next kind rest hcons => exact Sent.failed kind rest n.sent (hcons ▸ List.mem_cons_self)

lemma sendAll_sent (packet : Bytes) (dests : List SocketAddr) (n : Network) :
    Sent n (sendAll packet dests n) := by
  induction dests generalizing n with
  | nil => exact Sent.out n.sends n.sent (List.suffix_refl _)
  | cons dest dests ih =>
    rw [sendAll]
    have hfirst := sendTo_sent packet dest n
    cases hsend : sendTo packet dest n with
    | ok u n' =>
      rw [hsend] at hfirst
      rw [bind_ok hsend]
      obtain ⟨sends, sent, hsuffix⟩ := hfirst
      have hrest := ih (sending n sends sent)
      generalize sendAll packet dests (sending n sends sent) = r at hrest ⊢
      cases hrest with
      | out sends' sent' h => exact Sent.out sends' sent' (h.trans hsuffix)
      | failed kind sends' sent' h => exact Sent.failed kind sends' sent' (hsuffix.subset h)
    | error e n' =>
      rw [hsend] at hfirst
      rw [bind_error hsend]
      rcases hfirst with _ | ⟨kind, sends, sent, h⟩
      exact Sent.failed kind sends sent h

/-- The receive loop does not fail. -/
lemma receiveLoop_ok (b : Search) (n : Network) : ∃ b' n', receiveLoop config b n = .ok b' n' := by
  refine loop_induct (receiveTurn_shrinks config) (P := fun _ _ => True)
    (Q := fun r => ∃ b' n', r = .ok b' n') ?_ ?_ ?_ b n trivial
  · intro _ _ _ _ _ _
    trivial
  · intro _ _ b' n' _ _
    exact ⟨b', n', rfl⟩
  · intro b n e n' _ hturn
    obtain ⟨_, _, hok, _⟩ := receiveTurn_turn config b n
    cases hok.symm.trans hturn

/-- What the turns that go on preserve, the receive loop preserves up to its last turn. -/
lemma receiveLoop_induct {P Q : Search → Network → Prop}
    (goOn : ∀ b n b' n', P b n → Turn config b n (.inl b') n' → P b' n')
    (stop : ∀ b n b' n', P b n → Turn config b n (.inr b') n' → Q b' n')
    {b b' : Search} {n n' : Network} (start : P b n) (h : receiveLoop config b n = .ok b' n') :
    Q b' n' := by
  refine loop_induct (receiveTurn_shrinks config) (P := P)
    (Q := fun r => ∀ b' n', r = .ok b' n' → Q b' n') ?_ ?_ ?_ b n start b' n' h
  · intro b n b' n' hP hturn
    exact goOn b n b' n' hP (turn_of_ok config hturn)
  · intro b n b' n' hP hturn b'' n'' heq
    cases heq
    exact stop b n b' n' hP (turn_of_ok config hturn)
  · intro b n e n' _ _ b'' n'' heq
    cases heq

def pauseLength (b : Search) : Nat := if b.cameras ≠ [] then 500000000 else config.timeout / 2

def paused (n : Network) (number : Nat) (b : Search) : Network :=
  if number < config.retryCount then slept n (pauseLength config b) else n

/-- A pause takes time, or there is none. -/
lemma paused_cases (n : Network) (number : Nat) (b : Search) :
    paused config n number b = slept n (pauseLength config b) ∨ paused config n number b = n := by
  rw [paused]
  split
  · exact Or.inl rfl
  · exact Or.inr rfl

@[simp] lemma paused_sends (n : Network) (number : Nat) (b : Search) :
    (paused config n number b).sends = n.sends := by
  rw [paused]
  split <;> rfl

@[simp] lemma paused_receptions (n : Network) (number : Nat) (b : Search) :
    (paused config n number b).receptions = n.receptions := by
  rw [paused]
  split <;> rfl

@[simp] lemma paused_attempts (n : Network) (number : Nat) (b : Search) :
    (paused config n number b).attempts = n.attempts := by
  rw [paused]
  split <;> rfl

lemma pause_eq (number : Nat) (b : Search) (n : Network) :
    pause config number b n = .ok () (paused config n number b) := by
  unfold pause paused pauseLength
  by_cases again : number < config.retryCount
  · by_cases none : b.cameras = []
    · rw [if_neg (fun h => h.1 none), if_pos again, if_pos again, if_neg (not_not.mpr none)]
      rfl
    · rw [if_pos ⟨none, again⟩, if_pos again, if_pos none]
      rfl
  · rw [if_neg (fun h => again h.2), if_neg again, if_neg again]
    rfl

/-- What an attempt can come to: a request fails, or answers are listened for. -/
inductive Tried (b : Search) (number : Nat) (n : Network) : Result PtpIpError Network Search → Prop
  | unsent (kind : ErrorKind) (sends : List (Option ErrorKind)) (sent : List (Bytes × SocketAddr))
      (h : some kind ∈ n.sends) :
      Tried b number n (.error (FromIo.fromIo kind) (sending n sends sent))
  | listened (sends : List (Option ErrorKind)) (sent : List (Bytes × SocketAddr))
      (h : sends <:+ n.sends) (b' : Search) (n' : Network)
      (out : sendAll buildDiscoveryRequest (getDiscoveryDestinations config) n =
        .ok () (sending n sends sent))
      (listens : receiveLoop config b (sending n sends sent) = .ok b' n') :
      Tried b number n
        (.ok b' (closed (paused config n' number b') number b.cameras.length))

lemma tryAttempt_tried (b : Search) (number : Nat) (n : Network) :
    Tried config b number n (tryAttempt config b number n) := by
  have hsent := sendAll_sent buildDiscoveryRequest (getDiscoveryDestinations config) n
  rw [tryAttempt]
  generalize hsend : sendAll buildDiscoveryRequest (getDiscoveryDestinations config) n = r at hsent
  cases hsent with
  | out sends sent h =>
    obtain ⟨b', n', hloop⟩ := receiveLoop_ok config b (sending n sends sent)
    rw [bind_ok hsend, bind_ok hloop, bind_ok (pause_eq config number b' n')]
    exact Tried.listened sends sent h b' n' hsend hloop
  | failed kind sends sent h =>
    rw [bind_error hsend]
    exact Tried.unsent kind sends sent h

lemma tried_of_ok {b b' : Search} {number : Nat} {n n' : Network}
    (h : tryAttempt config b number n = .ok b' n') : Tried config b number n (.ok b' n') :=
  h ▸ tryAttempt_tried config b number n

/-- What each attempt preserves, the search preserves, unless there is no socket. -/
lemma search_induct {P : Nat → Search → Network → Prop}
    {Q : Result PtpIpError Network Search → Prop} {n : Network}
    (unset : ∀ kind, n.setUp = some kind → Q (.error (FromIo.fromIo kind) n))
    (start : n.setUp = none →
      P 1 ⟨n.clock 0, [], []⟩ { n with clock := fun i => n.clock (i + 1) })
    (goOn : ∀ number b m b' m', number ≤ config.retryCount → P number b m →
      tryAttempt config b number m = .ok b' m' → P (number + 1) b' m')
    (fail : ∀ number b m e m', P number b m →
      Tried config b number m (.error e m') → Q (.error e m'))
    (stop : ∀ b m, P (1 + config.retryCount) b m → Q (.ok b m)) : Q (search config n) := by
  rw [search]
  cases hsetUp : n.setUp with
  | some kind =>
    have hfailed : setUpSocket n = .error (FromIo.fromIo kind) n := by
      rw [setUpSocket, hsetUp]
    rw [bind_error hfailed]
    exact unset kind hsetUp
  | none =>
    have hready : setUpSocket n = .ok () n := by
      rw [setUpSocket, hsetUp]
    have hnow : now n = .ok (n.clock 0) { n with clock := fun i => n.clock (i + 1) } := rfl
    rw [bind_ok hready, bind_ok hnow]
    refine foldlM_range'_induct ?_ ?_ stop (start hsetUp)
    · intro number b m b' m' bound before htry
      exact goOn number b m b' m' (by omega) before htry
    · intro number b m e m' before htry
      exact fail number b m e m' before (htry ▸ tryAttempt_tried config b number m)

end attempts

section results

variable {config : DiscoveryConfig} {arriving : List Reception}

/-- The datagram as far as it fits into the buffer. -/
def datagramOf : Reception → Option (Bytes × SocketAddr)
  | .datagram bytes src => some (bytes.take 1024, src)
  | .failed _ => none

def datagrams (rs : List Reception) : List (Bytes × SocketAddr) := rs.filterMap datagramOf

/-- What makes two cameras the same device. -/
def keyOf (camera : DiscoveredCamera) : Ipv4Addr × UInt16 := (camera.ipAddress, camera.port)

def heardIn (ds : List (Bytes × SocketAddr)) : Heard SocketAddr DiscoveredCamera :=
  listened Prod.snd decode keyOf ds

def heardBy (b : Search) : Heard SocketAddr DiscoveredCamera := ⟨b.seenAddrs, b.cameras⟩

lemma add_cameras (b : Search) (camera : DiscoveredCamera) :
    (b.add camera).cameras = keep keyOf b.cameras (some camera) ∧
      (b.add camera).seenAddrs = b.seenAddrs := by
  have hmem : (b.cameras.any fun c => c.ipAddress = camera.ipAddress && c.port = camera.port) =
      true ↔ keyOf camera ∈ b.cameras.map keyOf := by
    simp [keyOf]
  unfold Search.add
  simp only [keep]
  by_cases old : keyOf camera ∈ b.cameras.map keyOf
  · rw [if_pos (hmem.mpr old), if_pos old]
    exact ⟨rfl, rfl⟩
  · rw [if_neg (fun h => old (hmem.mp h)), if_neg old]
    exact ⟨rfl, rfl⟩

/-- The program listens as the abstract listener does. -/
lemma listen_heard (b : Search) (d : Bytes × SocketAddr) :
    heardBy (b.listen d) = hear Prod.snd decode keyOf (heardBy b) d := by
  unfold Search.listen hear
  by_cases old : d.2 ∈ b.seenAddrs
  · rw [if_pos old, if_pos (show d.2 ∈ (heardBy b).seen from old)]
  · rw [if_neg old, if_neg (show d.2 ∉ (heardBy b).seen from old)]
    cases decode d with
    | none => rfl
    | some camera =>
      obtain ⟨hcameras, hseen⟩ := add_cameras { b with seenAddrs := d.2 :: b.seenAddrs } camera
      simp only [heardBy, hcameras, hseen]

/-- Some receptions have been consumed, and what they announce is known. -/
structure Gathered (arriving : List Reception) (b : Search) (n : Network) : Prop where
  heard : ∃ consumed, arriving = consumed ++ n.receptions ∧
    heardBy b = heardIn (datagrams consumed)
  few : b.cameras.length ≤ 10

lemma datagrams_append (rs rs' : List Reception) :
    datagrams (rs ++ rs') = datagrams rs ++ datagrams rs' := List.filterMap_append

lemma next_datagram {n : Network} {buffer : Bytes} {srcAddr : SocketAddr}
    (h : n.next = .datagram buffer srcAddr) :
    datagrams (n.receptions.take 1) = [(buffer, srcAddr)] := by
  unfold Network.next at h
  split at h
  · cases h
  · next hcons =>
    cases h
    rw [hcons]
    rfl
  · cases h

lemma next_failed {n : Network} {kind : ErrorKind} (h : n.next = .failed kind) :
    datagrams (n.receptions.take 1) = [] := by
  unfold Network.next at h
  split at h
  · next hnil => rw [hnil]; rfl
  · cases h
  · next hcons => rw [hcons]; rfl

lemma hear_kept_length (h : Heard SocketAddr DiscoveredCamera) (d : Bytes × SocketAddr) :
    (hear Prod.snd decode keyOf h d).kept.length ≤ h.kept.length + 1 := by
  unfold hear keep
  split
  · exact Nat.le_succ _
  · split
    · split
      · exact Nat.le_succ _
      · rw [List.length_append, List.length_singleton]
    · exact Nat.le_succ _

namespace Gathered

variable {b b' : Search} {n n' : Network}

/-- Nothing was received, and no camera was added. -/
lemma unchanged (gathered : Gathered arriving b n) (hreceptions : n'.receptions = n.receptions) :
    Gathered arriving b n' := ⟨hreceptions ▸ gathered.heard, gathered.few⟩

/-- A reception that brings no datagram. -/
lemma idle (gathered : Gathered arriving b n) (hreceptions : n'.receptions = n.receptions.tail)
    (nothing : datagrams (n.receptions.take 1) = []) : Gathered arriving b n' := by
  obtain ⟨consumed, harriving, hheard⟩ := gathered.heard
  refine ⟨⟨consumed ++ n.receptions.take 1, ?_, ?_⟩, gathered.few⟩
  · rw [harriving, hreceptions, List.append_assoc, ← List.drop_one, List.take_append_drop]
  · rw [datagrams_append, nothing, List.append_nil, hheard]

/-- A datagram is received while there is room for a camera. -/
lemma listens (gathered : Gathered arriving b n) {d : Bytes × SocketAddr}
    (hreceptions : n'.receptions = n.receptions.tail)
    (arrived : datagrams (n.receptions.take 1) = [d]) (room : b.cameras.length < 10) :
    Gathered arriving (b.listen d) n' := by
  obtain ⟨consumed, harriving, hheard⟩ := gathered.heard
  refine ⟨⟨consumed ++ n.receptions.take 1, ?_, ?_⟩, ?_⟩
  · rw [harriving, hreceptions, List.append_assoc, ← List.drop_one, List.take_append_drop]
  · rw [datagrams_append, arrived, listen_heard, hheard, heardIn, heardIn, listened_append]
  · have hlength := hear_kept_length (heardBy b) d
    rw [← listen_heard] at hlength
    exact Nat.le_trans hlength room

/-- What one turn of the receive loop preserves. -/
theorem turn {r : Search ⊕ Search} (gathered : Gathered arriving b n)
    (h : Turn config b n r n') : Gathered arriving (r.elim id id) n' := by
  cases h with
  | late | full => exact gathered.unchanged rfl
  | datagram buffer srcAddr _ room arrived =>
    exact gathered.listens rfl (next_datagram arrived) room
  | silence kind _ _ failed _ => exact gathered.idle rfl (next_failed failed)
  | fault kind _ _ failed _ => exact gathered.idle rfl (next_failed failed)

lemma loop (gathered : Gathered arriving b n) (h : receiveLoop config b n = .ok b' n') :
    Gathered arriving b' n' :=
  receiveLoop_induct config (P := Gathered arriving) (Q := Gathered arriving)
    (fun _ _ _ _ gathered h => gathered.turn h) (fun _ _ _ _ gathered h => gathered.turn h)
    gathered h

lemma paused (gathered : Gathered arriving b n) (number : Nat) :
    Gathered arriving b (paused config n number b) :=
  gathered.unchanged (paused_receptions config n number b)

/-- What one attempt preserves. -/
theorem tried {number : Nat} (gathered : Gathered arriving b n)
    (h : Tried config b number n (.ok b' n')) : Gathered arriving b' n' := by
  rcases h with _ | ⟨sends, sent, _, _, m, _, listens⟩
  have hsending : Gathered arriving b (sending n sends sent) := gathered.unchanged rfl
  exact ((hsending.loop listens).paused number).unchanged rfl

end Gathered

lemma receiveLoop_sends {b b' : Search} {n n' : Network}
    (h : receiveLoop config b n = .ok b' n') : n'.sends = n.sends := by
  refine receiveLoop_induct config (P := fun _ m => m.sends = n.sends)
    (Q := fun _ m => m.sends = n.sends) ?_ ?_ rfl h
  · intro b m b' m' hm hturn
    cases hturn <;> exact hm
  · intro b m b' m' hm hturn
    cases hturn <;> exact hm

/-- What is found after all attempts. -/
theorem search_gathered {b : Search} {n n' : Network} (h : search config n = .ok b n') :
    Gathered n.receptions b n' := by
  refine search_induct config (P := fun _ => Gathered n.receptions)
    (Q := fun r => ∀ b n', r = .ok b n' → Gathered n.receptions b n') ?_ ?_ ?_ ?_ ?_ b n' h
  · intro kind _ b n' heq
    cases heq
  · intro _
    exact ⟨⟨[], rfl, rfl⟩, Nat.zero_le _⟩
  · intro number b m b' m' _ gathered htry
    exact gathered.tried (tried_of_ok config htry)
  · intro number b m e m' _ _ b n' heq
    cases heq
  · intro b m gathered b' n' heq
    cases heq
    exact gathered

/-- No reception makes discovery fail. -/
theorem search_ok (config : DiscoveryConfig) {n : Network} (setUp : n.setUp = none)
    (sends : ∀ o ∈ n.sends, o = none) : ∃ b n', search config n = .ok b n' := by
  refine search_induct config (P := fun _ _ m => ∀ o ∈ m.sends, o = none)
    (Q := fun r => ∃ b n', r = .ok b n') ?_ ?_ ?_ ?_ ?_
  · intro kind hsetUp
    cases setUp.symm.trans hsetUp
  · intro _
    exact sends
  · intro number b m b' m' _ hsends htry
    rcases tried_of_ok config htry with _ | ⟨sends, sent, hsuffix, _, m', _, listens⟩
    have hkept : (paused config m' number b').sends = sends := by
      rw [paused_sends, receiveLoop_sends listens]
      rfl
    intro o ho
    exact hsends o (hsuffix.subset (hkept ▸ ho))
  · intro number b m e m' hsends tried
    obtain ⟨kind, _, _, failed⟩ := tried
    cases hsends _ failed
  · intro b m _
    exact ⟨b, m, rfl⟩

end results

end DiscoveryRuns
