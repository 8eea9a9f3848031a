import PtpipCore.DiscoveryRuns

/-!
# Which cameras discovery returns

Every camera that is returned has announced itself, and none is returned twice.
A camera that has announced itself may be missing, namely when its address and
port are announced by no datagram that is the first of its source.
-/

namespace DiscoveryResults

open Effects ByteStream Text Types Discovery FirstHeard DiscoveryRuns
open EStateM (Result)

variable {config : DiscoveryConfig}

lemma sourceIp_eq_some {srcAddr : SocketAddr} {ip : Ipv4Addr} (h : sourceIp srcAddr = some ip) :
    ∃ port, srcAddr = .v4 ip port := by
  cases srcAddr with
  | v4 ip' port => cases h; exact ⟨port, rfl⟩
  | v6 => cases h

lemma discoverCameras_ok {n n' : Network} {cameras : List DiscoveredCamera}
    (h : discoverCameras config n = .ok cameras n') :
    ∃ b, search config n = .ok b n' ∧ b.cameras = cameras := by
  obtain ⟨b, m, hsearch, hret⟩ := bind_eq_ok_iff.mp h
  cases hret
  exact ⟨b, hsearch, rfl⟩

/-- The cameras that a run returns, by what it has received. -/
lemma discoverCameras_heard {n n' : Network} {cameras : List DiscoveredCamera}
    {consumed : List Reception} (h : discoverCameras config n = .ok cameras n')
    (hconsumed : n.receptions = consumed ++ n'.receptions) :
    cameras = (heardIn (datagrams consumed)).kept := by
  obtain ⟨b, hsearch, rfl⟩ := discoverCameras_ok h
  obtain ⟨consumed', hconsumed', hheard⟩ := (search_gathered hsearch).heard
  rw [List.append_cancel_right (hconsumed.symm.trans hconsumed'), ← hheard, heardBy]

/-- Whatever arrives, discovery returns at most ten cameras, each the decoding of a datagram
received, in the order of arrival, no two with the same address and port. -/
theorem discovery_sound (config : DiscoveryConfig) (n : Network) (setUp : n.setUp = none)
    (sends : ∀ o ∈ n.sends, o = none) :
    ∃ cameras n' consumed, discoverCameras config n = .ok cameras n' ∧
      n.receptions = consumed ++ n'.receptions ∧
      cameras.length ≤ 10 ∧
      (cameras.map fun c => (c.ipAddress, c.port)).Nodup ∧
      cameras.Sublist ((datagrams consumed).filterMap decode) ∧
      ∀ c ∈ cameras, ∃ d ∈ datagrams consumed, decode d = some c ∧
        14 ≤ d.1.length ∧ beU16 (d.1.take 2) = 0x0002 ∧ beU16 ((d.1.drop 2).take 2) = 0x0100 ∧
        ∃ port, d.2 = .v4 c.ipAddress port := by
  obtain ⟨b, n', hsearch⟩ := search_ok config setUp sends
  have gathered := search_gathered hsearch
  obtain ⟨consumed, hconsumed, hheard⟩ := gathered.heard
  have hcameras : b.cameras = (heardIn (datagrams consumed)).kept := by rw [← hheard, heardBy]
  have hsublist : b.cameras.Sublist ((datagrams consumed).filterMap decode) :=
    hcameras ▸ kept_sublist _
  refine ⟨b.cameras, n', consumed, bind_ok hsearch, hconsumed, gathered.few,
    hcameras ▸ keys_nodup _, hsublist, ?_⟩
  intro c hc
  obtain ⟨d, hd, hdecode⟩ := List.mem_filterMap.mp (hsublist.subset hc)
  obtain ⟨long, htype, hversion, ip, hip, heq⟩ := decode_eq_some hdecode
  obtain ⟨port, hport⟩ := sourceIp_eq_some hip
  exact ⟨d, hd, hdecode, long, htype, hversion, port, by rw [hport, heq, cameraIn]⟩

/-- One attempt, and time stands still. -/
def once : DiscoveryConfig := ⟨1000000000, 1, false, some [.v4 ⟨127, 0, 0, 1⟩ 1900]⟩

def still (receptions : List Reception) : Network := ⟨none, [], receptions, fun _ => 0, [], [], []⟩

/-- The requests of the attempt are out. -/
def asked (receptions : List Reception) : Network :=
  sending (still receptions) [] [(buildDiscoveryRequest, .v4 ⟨127, 0, 0, 1⟩ 1900)]

/-- A run of one attempt is one run of the receive loop. -/
lemma once_still {n' : Network} {b : Search} {rs : List Reception}
    (h : receiveLoop once ⟨0, [], []⟩ (asked rs) = .ok b n') :
    discoverCameras once (still rs) = .ok b.cameras (closed n' 1 0) := by
  have hsend : sendAll buildDiscoveryRequest (getDiscoveryDestinations once) (still rs) =
      .ok () (asked rs) := rfl
  have htry : tryAttempt once ⟨0, [], []⟩ 1 (still rs) = .ok b (closed n' 1 0) := by
    rw [tryAttempt, bind_ok hsend, bind_ok h, bind_ok (pause_eq once 1 b n')]
    rfl
  have hsearch : search once (still rs) = .ok b (closed n' 1 0) := by
    change (List.range' 1 1).foldlM (tryAttempt once) ⟨0, [], []⟩ (still rs) = _
    rw [List.range'_succ, List.foldlM_cons, bind_ok htry]
    rfl
  exact bind_ok hsearch

def camera : SocketAddr := .v4 ⟨192, 168, 1, 100⟩ 1900

def announcement : Bytes := [0, 2, 1, 0, 0, 0, 0, 1, 1, 0, 0x3D, 0x7C, 0, 0, 0x5A]

def announced : DiscoveredCamera := ⟨⟨192, 168, 1, 100⟩, 15740, [0x5A], 1, 256⟩

example : decode (announcement, camera) = some announced := by decide

/-- A second camera, and a source without an IPv4 address. -/
def neighbour : SocketAddr := .v4 ⟨192, 168, 1, 101⟩ 1900

def stranger : SocketAddr := .v6 1 1900 0 0

/-- Something malformed, a receive error, and two cameras, one of them twice. -/
def mixed : List Reception :=
  [.datagram [0, 2] stranger, .datagram announcement camera, .failed .other,
    .datagram announcement neighbour, .datagram announcement camera]

theorem discovery_sound_mixed : ∃ cameras n' consumed,
    discoverCameras once (still mixed) = .ok cameras n' ∧
      (still mixed).receptions = consumed ++ n'.receptions ∧
      cameras.length ≤ 10 ∧ (cameras.map fun c => (c.ipAddress, c.port)).Nodup ∧
      cameras.Sublist ((datagrams consumed).filterMap decode) ∧
      ∀ c ∈ cameras, ∃ d ∈ datagrams consumed, decode d = some c ∧
        14 ≤ d.1.length ∧ beU16 (d.1.take 2) = 0x0002 ∧ beU16 ((d.1.drop 2).take 2) = 0x0100 ∧
        ∃ port, d.2 = .v4 c.ipAddress port :=
  discovery_sound once (still mixed) rfl (fun _ h => absurd h List.not_mem_nil)

/-- Every camera that a datagram announces is there. -/
def Complete (ds : List (Bytes × SocketAddr)) (cameras : List DiscoveredCamera) : Prop :=
  ∀ d ∈ ds, ∀ c, decode d = some c →
    ∃ c' ∈ cameras, c'.ipAddress = c.ipAddress ∧ c'.port = c.port

/-- Every camera that a datagram announces is announced by the first datagram of some source. -/
def AnnouncedFirst (ds : List (Bytes × SocketAddr)) : Prop :=
  ∀ d ∈ ds, ∀ c, decode d = some c →
    ∃ d' c', First Prod.snd ds d' ∧ decode d' = some c' ∧
      c'.ipAddress = c.ipAddress ∧ c'.port = c.port

lemma keyOf_eq {c c' : DiscoveredCamera} :
    keyOf c' = keyOf c ↔ c'.ipAddress = c.ipAddress ∧ c'.port = c.port := by
  rw [keyOf, keyOf, Prod.mk.injEq]

/-- First datagrams announce ten cameras of different addresses or ports. -/
def TenAnnounced (ds : List (Bytes × SocketAddr)) : Prop :=
  ∃ keys : List (Ipv4Addr × UInt16), keys.length = 10 ∧ keys.Nodup ∧
    ∀ k ∈ keys, ∃ d c, First Prod.snd ds d ∧ decode d = some c ∧ keyOf c = k

lemma complete_iff (ds : List (Bytes × SocketAddr)) :
    Complete ds (heardIn ds).kept ↔ AnnouncedFirst ds := by
  refine forall₄_congr fun d _ c _ => ?_
  have hkeys : keyOf c ∈ (heardIn ds).kept.map keyOf ↔
      ∃ d' c', First Prod.snd ds d' ∧ decode d' = some c' ∧ keyOf c' = keyOf c := mem_keys _ _
  simp only [List.mem_map, keyOf_eq] at hkeys
  exact hkeys

/-- A run that returns fewer than ten cameras misses none, if and only if first datagrams announce
all cameras that are announced, or ten of them. -/
theorem no_camera_missed_iff {n n' : Network} {cameras : List DiscoveredCamera}
    {consumed : List Reception} (run : discoverCameras config n = .ok cameras n')
    (hconsumed : n.receptions = consumed ++ n'.receptions) :
    (cameras.length < 10 → Complete (datagrams consumed) cameras) ↔
      AnnouncedFirst (datagrams consumed) ∨ TenAnnounced (datagrams consumed) := by
  have hten : 10 ≤ (heardIn (datagrams consumed)).kept.length ↔
      TenAnnounced (datagrams consumed) := le_kept_length _ _
  rw [discoverCameras_heard run hconsumed, complete_iff, ← hten, ← Nat.not_lt, or_comm,
    ← imp_iff_not_or]

/-- Both cameras are there, the first one once. -/
theorem no_camera_missed_mixed : ∃ n',
    let both : List DiscoveredCamera :=
      [announced, { announced with ipAddress := ⟨192, 168, 1, 101⟩ }]
    discoverCameras once (still mixed) = .ok both n' ∧
      ((both.length < 10 → Complete (datagrams mixed) both) ↔
        AnnouncedFirst (datagrams mixed) ∨ TenAnnounced (datagrams mixed)) := by
  obtain ⟨n', hloop, hall⟩ : ∃ n', receiveLoop once ⟨0, [], []⟩ (asked mixed) =
      .ok ⟨0, [announced, { announced with ipAddress := ⟨192, 168, 1, 101⟩ }],
        [neighbour, camera, stranger]⟩ n' ∧ n'.receptions = [] :=
    ⟨_, (loop_continue rfl).trans ((loop_continue rfl).trans ((loop_continue rfl).trans
      ((loop_continue rfl).trans ((loop_continue rfl).trans (loop_break rfl))))), rfl⟩
  have hconsumed : (still mixed).receptions = mixed ++ (closed n' 1 0).receptions := by
    rw [closed, hall, List.append_nil]
    rfl
  exact ⟨_, once_still hloop, no_camera_missed_iff (once_still hloop) hconsumed⟩

/-- The source of a malformed datagram is not listened to again. -/
theorem camera_missed : ¬ ∀ (config : DiscoveryConfig) (n n' : Network)
    (cameras : List DiscoveredCamera) (consumed : List Reception),
    discoverCameras config n = .ok cameras n' → n.receptions = consumed ++ n'.receptions →
      cameras.length < 10 → Complete (datagrams consumed) cameras := by
  intro all
  obtain ⟨n', hloop, hall⟩ : ∃ n', receiveLoop once ⟨0, [], []⟩
      (asked [.datagram [0] camera, .datagram announcement camera]) = .ok ⟨0, [], [camera]⟩ n' ∧
        n'.receptions = [] :=
    ⟨_, (loop_continue rfl).trans ((loop_continue rfl).trans (loop_break rfl)), rfl⟩
  have hconsumed : (still [.datagram [0] camera, .datagram announcement camera]).receptions =
      [.datagram [0] camera, .datagram announcement camera] ++ (closed n' 1 0).receptions := by
    rw [closed, hall]
    rfl
  obtain ⟨_, hmem, _⟩ := all _ _ _ _ _ (once_still hloop) hconsumed (by decide)
    (announcement, camera) (by decide) announced (by decide)
  cases hmem

end DiscoveryResults
