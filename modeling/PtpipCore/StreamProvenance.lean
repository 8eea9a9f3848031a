import PtpipCore.ReceiveRuns
import PtpipCore.FrameStreams
import Mathlib.Data.List.Induction

/-!
# What on a stream decides

A stream may bring anything: frames that are cut off, faults, the rest of a frame that was given up.
What is received from it is received packet by packet, and a wait is decided by the first packet
that is for it.
-/

namespace StreamProvenance

open Effects ByteStream Types Transport Commands FrameStreams ReceiveRuns
open EStateM (Result)

section runs

variable {s t u : List Arrival} {ps qs : List PtpIpPacket} {p q : PtpIpPacket}
  {e : PtpIpError} {P : PtpIpPacket → Prop}

/-- Of two runs on one stream the shorter one is the beginning of the longer one. -/
lemma receives_compare (run : Receives s ps t) (other : Receives s qs u) :
    (∃ rest, qs = ps ++ rest ∧ Receives t rest u) ∨
      ∃ rest, ps = qs ++ rest ∧ Receives u rest t := by
  induction run generalizing qs with
  | nothing s => exact Or.inl ⟨qs, rfl, other⟩
  | packet received rest ih =>
    cases other with
    | nothing => exact Or.inr ⟨_, rfl, .packet received rest⟩
    | packet received' rest' =>
      cases received.symm.trans received'
      rcases ih rest' with ⟨more, rfl, h⟩ | ⟨more, rfl, h⟩
      · exact Or.inl ⟨more, rfl, h⟩
      · exact Or.inr ⟨more, rfl, h⟩

/-- The first packet with a property is reached in one way only. -/
lemma first_unique (run : Receives s (ps ++ [p]) t) (before : ∀ r ∈ ps, ¬ P r) (hp : P p)
    (run' : Receives s (qs ++ [q]) u) (before' : ∀ r ∈ qs, ¬ P r) (hq : P q) :
    ps = qs ∧ p = q ∧ t = u := by
  have extends_none : ∀ {as bs : List PtpIpPacket} {a b : PtpIpPacket} {rest : List PtpIpPacket},
      (∀ r ∈ bs, ¬ P r) → P a → bs ++ [b] = as ++ [a] ++ rest → rest = [] := by
    intro as bs a b rest none ha heq
    induction rest using List.reverseRecOn with
    | nil => rfl
    | append_singleton rest c _ =>
      rw [← List.append_assoc] at heq
      obtain ⟨rfl, -⟩ := List.append_inj' heq rfl
      exact absurd ha (none a (by simp))
  rcases receives_compare run run' with ⟨rest, heq, h⟩ | ⟨rest, heq, h⟩
  · obtain rfl := extends_none before' hp heq
    rw [List.append_nil] at heq
    obtain ⟨rfl, hlast⟩ := List.append_inj' heq rfl
    cases hlast
    cases h
    exact ⟨rfl, rfl, rfl⟩
  · obtain rfl := extends_none before hq heq
    rw [List.append_nil] at heq
    obtain ⟨rfl, hlast⟩ := List.append_inj' heq rfl
    cases hlast
    cases h
    exact ⟨rfl, rfl, rfl⟩

/-- Where such a packet is reached, no run without it ends in a failure to receive. -/
lemma first_received (run : Receives s (ps ++ [p]) t) (hp : P p) (other : Receives s qs u)
    (before : ∀ r ∈ qs, ¬ P r) : ¬ ∃ v, recvPacket u = .error e v := by
  rintro ⟨v, failure⟩
  rcases receives_compare run other with ⟨rest, rfl, -⟩ | ⟨rest, heq, h⟩
  · exact before p (by simp) hp
  · cases h with
    | nothing =>
      rw [List.append_nil] at heq
      subst heq
      exact before p (by simp) hp
    | packet received => cases received.symm.trans failure

end runs

section waits

variable (config : SessionConfig)

/-- A wait goes on no longer: the stream gives no packet, or the time is up. -/
def Silent (s : Incoming) (e : PtpIpError) (u v : List Arrival) : Prop :=
  recvPacket u = .error e v ∨ e = .timeout ∧ v = u ∧ ¬ OnTime config s.clocks

/-- How a wait for a packet with a property ends. -/
inductive Waited (P : PtpIpPacket → Prop) (s : Incoming) :
    Result PtpIpError (List Arrival) PtpIpPacket → Prop where
  | received {ps : List PtpIpPacket} {p : PtpIpPacket} {u : List Arrival}
      (run : Receives s.arrivals (ps ++ [p]) u) (before : ∀ q ∈ ps, ¬ P q) (wanted : P p) :
      Waited P s (.ok p u)
  | silent {ps : List PtpIpPacket} {e : PtpIpError} {u v : List Arrival}
      (run : Receives s.arrivals ps u) (before : ∀ q ∈ ps, ¬ P q) (silent : Silent config s e u v) :
      Waited P s (.error e v)

variable {config} {t : PtpIpMessageType} {s s' : Incoming} {e : PtpIpError}

/-- A turn that fails could not receive, or its check of the clock fired. -/
lemma filterTurn_silent {expectedType : Option PtpIpMessageType} {turn : Nat} {u v : List Arrival}
    (h : filterTurn (s.clocks 0) expectedType config turn u = .error e v) :
    Silent config s e u v := by
  rcases filterTurnOf_error h with ⟨rfl, rfl, late⟩ | hrecv
  · exact Or.inr ⟨rfl, rfl, fun onTime => absurd (onTime 0 (turn + 1)) (Nat.not_le.mpr late)⟩
  · exact Or.inl hrecv

lemma filter_waited (config : SessionConfig) (t : PtpIpMessageType) (s : Incoming) :
    Waited config (fun p => p.messageType = t) s
      (loop (filterTurn_shrinks (s.clocks 0) (some t) config) 0 s.arrivals) := by
  refine loop_induct (filterTurn_shrinks (s.clocks 0) (some t) config)
    (P := fun _ u => ∃ ps, Receives s.arrivals ps u ∧ ∀ q ∈ ps, q.messageType ≠ t) ?_ ?_ ?_ 0
    s.arrivals ⟨[], .nothing _, fun q hq => absurd hq List.not_mem_nil⟩
  · rintro turn u turn' u' ⟨ps, run, before⟩ hturn
    obtain ⟨p, hrecv, hlast⟩ := filterTurnOf_ok hturn
    refine ⟨ps ++ [p], run.append (.packet hrecv (.nothing _)), ?_⟩
    intro q hq
    rcases List.mem_append.mp hq with h | h
    · exact before q h
    · rw [List.mem_singleton.mp h]
      intro wanted
      split at hlast
      · cases hlast
      · next other => exact other (decide_eq_true wanted.symm)
  · rintro turn u p u' ⟨ps, run, before⟩ hturn
    obtain ⟨p', hrecv, hlast⟩ := filterTurnOf_ok hturn
    split at hlast
    · next wanted =>
      cases hlast
      exact .received (run.append (.packet hrecv (.nothing _))) before
        (of_decide_eq_true wanted).symm
    · cases hlast
  · rintro turn u e u' ⟨ps, run, before⟩ hturn
    exact .silent run before (filterTurn_silent hturn)

lemma filtered_ok {p : PtpIpPacket} (h : recvPacketFiltered (some t) config s = .ok p s') :
    Waited config (fun p => p.messageType = t) s (.ok p s'.arrivals) ∧
      s'.clocks = later s.clocks := by
  have hwait := filter_waited config t s
  unfold recvPacketFiltered at h
  dsimp only at h
  split at h
  · next heq =>
    cases h
    rw [heq] at hwait
    exact ⟨hwait, rfl⟩
  · cases h

lemma filtered_error (h : recvPacketFiltered (some t) config s = .error e s') :
    Waited config (fun p => p.messageType = t) s (.error e s'.arrivals) := by
  have hwait := filter_waited config t s
  unfold recvPacketFiltered at h
  dsimp only at h
  split at h
  · cases h
  · next heq =>
    cases h
    rw [heq] at hwait
    exact hwait

/-- What a wait has thrown away so far. -/
structure Idle (config : SessionConfig) (P : PtpIpPacket → Prop) (s u : Incoming)
    (ps : List PtpIpPacket) : Prop where
  run : Receives s.arrivals ps u.arrivals
  before : ∀ q ∈ ps, ¬ P q
  onTime : OnTime config s.clocks → OnTime config u.clocks

variable {P : PtpIpPacket → Prop} {u u' : Incoming} {ps : List PtpIpPacket}

lemma idle_start (config : SessionConfig) (P : PtpIpPacket → Prop) (s : Incoming) :
    Idle config P s s [] :=
  ⟨.nothing _, fun _ hq => absurd hq List.not_mem_nil, id⟩

/-- A packet of another type goes with those that are thrown away. -/
lemma Idle.filtered_ok {p : PtpIpPacket} (idle : Idle config P s u ps)
    (types : ∀ q, P q → q.messageType = t)
    (h : recvPacketFiltered (some t) config u = .ok p u') :
    p.messageType = t ∧ ∃ qs, (∀ q ∈ ps ++ qs, ¬ P q) ∧ (∀ q ∈ qs, q.messageType ≠ t) ∧
      Receives s.arrivals (ps ++ qs ++ [p]) u'.arrivals ∧
      (OnTime config s.clocks → OnTime config u'.clocks) := by
  obtain ⟨hwait, hclocks⟩ := StreamProvenance.filtered_ok h
  cases hwait with
  | @received qs _ _ run before wanted =>
    refine ⟨wanted, qs, ?_, before, ?_, ?_⟩
    · intro q hq
      rcases List.mem_append.mp hq with hq | hq
      · exact idle.before q hq
      · exact fun hP => before q hq (types q hP)
    · rw [List.append_assoc]
      exact idle.run.append run
    · intro onTime
      rw [hclocks]
      exact (idle.onTime onTime).later

lemma Idle.filtered_error (idle : Idle config P s u ps)
    (types : ∀ q, P q → q.messageType = t)
    (h : recvPacketFiltered (some t) config u = .error e u') :
    ∃ qs v, Receives s.arrivals (ps ++ qs) v ∧ (∀ q ∈ ps ++ qs, ¬ P q) ∧
      (∀ q ∈ qs, q.messageType ≠ t) ∧ Silent config s e v u'.arrivals := by
  have hwait := StreamProvenance.filtered_error h
  cases hwait with
  | @silent qs _ v _ run before silent =>
    refine ⟨qs, v, idle.run.append run, ?_, before, ?_⟩
    · intro q hq
      rcases List.mem_append.mp hq with hq | hq
      · exact idle.before q hq
      · exact fun hP => before q hq (types q hP)
    · rcases silent with h | ⟨rfl, rfl, late⟩
      · exact Or.inl h
      · exact Or.inr ⟨rfl, rfl, fun onTime => late (idle.onTime onTime)⟩

end waits

section responses

variable (config : SessionConfig) (t : UInt32)

/-- The packet is a response to the transaction. -/
def Answers (p : PtpIpPacket) : Prop := p.messageType = .responseBlock ∧ p.transactionId = t

/-- How the wait for a response ends. -/
inductive Responded (s : Incoming) : Result PtpIpError Incoming PtpIpPacket → Prop where
  | accepted {ps : List PtpIpPacket} {p : PtpIpPacket} {s' : Incoming}
      (run : Receives s.arrivals (ps ++ [p]) s'.arrivals) (before : ∀ q ∈ ps, ¬ Answers t q)
      (answers : Answers t p) (check : checkResponseError p = .ok ()) : Responded s (.ok p s')
  | refused {ps : List PtpIpPacket} {p : PtpIpPacket} {e : PtpIpError} {s' : Incoming}
      (run : Receives s.arrivals (ps ++ [p]) s'.arrivals) (before : ∀ q ∈ ps, ¬ Answers t q)
      (answers : Answers t p) (check : checkResponseError p = .error e) : Responded s (.error e s')
  | silent {ps : List PtpIpPacket} {e : PtpIpError} {u : List Arrival} {s' : Incoming}
      (run : Receives s.arrivals ps u) (before : ∀ q ∈ ps, ¬ Answers t q)
      (silent : Silent config s e u s'.arrivals) : Responded s (.error e s')

variable {config t} in
/-- A turn of the wait, by what was received in it. -/
lemma getResponseTurn_judged {u u' : Incoming} {p : PtpIpPacket}
    (h : recvPacketFiltered (some .responseBlock) config u = .ok p u') :
    getResponseTurn t config () u =
      if p.transactionId ≠ t then .ok (.inl ()) u'
      else match checkResponseError p with
        | .ok _ => .ok (.inr p) u'
        | .error e => .error e u' := by
  rw [getResponseTurn, bind_ok h, takeResponse]
  split
  · rfl
  · cases checkResponseError p <;> rfl

theorem getResponse_responded (s : Incoming) :
    Responded config t s (getResponse t config s) := by
  have types : ∀ q, Answers t q → q.messageType = .responseBlock := fun q h => h.1
  have received : ∀ {u u' : Incoming} {r : Unit ⊕ PtpIpPacket},
      getResponseTurn t config () u = .ok r u' →
        ∃ p, recvPacketFiltered (some .responseBlock) config u = .ok p u' := fun h => by
    obtain ⟨p, hrecv, -⟩ := getResponseTurn_ok h
    exact ⟨p, hrecv⟩
  refine loop_induct (getResponseTurn_shrinks t config)
    (P := fun _ u => ∃ ps, Idle config (Answers t) s u ps) ?_ ?_ ?_ () s
    ⟨[], idle_start config _ s⟩
  · rintro ⟨⟩ u ⟨⟩ u' ⟨ps, idle⟩ hturn
    obtain ⟨p, hrecv⟩ := received hturn
    rw [getResponseTurn_judged hrecv] at hturn
    obtain ⟨-, qs, before, -, run, onTime⟩ := idle.filtered_ok types hrecv
    split at hturn
    · next foreign =>
      refine ⟨ps ++ qs ++ [p], run, ?_, onTime⟩
      intro q hq
      rcases List.mem_append.mp hq with h | h
      · exact before q h
      · rw [List.mem_singleton.mp h]
        exact fun own => foreign own.2
    · split at hturn <;> cases hturn
  · rintro ⟨⟩ u a u' ⟨ps, idle⟩ hturn
    obtain ⟨p, hrecv⟩ := received hturn
    rw [getResponseTurn_judged hrecv] at hturn
    obtain ⟨isResponse, qs, before, -, run, -⟩ := idle.filtered_ok types hrecv
    split at hturn
    · cases hturn
    · next own =>
      split at hturn
      · next check =>
        cases hturn
        exact .accepted run before ⟨isResponse, not_not.mp own⟩ check
      · cases hturn
  · rintro ⟨⟩ u e u' ⟨ps, idle⟩ hturn
    cases hrecv : recvPacketFiltered (some .responseBlock) config u with
    | error e' v =>
      rw [getResponseTurn, bind_error hrecv] at hturn
      cases hturn
      obtain ⟨qs, v, run, before, -, silent⟩ := idle.filtered_error types hrecv
      exact .silent run before silent
    | ok p v =>
      rw [getResponseTurn_judged hrecv] at hturn
      obtain ⟨isResponse, qs, before, -, run, -⟩ := idle.filtered_ok types hrecv
      split at hturn
      · cases hturn
      · next own =>
        split at hturn
        · cases hturn
        · next check =>
          cases hturn
          exact .refused run before ⟨isResponse, not_not.mp own⟩ check

variable {config t} in
/-- No wait that is on time is silent before a packet that it could have had. -/
lemma not_silent {P : PtpIpPacket → Prop} {s : Incoming} {ps qs : List PtpIpPacket}
    {p : PtpIpPacket}
    {e : PtpIpError} {u v w : List Arrival} (onTime : OnTime config s.clocks)
    (run : Receives s.arrivals (ps ++ [p]) u) (hp : P p) (other : Receives s.arrivals qs v)
    (before : ∀ q ∈ qs, ¬ P q) : ¬ Silent config s e v w := by
  rintro (failure | ⟨-, -, late⟩)
  · exact first_received run hp other before ⟨w, failure⟩
  · exact late onTime

/-- Whatever a stream brings, the wait for a response ends with the first one to its transaction
that is received, and that one is judged by its code, or with the failure to receive one. -/
theorem response_decides (s : Incoming) :
    Responded config t s (getResponse t config s) ∧
    (OnTime config s.clocks → ∀ ps p u, Receives s.arrivals (ps ++ [p]) u →
      (∀ q ∈ ps, ¬ Answers t q) → Answers t p →
      ∃ s', s'.arrivals = u ∧ getResponse t config s = judged p s') := by
  have responded := getResponse_responded config t s
  refine ⟨responded, fun onTime ps p u run before answers => ?_⟩
  generalize getResponse t config s = r at responded
  cases responded with
  | @accepted qs q s' run' before' answers' check =>
    obtain ⟨-, rfl, rfl⟩ := first_unique run before answers run' before' answers'
    exact ⟨s', rfl, by rw [judged, check]⟩
  | @refused qs q e s' run' before' answers' check =>
    obtain ⟨-, rfl, rfl⟩ := first_unique run before answers run' before' answers'
    exact ⟨s', rfl, by rw [judged, check]⟩
  | silent run' before' silent => exact absurd silent (not_silent onTime run answers run' before')

/-- A positive response behind an event of the same transaction, and before the rest of a frame. -/
theorem response_decides_behind_event :
    ∃ s', s'.arrivals = arrived [9] ∧ getResponse 1 ⟨30, 3⟩
      ⟨arrived [0, 6, 0, 0, 0, 0, 0, 1, 0, 5, 0, 0, 0, 0, 0, 1, 0, 0, 0, 12, 0, 0, 0x20, 1, 0, 0, 0,
        0, 9], fun _ _ => 0⟩ = judged ⟨.responseBlock, 1, [0, 0, 0x20, 1, 0, 0, 0, 0]⟩ s' := by
  have onTime : OnTime ⟨30, 3⟩ fun _ _ => 0 := fun _ _ => Nat.zero_le _
  have run : Receives (arrived [0, 6, 0, 0, 0, 0, 0, 1, 0, 5, 0, 0, 0, 0, 0, 1, 0, 0, 0, 12, 0, 0,
      0x20, 1, 0, 0, 0, 0, 9]) ([⟨.eventBlock, 1, []⟩] ++
        [⟨.responseBlock, 1, [0, 0, 0x20, 1, 0, 0, 0, 0]⟩]) (arrived [9]) :=
    .packet rfl (.packet rfl (.nothing _))
  have before : ∀ q ∈ [(⟨.eventBlock, 1, []⟩ : PtpIpPacket)], ¬ Answers 1 q := by
    intro q hq own
    rw [List.mem_singleton.mp hq] at own
    cases own.1
  exact (response_decides ⟨30, 3⟩ 1 ⟨_, fun _ _ => 0⟩).2 onTime _ _ _ run before ⟨rfl, rfl⟩

end responses

section blocks

variable (config : SessionConfig) (t : UInt32)

/-- The packet is a data block of the transaction. -/
def BlockOf (p : PtpIpPacket) : Prop := p.messageType = .dataBlock ∧ p.transactionId = t

instance : DecidablePred (BlockOf t) := fun _ => inferInstanceAs (Decidable (_ ∧ _))

/-- The block that ends the data of the transaction. -/
def endOf : PtpIpPacket := ⟨.dataBlock, t, []⟩

/-- The bytes of the blocks of a transaction, in the order in which they were received. -/
def gathered (ps : List PtpIpPacket) : Bytes := (ps.filter (BlockOf t)).flatMap PtpIpPacket.payload

/-- How the collection of data blocks ends. -/
inductive Collected (s : Incoming) : Result PtpIpError Incoming Bytes → Prop where
  | ended {ps : List PtpIpPacket} {s' : Incoming}
      (run : Receives s.arrivals (ps ++ [endOf t]) s'.arrivals) (before : ∀ q ∈ ps, q ≠ endOf t) :
      Collected s (.ok (gathered t ps) s')
  | silent {ps : List PtpIpPacket} {e : PtpIpError} {u : List Arrival} {s' : Incoming}
      (run : Receives s.arrivals ps u) (before : ∀ q ∈ ps, q ≠ endOf t)
      (silent : Silent config s e u s'.arrivals) : Collected s (.error e s')

lemma gathered_append (ps qs : List PtpIpPacket) :
    gathered t (ps ++ qs) = gathered t ps ++ gathered t qs := by
  unfold gathered
  rw [List.filter_append, List.flatMap_append]

lemma gathered_others {qs : List PtpIpPacket} (others : ∀ q ∈ qs, q.messageType ≠ .dataBlock) :
    gathered t qs = [] := by
  have hnone : qs.filter (BlockOf t) = [] :=
    List.filter_eq_nil_iff.mpr fun q hq own => others q hq (of_decide_eq_true own).1
  rw [gathered, hnone]
  rfl

lemma gathered_last {p : PtpIpPacket} (isData : p.messageType = .dataBlock) :
    gathered t [p] = if p.transactionId = t then p.payload else [] := by
  by_cases own : p.transactionId = t
  · have hfilter : [p].filter (BlockOf t) = [p] :=
      List.filter_cons_of_pos (decide_eq_true ⟨isData, own⟩)
    rw [if_pos own, gathered, hfilter, List.flatMap_singleton]
  · have hfilter : [p].filter (BlockOf t) = [] :=
      List.filter_cons_of_neg fun h => own (of_decide_eq_true h).2
    rw [if_neg own, gathered, hfilter, List.flatMap_nil]

theorem receiveDataBlock_collected (s : Incoming) :
    Collected config t s (receiveDataBlock t config s) := by
  have types : ∀ q, q = endOf t → q.messageType = .dataBlock := by
    rintro q rfl
    rfl
  have received : ∀ {b : Bytes} {u u' : Incoming} {r : Bytes ⊕ Bytes},
      receiveDataBlockTurn t config b u = .ok r u' →
        ∃ p, recvPacketFiltered (some .dataBlock) config u = .ok p u' := fun h => by
    obtain ⟨p, hrecv, -⟩ := receiveDataBlockTurn_ok h
    exact ⟨p, hrecv⟩
  refine loop_induct (receiveDataBlockTurn_shrinks t config)
    (P := fun b u => ∃ ps, Idle config (· = endOf t) s u ps ∧ b = gathered t ps) ?_ ?_ ?_ [] s
    ⟨[], idle_start config _ s, rfl⟩
  · rintro b u b' u' ⟨ps, idle, rfl⟩ hturn
    obtain ⟨p, hrecv⟩ := received hturn
    rw [receiveDataBlockTurn_recv _ hrecv] at hturn
    obtain ⟨isData, qs, before, others, run, onTime⟩ := idle.filtered_ok types hrecv
    have hgathered : gathered t (ps ++ qs ++ [p]) =
        gathered t ps ++ if p.transactionId = t then p.payload else [] := by
      rw [gathered_append, gathered_append, gathered_others t others, List.append_nil,
        gathered_last t isData]
    have notEnd : p ≠ endOf t → ∀ q ∈ ps ++ qs ++ [p], q ≠ endOf t := by
      intro other q hq
      rcases List.mem_append.mp hq with h | h
      · exact before q h
      · rw [List.mem_singleton.mp h]
        exact other
    split at hturn
    · next foreign =>
      cases hturn
      refine ⟨ps ++ qs ++ [p], ⟨run, notEnd fun h => foreign (by rw [h]; rfl), onTime⟩, ?_⟩
      rw [hgathered, if_neg foreign, List.append_nil]
    · next own =>
      split at hturn
      · cases hturn
      · next nonempty =>
        cases hturn
        refine ⟨ps ++ qs ++ [p], ⟨run, notEnd fun h => nonempty (by rw [h]; rfl), onTime⟩, ?_⟩
        rw [hgathered, if_pos (not_not.mp own)]
  · rintro b u a u' ⟨ps, idle, rfl⟩ hturn
    obtain ⟨p, hrecv, ⟨collected, others⟩ | ⟨hlast, own, empty⟩⟩ := receiveDataBlockTurn_ok hturn
    · cases others
    · cases hlast
      obtain ⟨isData, qs, before, others, run, -⟩ := idle.filtered_ok types hrecv
      have hend : p = endOf t := by
        obtain ⟨messageType, transactionId, payload⟩ := p
        cases isData
        cases own
        cases empty
        rfl
      subst hend
      have hgathered : gathered t (ps ++ qs) = gathered t ps := by
        rw [gathered_append, gathered_others t others, List.append_nil]
      rw [← hgathered]
      exact .ended run before
  · rintro b u e u' ⟨ps, idle, rfl⟩ hturn
    cases hrecv : recvPacketFiltered (some .dataBlock) config u with
    | ok p v =>
      rw [receiveDataBlockTurn_recv _ hrecv] at hturn
      cases hturn
    | error e' v =>
      rw [receiveDataBlockTurn, bind_error hrecv] at hturn
      cases hturn
      obtain ⟨qs, v, run, before, -, silent⟩ := idle.filtered_error types hrecv
      exact .silent run before silent

/-- Whatever a stream brings, the collection of data ends with the first end of its transaction that
is received, and has gathered the blocks of the transaction received before, or it ends with the
failure to receive one. -/
theorem end_of_data_decides (s : Incoming) :
    Collected config t s (receiveDataBlock t config s) ∧
    (OnTime config s.clocks → ∀ ps u, Receives s.arrivals (ps ++ [endOf t]) u →
      (∀ q ∈ ps, q ≠ endOf t) →
      ∃ s', s'.arrivals = u ∧ receiveDataBlock t config s = .ok (gathered t ps) s') := by
  have collected := receiveDataBlock_collected config t s
  refine ⟨collected, fun onTime ps u run before => ?_⟩
  generalize receiveDataBlock t config s = r at collected
  cases collected with
  | @ended qs s' run' before' =>
    obtain ⟨rfl, -, rfl⟩ := first_unique (P := (· = endOf t)) run before rfl run' before' rfl
    exact ⟨s', rfl, rfl⟩
  | silent run' before' silent =>
    exact absurd silent (not_silent (P := (· = endOf t)) onTime run rfl run' before')

/-- Two bytes of the transaction, with a block of another one between them. -/
theorem end_of_data_decides_two :
    ∃ s', s'.arrivals = [.fault .timedOut] ∧ receiveDataBlock 1 ⟨30, 3⟩
      ⟨arrived ([0, 4, 0, 0, 0, 0, 0, 1, 0, 0, 0, 1, 7] ++
        [0, 4, 0, 0, 0, 0, 0, 2, 0, 0, 0, 1, 8] ++
        [0, 4, 0, 0, 0, 0, 0, 1, 0, 0, 0, 1, 9] ++ [0, 4, 0, 0, 0, 0, 0, 1, 0, 0, 0, 0]) ++
        [.fault .timedOut], fun _ _ => 0⟩ = .ok [7, 9] s' := by
  have onTime : OnTime ⟨30, 3⟩ fun _ _ => 0 := fun _ _ => Nat.zero_le _
  have run : Receives (arrived ([0, 4, 0, 0, 0, 0, 0, 1, 0, 0, 0, 1, 7] ++
      [0, 4, 0, 0, 0, 0, 0, 2, 0, 0, 0, 1, 8] ++ [0, 4, 0, 0, 0, 0, 0, 1, 0, 0, 0, 1, 9] ++
      [0, 4, 0, 0, 0, 0, 0, 1, 0, 0, 0, 0]) ++ [.fault .timedOut])
      ([⟨.dataBlock, 1, [7]⟩, ⟨.dataBlock, 2, [8]⟩, ⟨.dataBlock, 1, [9]⟩] ++ [endOf 1])
      [.fault .timedOut] :=
    .packet rfl (.packet rfl (.packet rfl (.packet rfl (.nothing _))))
  exact (end_of_data_decides ⟨30, 3⟩ 1 ⟨_, fun _ _ => 0⟩).2 onTime _ _ run (by decide)

end blocks

end StreamProvenance
