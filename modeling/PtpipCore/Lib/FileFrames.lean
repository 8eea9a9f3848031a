import PtpipCore.Lib.FileActions

/-!
# Actions and files that they do not name

An action commutes with a change of the state if it does the same before and after the change,
and the change is still there when it has ended or was cut by a crash. An action on files
commutes with every change of files that it does not name: it neither reads nor writes them.
-/

namespace FileFrames

open Effects ByteStream CrashActions FileActions Text
open EStateM (Result)
open Function (update)

variable {σ τ ε α β : Type}

/-- The outcome with another state. -/
def mapState (φ : σ → σ) : Result ε σ α → Result ε σ α
  | .ok a s => .ok a (φ s)
  | .error e s => .error e (φ s)

lemma answer_mapState (φ : σ → σ) (r : Result ε σ α) : answer (mapState φ r) = answer r := by
  cases r <;> rfl

lemma endState_mapState (φ : σ → σ) (r : Result ε σ α) :
    endState (mapState φ r) = φ (endState r) := by
  cases r <;> rfl

/-- The action commutes with the change, and returns such values only. -/
structure Commutes (φ : σ → σ) (P : α → Prop) (m : Action σ ε α) : Prop where
  run : ∀ s, m.run (φ s) = mapState φ (m.run s)
  crash : ∀ s u, m.crash (φ s) u ↔ ∃ t, m.crash s t ∧ u = φ t
  returns : ∀ s a t, m.run s = .ok a t → P a

section rules

variable {φ : σ → σ} {P : α → Prop} {Q : β → Prop}

lemma commutes_atomic {op : EStateM ε σ α} (run : ∀ s, op (φ s) = mapState φ (op s))
    (returns : ∀ s a t, op s = .ok a t → P a) : Commutes φ P (Action.atomic op) where
  run := run
  crash s u := by
    have hend : endState (op (φ s)) = φ (endState (op s)) := by rw [run, endState_mapState]
    change u = φ s ∨ u = endState (op (φ s)) ↔ ∃ t, (t = s ∨ t = endState (op s)) ∧ u = φ t
    rw [hend]
    constructor
    · rintro (rfl | rfl)
      · exact ⟨s, Or.inl rfl, rfl⟩
      · exact ⟨_, Or.inr rfl, rfl⟩
    · rintro ⟨t, rfl | rfl, rfl⟩
      · exact Or.inl rfl
      · exact Or.inr rfl
  returns := returns

lemma commutes_pure {a : α} (h : P a) : Commutes φ P (pure a : Action σ ε α) :=
  commutes_atomic (fun _ => rfl) fun _ b _ hrun => by
    cases hrun
    exact h

lemma commutes_fail (e : ε) : Commutes φ P (Action.fail e : Action σ ε α) :=
  commutes_atomic (fun _ => rfl) fun _ _ _ hrun => by cases hrun

lemma commutes_bind {m : Action σ ε α} {f : α → Action σ ε β} (hm : Commutes φ P m)
    (hf : ∀ a, P a → Commutes φ Q (f a)) : Commutes φ Q (m >>= f) where
  run s := by
    have hrun := hm.run s
    cases hfirst : m.run s with
    | ok a t =>
      rw [hfirst] at hrun
      rw [Action.run_bind_ok hrun, Action.run_bind_ok hfirst]
      exact (hf a (hm.returns s a t hfirst)).run t
    | error e t =>
      rw [hfirst] at hrun
      rw [Action.run_bind_error hrun, Action.run_bind_error hfirst]
      rfl
  crash s u := by
    have hrun := hm.run s
    constructor
    · rintro (hcrash | ⟨a, t, hfirst, hsecond⟩)
      · obtain ⟨t, ht, rfl⟩ := (hm.crash s u).mp hcrash
        exact ⟨t, Or.inl ht, rfl⟩
      · rw [hrun] at hfirst
        cases hm' : m.run s with
        | error e v =>
          rw [hm'] at hfirst
          cases hfirst
        | ok b v =>
          rw [hm'] at hfirst
          cases hfirst
          obtain ⟨w, hw, rfl⟩ := ((hf a (hm.returns s a v hm')).crash v u).mp hsecond
          exact ⟨w, Or.inr ⟨a, v, hm', hw⟩, rfl⟩
    · rintro ⟨t, hcrash | ⟨a, v, hfirst, hsecond⟩, rfl⟩
      · exact Or.inl ((hm.crash s _).mpr ⟨t, hcrash, rfl⟩)
      · refine Or.inr ⟨a, φ v, by rw [hrun, hfirst]; rfl, ?_⟩
        exact ((hf a (hm.returns s a v hfirst)).crash v _).mpr ⟨t, hsecond, rfl⟩
  returns s b u hrun := by
    obtain ⟨a, t, hfirst, hsecond⟩ := bind_eq_ok_iff.mp hrun
    exact (hf a (hm.returns s a t hfirst)).returns t b u hsecond

lemma commutes_attempt {m : Action σ ε α} (hm : Commutes φ P m) :
    Commutes φ (fun _ => True) m.attempt where
  run s := by
    change Effects.attempt m.run (φ s) = mapState φ (Effects.attempt m.run s)
    rw [Effects.attempt, Effects.attempt, hm.run, answer_mapState, endState_mapState]
    rfl
  crash := hm.crash
  returns _ _ _ _ := trivial

/-- A change of a part is a change of the whole. -/
lemma commutes_within {part : Part σ τ} {ψ : τ → τ} (get : ∀ s, part.get (φ s) = ψ (part.get s))
    (set : ∀ t s, part.set (ψ t) (φ s) = φ (part.set t s)) {m : Action τ ε α}
    (hm : Commutes ψ P m) : Commutes φ P (m.within part) where
  run s := by
    change part.lift (φ s) (m.run (part.get (φ s))) = mapState φ (part.lift s (m.run (part.get s)))
    rw [get, hm.run]
    cases m.run (part.get s) with
    | ok a t => exact congrArg _ (set t s)
    | error e t => exact congrArg _ (set t s)
  crash s u := by
    change (∃ t, m.crash (part.get (φ s)) t ∧ u = part.set t (φ s)) ↔
      ∃ v, (∃ t, m.crash (part.get s) t ∧ v = part.set t s) ∧ u = φ v
    rw [get]
    constructor
    · rintro ⟨t, hcrash, rfl⟩
      obtain ⟨v, hv, rfl⟩ := (hm.crash _ t).mp hcrash
      exact ⟨_, ⟨v, hv, rfl⟩, set v s⟩
    · rintro ⟨v, ⟨t, hcrash, rfl⟩, rfl⟩
      exact ⟨ψ t, (hm.crash _ _).mpr ⟨t, hcrash, rfl⟩, (set t s).symm⟩
  returns s a t hrun := by
    change part.lift s (m.run (part.get s)) = .ok a t at hrun
    cases hm' : m.run (part.get s) with
    | ok b v =>
      rw [hm'] at hrun
      cases hrun
      exact hm.returns _ _ _ hm'
    | error e v =>
      rw [hm'] at hrun
      cases hrun

end rules

section files

variable {N : Type} [DecidableEq N]

/-- The named files as they are, and all others as they are elsewhere. -/
def mix (names : List N) (others fs : FileSystem N) : FileSystem N :=
  fun path => if path ∈ names then fs path else others path

variable {names : List N} {others fs : FileSystem N} {path : N}

lemma mix_named (h : path ∈ names) : mix names others fs path = fs path := if_pos h

lemma mix_other (h : path ∉ names) : mix names others fs path = others path := if_neg h

lemma mix_self : mix names fs fs = fs := by
  funext path
  exact ite_self _

lemma update_mix (h : path ∈ names) (contents : Option Bytes) :
    update (mix names others fs) path contents = mix names others (update fs path contents) := by
  funext other
  by_cases same : other = path
  · subst same
    rw [Function.update_self, mix_named h, Function.update_self]
  · rw [Function.update_of_ne same]
    unfold mix
    rw [Function.update_of_ne same]

/-- Taking the other files from elsewhere is taking those that differ there. -/
lemma mix_of_disjoint {own : List N} {before : FileSystem N} (disjoint : own.Disjoint names)
    (elsewhere : ∀ path ∉ names, others path = before path)
    (kept : ∀ path ∉ own, fs path = before path) : mix own others fs = mix names fs others := by
  funext path
  by_cases mine : path ∈ own
  · rw [mix_named mine, mix_other fun named => disjoint mine named]
  · rw [mix_other mine]
    by_cases named : path ∈ names
    · rw [mix_named named]
    · rw [mix_other named, elsewhere path named, kept path mine]

/-- Files that are not named do not matter. -/
abbrev Local (names : List N) (P : α → Prop) (m : Action (FileSystem N) ε α) : Prop :=
  ∀ others, Commutes (mix names others) P m

lemma local_pathExists (named : path ∈ names) :
    Local names (fun _ => True) (pathExists path : Action (FileSystem N) ε Bool) := by
  intro others
  refine commutes_atomic (fun fs => ?_) fun _ _ _ _ => trivial
  rw [mix_named named]
  rfl

variable [FromIo ε] {P : α → Prop}

lemma local_withFile (named : path ∈ names) {op : Bytes → EStateM ε (FileSystem N) α}
    (run : ∀ others contents fs, op contents (mix names others fs) =
      mapState (mix names others) (op contents fs))
    (returns : ∀ contents fs a fs', op contents fs = .ok a fs' → P a) :
    Local names P (withFile path op) := by
  intro others
  refine commutes_atomic (fun fs => ?_) fun fs a fs' hrun => ?_
  · rw [mix_named named]
    cases fs path with
    | none => rfl
    | some contents => exact run others contents fs
  · cases hpath : fs path with
    | none =>
      rw [hpath] at hrun
      cases hrun
    | some contents =>
      rw [hpath] at hrun
      exact returns contents fs a fs' hrun

lemma local_metadataLen (named : path ∈ names) :
    Local names (fun _ => True) (metadataLen path : Action (FileSystem N) ε UInt64) :=
  local_withFile named (fun _ _ _ => rfl) fun _ _ _ _ _ => trivial

lemma local_readToString (named : path ∈ names) :
    Local names (fun _ => True) (readToString path : Action (FileSystem N) ε (List Char)) := by
  refine local_withFile named (fun others contents fs => ?_) fun _ _ _ _ _ => trivial
  cases decodeUtf8 contents <;> rfl

/-- A handle on a named file. -/
def OnNamed (names : List N) (file : File N) : Prop := file.path ∈ names

lemma local_openRead (named : path ∈ names) :
    Local names (OnNamed names) (openRead path : Action (FileSystem N) ε (File N)) :=
  local_withFile named (fun _ _ _ => rfl) fun _ _ _ _ hrun => by
    cases hrun
    exact named

lemma local_openAppend (named : path ∈ names) :
    Local names (OnNamed names) (openAppend path : Action (FileSystem N) ε (File N)) :=
  local_withFile named (fun _ _ _ => rfl) fun _ _ _ _ hrun => by
    cases hrun
    exact named

lemma local_removeFile (named : path ∈ names) :
    Local names (fun _ => True) (removeFile path : Action (FileSystem N) ε Unit) := by
  refine local_withFile named (fun others contents fs => ?_) fun _ _ _ _ _ => trivial
  rw [update_mix named]
  rfl

lemma local_rename {source target : N} (hsource : source ∈ names) (htarget : target ∈ names) :
    Local names (fun _ => True) (rename source target : Action (FileSystem N) ε Unit) := by
  refine local_withFile hsource (fun others contents fs => ?_) fun _ _ _ _ _ => trivial
  rw [update_mix hsource, update_mix htarget]
  rfl

omit [FromIo ε] in
lemma local_create (named : path ∈ names) :
    Local names (OnNamed names) (create path : Action (FileSystem N) ε (File N)) := by
  intro others
  refine commutes_atomic (fun fs => ?_) fun _ _ _ hrun => ?_
  · rw [update_mix named]
    rfl
  · cases hrun
    exact named

lemma put_mix {file : File N} (named : OnNamed names file) (data : Bytes) :
    file.put data (mix names others fs) = mix names others (file.put data fs) := by
  rw [File.put, File.put, mix_named named, update_mix named]

lemma local_writeAll {file : File N} (named : OnNamed names file) (data : Bytes) :
    Local names (OnNamed names) (file.writeAll data : Action (FileSystem N) ε (File N)) := by
  intro others
  constructor
  · intro fs
    change (if file.mode = .read then _ else _) = mapState _ (if file.mode = .read then _ else _)
    split
    · rfl
    · rw [put_mix named]
      rfl
  · intro fs u
    change u = mix names others fs ∨ file.mode ≠ .read ∧
        (∃ n, u = file.put (data.take n) (mix names others fs)) ↔
      ∃ t, (t = fs ∨ file.mode ≠ .read ∧ ∃ n, t = file.put (data.take n) fs) ∧
        u = mix names others t
    constructor
    · rintro (rfl | ⟨writable, n, rfl⟩)
      · exact ⟨fs, Or.inl rfl, rfl⟩
      · exact ⟨_, Or.inr ⟨writable, n, rfl⟩, put_mix named _⟩
    · rintro ⟨t, rfl | ⟨writable, n, rfl⟩, rfl⟩
      · exact Or.inl rfl
      · exact Or.inr ⟨writable, n, (put_mix named _).symm⟩
  · intro fs file' fs' hrun
    change (if file.mode = .read then _ else _) = _ at hrun
    split at hrun
    · cases hrun
    · cases hrun
      rw [OnNamed, File.advance_path]
      exact named

lemma local_write (named : path ∈ names) (data : Bytes) :
    Local names (fun _ => True) (write path data : Action (FileSystem N) ε Unit) := by
  intro others
  refine commutes_bind (local_create named others) fun file hfile => ?_
  refine commutes_bind (local_writeAll hfile data others) fun _ _ => ?_
  exact commutes_pure trivial

end files

end FileFrames
