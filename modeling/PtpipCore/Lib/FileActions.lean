import PtpipCore.Lib.CrashActions
import PtpipCore.Lib.Text
import Mathlib.Logic.Function.Basic

/-!
# Files, and what a crash leaves of them

A file system maps names to contents. Every operation is atomic, except a write:
a crash during it leaves any prefix of its bytes. An operation that needs a file
fails if there is none; nothing else goes wrong with them.
-/

namespace FileActions

open Effects ByteStream CrashActions Text
open EStateM (Result)
open Function (update)

abbrev FileSystem (N : Type) := N → Option Bytes

/-- How a file was opened, and where the next write goes. -/
inductive OpenMode where
  | read
  | write (pos : Nat)
  | append
  deriving DecidableEq, Repr

/-- The opened file is neither renamed nor removed before its last use. -/
structure File (N : Type) where
  path : N
  mode : OpenMode
  deriving DecidableEq, Repr

variable {N ε : Type}

def pathExists (path : N) : Action (FileSystem N) ε Bool :=
  .atomic fun fs => .ok (fs path).isSome fs

variable [FromIo ε]

/-- An operation on a file that must be there. -/
def withFile {α : Type} (path : N) (op : Bytes → EStateM ε (FileSystem N) α) :
    Action (FileSystem N) ε α :=
  .atomic fun fs =>
    match fs path with
    | none => .error (FromIo.fromIo .notFound) fs
    | some contents => op contents fs

def metadataLen (path : N) : Action (FileSystem N) ε UInt64 :=
  withFile path fun contents fs => .ok (UInt64.ofNat contents.length) fs

def readToString (path : N) : Action (FileSystem N) ε (List Char) :=
  withFile path fun contents fs =>
    match decodeUtf8 contents with
    | none => .error (FromIo.fromIo .invalidData) fs
    | some cs => .ok cs fs

def openRead (path : N) : Action (FileSystem N) ε (File N) :=
  withFile path fun _ fs => .ok ⟨path, .read⟩ fs

def openAppend (path : N) : Action (FileSystem N) ε (File N) :=
  withFile path fun _ fs => .ok ⟨path, .append⟩ fs

variable [DecidableEq N]

def removeFile (path : N) : Action (FileSystem N) ε Unit :=
  withFile path fun _ fs => .ok () (update fs path none)

def rename (source target : N) : Action (FileSystem N) ε Unit :=
  withFile source fun contents fs =>
    .ok () (update (update fs source none) target (some contents))

/-- `File::create`: an existing file is truncated. -/
def create (path : N) : Action (FileSystem N) ε (File N) :=
  .atomic fun fs => .ok ⟨path, .write 0⟩ (update fs path (some []))

/-- Bytes written over contents from a position on. -/
def overwrite (contents : Bytes) (pos : Nat) (data : Bytes) : Bytes :=
  (contents ++ List.replicate (pos - contents.length) 0).take pos ++ data ++
    contents.drop (pos + data.length)

def File.contentsAfter (file : File N) (contents data : Bytes) : Bytes :=
  match file.mode with
  | .read => contents
  | .write pos => overwrite contents pos data
  | .append => contents ++ data

def File.put (file : File N) (data : Bytes) (fs : FileSystem N) : FileSystem N :=
  update fs file.path ((fs file.path).map (file.contentsAfter · data))

/-- The handle after a write of so many bytes. -/
def File.advance (file : File N) (n : Nat) : File N :=
  match file.mode with
  | .write pos => { file with mode := .write (pos + n) }
  | .read | .append => file

def File.writeAll (file : File N) (data : Bytes) : Action (FileSystem N) ε (File N) where
  run fs :=
    if file.mode = .read then .error (FromIo.fromIo .other) fs
    else .ok (file.advance data.length) (file.put data fs)
  crash fs u := u = fs ∨ file.mode ≠ .read ∧ ∃ n, u = file.put (data.take n) fs
  crash_start _ := Or.inl rfl
  crash_end fs := by
    split
    · exact Or.inl rfl
    · next writable => exact Or.inr ⟨writable, data.length, by rw [List.take_length]; rfl⟩

/-- `fs::write` -/
def write (path : N) (data : Bytes) : Action (FileSystem N) ε Unit := do
  let file ← create path
  let _ ← file.writeAll data
  return ()

section reading

omit [DecidableEq N]

variable {fs : FileSystem N} {path : N} {contents : Bytes}

omit [FromIo ε] in
lemma ensures_pathExists {post : Post (FileSystem N) ε Bool} (crashed : post.crashes fs)
    (returned : post.returns (fs path).isSome fs) : Ensures (pathExists path) fs post :=
  ensures_atomic crashed returned crashed

lemma ensures_withFile {α : Type} {op : Bytes → EStateM ε (FileSystem N) α}
    {post : Post (FileSystem N) ε α} (present : fs path = some contents)
    (start : post.crashes fs) (ends : post.ends (op contents fs))
    (crashed : post.crashes (endState (op contents fs))) :
    Ensures (withFile path op) fs post := by
  apply ensures_atomic start <;> (rw [present]; assumption)

lemma ensures_withFile_missing {α : Type} {op : Bytes → EStateM ε (FileSystem N) α}
    {post : Post (FileSystem N) ε α} (missing : fs path = none)
    (start : post.crashes fs) (failed : post.fails (FromIo.fromIo .notFound) fs) :
    Ensures (withFile path op) fs post := by
  apply ensures_atomic start <;> (rw [missing]; assumption)

lemma ensures_metadataLen {post : Post (FileSystem N) ε UInt64}
    (present : fs path = some contents) (start : post.crashes fs)
    (returned : post.returns (UInt64.ofNat contents.length) fs) :
    Ensures (metadataLen path) fs post :=
  ensures_withFile present start returned start

lemma ensures_readToString {post : Post (FileSystem N) ε (List Char)}
    (present : fs path = some contents) (start : post.crashes fs)
    (read : match decodeUtf8 contents with
      | none => post.fails (FromIo.fromIo .invalidData) fs
      | some cs => post.returns cs fs) :
    Ensures (readToString path) fs post := by
  apply ensures_withFile present start <;> (cases h : decodeUtf8 contents <;> simp_all [Post.ends])

lemma ensures_openRead {post : Post (FileSystem N) ε (File N)}
    (present : fs path = some contents) (start : post.crashes fs)
    (returned : post.returns ⟨path, .read⟩ fs) : Ensures (openRead path) fs post :=
  ensures_withFile present start returned start

lemma ensures_openAppend {post : Post (FileSystem N) ε (File N)}
    (present : fs path = some contents) (start : post.crashes fs)
    (returned : post.returns ⟨path, .append⟩ fs) : Ensures (openAppend path) fs post :=
  ensures_withFile present start returned start

/-- The next write goes behind the last of so many bytes. -/
def File.AtEnd (file : File N) (length : Nat) : Prop :=
  file.mode = .append ∨ file.mode = .write length

lemma File.AtEnd.advance {file : File N} {length : Nat} (h : file.AtEnd length) (n : Nat) :
    (file.advance n).AtEnd (length + n) := by
  rcases h with h | h
  · exact Or.inl (by simp only [File.advance, h])
  · exact Or.inr (by simp only [File.advance, h])

lemma File.advance_path (file : File N) (n : Nat) : (file.advance n).path = file.path := by
  unfold File.advance
  split <;> rfl

lemma File.advance_mode_read (file : File N) (n : Nat) :
    (file.advance n).mode = .read ↔ file.mode = .read := by
  cases h : file.mode <;> simp [File.advance, h]

end reading

section writing

variable {fs : FileSystem N} {path : N} {contents : Bytes}

lemma ensures_removeFile {post : Post (FileSystem N) ε Unit}
    (present : fs path = some contents) (start : post.crashes fs)
    (crashed : post.crashes (update fs path none))
    (returned : post.returns () (update fs path none)) : Ensures (removeFile path) fs post :=
  ensures_withFile present start returned crashed

lemma ensures_rename {source target : N} {post : Post (FileSystem N) ε Unit}
    (present : fs source = some contents) (start : post.crashes fs)
    (crashed : post.crashes (update (update fs source none) target (some contents)))
    (returned : post.returns () (update (update fs source none) target (some contents))) :
    Ensures (rename source target) fs post :=
  ensures_withFile present start returned crashed

omit [FromIo ε] in
lemma ensures_create {post : Post (FileSystem N) ε (File N)} (start : post.crashes fs)
    (crashed : post.crashes (update fs path (some [])))
    (returned : post.returns ⟨path, .write 0⟩ (update fs path (some []))) :
    Ensures (create path) fs post :=
  ensures_atomic start returned crashed

lemma File.put_atEnd {file : File N} (present : fs file.path = some contents)
    (atEnd : file.AtEnd contents.length) (data : Bytes) :
    file.put data fs = update fs file.path (some (contents ++ data)) := by
  rw [File.put, present, Option.map_some]
  have hbehind : contents.drop (contents.length + data.length) = [] :=
    List.drop_eq_nil_of_le (Nat.le_add_right _ _)
  rcases atEnd with h | h <;> simp [File.contentsAfter, h, overwrite, hbehind]

/-- A write through any handle that is not read-only. -/
lemma ensures_writeAll_put {file : File N} {data : Bytes}
    {post : Post (FileSystem N) ε (File N)} (start : post.crashes fs)
    (readOnly : file.mode = .read → post.fails (FromIo.fromIo .other) fs)
    (crashed : file.mode ≠ .read → ∀ n, post.crashes (file.put (data.take n) fs))
    (written : file.mode ≠ .read → post.returns (file.advance data.length) (file.put data fs)) :
    Ensures (file.writeAll data) fs post := by
  constructor
  · change post.ends (if file.mode = .read then _ else _)
    split
    · next unwritable => exact readOnly unwritable
    · next writable => exact written writable
  · rintro u (rfl | ⟨writable, n, rfl⟩)
    · exact start
    · exact crashed writable n

lemma ensures_writeAll {file : File N} {data : Bytes} {post : Post (FileSystem N) ε (File N)}
    (present : fs file.path = some contents) (atEnd : file.AtEnd contents.length)
    (crashed : ∀ n, post.crashes (update fs file.path (some (contents ++ data.take n))))
    (returned : post.returns (file.advance data.length)
      (update fs file.path (some (contents ++ data)))) :
    Ensures (file.writeAll data) fs post := by
  have writable : file.mode ≠ .read := by
    rcases atEnd with h | h <;> (rw [h]; intro h; cases h)
  have hstart : update fs file.path (some (contents ++ data.take 0)) = fs := by
    rw [List.take_zero, List.append_nil, ← present, Function.update_eq_self]
  refine ensures_writeAll_put (hstart ▸ crashed 0) (fun readOnly => absurd readOnly writable)
    (fun _ n => ?_) (fun _ => ?_)
  · rw [File.put_atEnd present atEnd]
    exact crashed n
  · rw [File.put_atEnd present atEnd]
    exact returned

lemma ensures_write {data : Bytes} {post : Post (FileSystem N) ε Unit}
    (start : post.crashes fs)
    (crashed : ∀ n, post.crashes (update fs path (some (data.take n))))
    (returned : post.returns () (update fs path (some data))) :
    Ensures (write path data) fs post := by
  have hwritten : ∀ bs : Bytes, update (update fs path (some [])) path (some ([] ++ bs)) =
      update fs path (some bs) := fun bs => by rw [Function.update_idem, List.nil_append]
  have hempty := crashed 0
  have hfull := crashed data.length
  rw [List.take_zero] at hempty
  rw [List.take_length] at hfull
  refine ensures_bind (ensures_create start hempty (ensures_bind ?_))
  have hcreated : update fs path (some []) path = some [] := Function.update_self _ _ _
  refine ensures_writeAll hcreated (Or.inr rfl) ?_ ?_
  · intro n
    rw [hwritten]
    exact crashed n
  · rw [hwritten]
    exact ensures_pure hfull returned

end writing

end FileActions
