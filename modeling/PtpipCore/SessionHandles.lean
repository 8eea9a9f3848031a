import PtpipCore.CameraNames
import PtpipCore.IssuedCommands
import PtpipCore.Lib.Heaps

/-!
# Sessions for C

A C program opens a session at an address, gets a handle for it, asks about it by the handle and
closes it. The request that opens a session cannot be sent, so whatever there is at the address, no
program ever gets a handle that is not null, and all that it does with the handles changes nothing.
-/

namespace SessionHandles

open Effects ByteStream Types Transport PartialObject Responses CameraClient Sessions Heaps
open CameraNames (CStr cStrToRust)
open EStateM (Result)

/-- What a program meets at an address and a port: a stream, or no connection. -/
abbrev Peers := Bytes → UInt16 → Except ErrorKind Connection

def protocolVersion : UInt16 := 0x0100

/-- The configuration is of the program's timeout and else the default. -/
def configWith (timeout : UInt32) : SessionConfig := ⟨timeout.toNat, 3⟩

/-- A session with its configuration. -/
structure Opened where
  session : Session
  config : SessionConfig

/-- A timeout of zero cannot be set for a stream. -/
def Opened.connect (peers : Peers) (ip : Bytes) (port : UInt16) (config : SessionConfig)
    (openedAt : Nat) : Except PtpIpError Opened := do
  let stream ← (peers ip port).mapError FromIo.fromIo
  if config.timeout = 0 then
    throw (FromIo.fromIo .other)
  else
    let session ← Sessions.connect config protocolVersion openedAt stream
    return ⟨session, config⟩

/-- A session that is connected is closed when it is dropped, and it does not matter how that ends;
what is left is the stream. -/
def Opened.drop (o : Opened) : Connection :=
  if o.session.isConnected then
    endState ((generateTransactionId >>= fun transactionId =>
      sendCloseSession o.config transactionId o.session.sessionId) o.session.connection)
  else
    o.session.connection

/-- The sessions by their handles, and the streams that dropped sessions have left. -/
structure Machine where
  sessions : Heap Opened
  streams : List Connection

def Machine.sessionsPart : Part Machine (Heap Opened) where
  get m := m.sessions
  set sessions m := { m with sessions := sessions }
  set_get _ := rfl

abbrev Calls := EStateM Fault Machine

section interface

/-- The null pointer if the address is no text or no session is opened. -/
def ptpipCreateSession (alloc : Allocator Opened) (peers : Peers) (ip : CStr) (port : UInt16)
    (timeout : UInt32) (openedAt : Nat) : Calls Nat :=
  match cStrToRust ip with
  | none => return 0
  | some ipStr =>
    match Opened.connect peers ipStr port (configWith timeout) openedAt with
    | .error _ => return 0
    | .ok opened => Machine.sessionsPart.run (allocate alloc opened)

def ptpipCloseSession (sessionPtr : Nat) : Calls Unit := do
  if sessionPtr = 0 then
    return ()
  else
    let opened ← Machine.sessionsPart.run (load sessionPtr)
    Machine.sessionsPart.run (free (fun _ => true) sessionPtr)
    modify fun m => { m with streams := m.streams ++ [opened.drop] }

def ptpipIsConnected (sessionPtr : Nat) : Calls Bool := do
  if sessionPtr = 0 then
    return false
  else
    let opened ← Machine.sessionsPart.run (load sessionPtr)
    return opened.session.isConnected

def ptpipGetSessionId (sessionPtr : Nat) : Calls UInt32 := do
  if sessionPtr = 0 then
    return 0
  else
    let opened ← Machine.sessionsPart.run (load sessionPtr)
    return opened.session.sessionId

end interface

section programs

/-- A call of a program: a handle is one that it has been given before, by its number, or null. -/
inductive Call where
  | create (peers : Peers) (ip : CStr) (port : UInt16) (timeout : UInt32) (openedAt : Nat)
  | close (handle : Option Nat)
  | isConnected (handle : Option Nat)
  | getSessionId (handle : Option Nat)

inductive Answer where
  | handle (sessionPtr : Nat)
  | closed
  | connected (isConnected : Bool)
  | id (sessionId : UInt32)
  deriving DecidableEq, Repr

/-- A program, with the handles that it has been given. -/
structure Program where
  machine : Machine
  handles : List Nat

def Program.machinePart : Part Program Machine where
  get p := p.machine
  set machine p := { p with machine := machine }
  set_get _ := rfl

/-- A number that no handle has stands for null too. -/
def Program.pointer (p : Program) (handle : Option Nat) : Nat :=
  (handle.bind fun i => p.handles[i]?).getD 0

variable (alloc : Allocator Opened)

def Call.make : Call → EStateM Fault Program Answer
  | create peers ip port timeout openedAt => do
    let sessionPtr ← Program.machinePart.run
      (ptpipCreateSession alloc peers ip port timeout openedAt)
    modify fun p => { p with handles := p.handles ++ [sessionPtr] }
    return .handle sessionPtr
  | close handle => do
    Program.machinePart.run (ptpipCloseSession ((← get).pointer handle))
    return .closed
  | isConnected handle => do
    let connected ← Program.machinePart.run (ptpipIsConnected ((← get).pointer handle))
    return .connected connected
  | getSessionId handle => do
    let sessionId ← Program.machinePart.run (ptpipGetSessionId ((← get).pointer handle))
    return .id sessionId

def makeAll : List Call → EStateM Fault Program (List Answer)
  | [] => return []
  | call :: calls => do
    let answer ← call.make alloc
    let answers ← makeAll calls
    return answer :: answers

end programs

section runs

variable {alloc : Allocator Opened} {p : Program} {m : Machine}

/-- No address is one of a session. -/
lemma ptpipCreateSession_null (peers : Peers) (ip : CStr) (port : UInt16) (timeout : UInt32)
    (openedAt : Nat) : ptpipCreateSession alloc peers ip port timeout openedAt m = .ok 0 m := by
  rw [ptpipCreateSession]
  cases cStrToRust ip with
  | none => rfl
  | some ipStr =>
    have hconnect : ∃ e, Opened.connect peers ipStr port (configWith timeout) openedAt =
        .error e := by
      rw [Opened.connect]
      cases peers ipStr port with
      | error kind => exact ⟨_, rfl⟩
      | ok stream =>
        by_cases zero : (configWith timeout).timeout = 0
        · exact ⟨FromIo.fromIo .other, if_pos zero⟩
        · refine ⟨.io .unexpectedEof, (if_neg zero).trans ?_⟩
          rw [IssuedCommands.connect_fails]
          rfl
    obtain ⟨e, hconnect⟩ := hconnect
    dsimp only
    rw [hconnect]
    rfl

/-- What a call comes to for a program without a session. -/
def Call.refusal : Call → Answer
  | create _ _ _ _ _ => .handle 0
  | close _ => .closed
  | isConnected _ => .connected false
  | getSessionId _ => .id 0

/-- All handles that the program has are null. -/
def Empty (p : Program) : Prop := ∀ handle ∈ p.handles, handle = 0

lemma Empty.pointer (empty : Empty p) (handle : Option Nat) : p.pointer handle = 0 := by
  rw [Program.pointer]
  cases handle with
  | none => rfl
  | some i =>
    rw [Option.bind_some]
    cases hget : p.handles[i]? with
    | none => rfl
    | some sessionPtr => exact empty sessionPtr (List.mem_of_getElem? hget)

lemma Empty.make (empty : Empty p) (alloc : Allocator Opened) (call : Call) :
    ∃ handles, call.make alloc p = .ok call.refusal { p with handles := handles } ∧
      Empty { p with handles := handles } := by
  cases call with
  | create peers ip port timeout openedAt =>
    refine ⟨p.handles ++ [0], ?_, ?_⟩
    · rw [Call.make, bind_ok (Program.machinePart.run_ok (ptpipCreateSession_null _ _ _ _ _))]
      rfl
    · exact List.forall_mem_append.mpr ⟨empty, List.forall_mem_singleton.mpr rfl⟩
  | close handle =>
    refine ⟨p.handles, ?_, empty⟩
    have hget : (get : EStateM Fault Program Program) p = .ok p p := rfl
    rw [Call.make, bind_ok hget, empty.pointer handle]
    rfl
  | isConnected handle =>
    refine ⟨p.handles, ?_, empty⟩
    have hget : (get : EStateM Fault Program Program) p = .ok p p := rfl
    rw [Call.make, bind_ok hget, empty.pointer handle]
    rfl
  | getSessionId handle =>
    refine ⟨p.handles, ?_, empty⟩
    have hget : (get : EStateM Fault Program Program) p = .ok p p := rfl
    rw [Call.make, bind_ok hget, empty.pointer handle]
    rfl

lemma Empty.makeAll (empty : Empty p) (calls : List Call) :
    ∃ handles, makeAll alloc calls p =
        .ok (calls.map Call.refusal) { p with handles := handles } ∧
      Empty { p with handles := handles } := by
  induction calls generalizing p with
  | nil => exact ⟨p.handles, rfl, empty⟩
  | cons call calls ih =>
    obtain ⟨handles, hcall, after⟩ := empty.make alloc call
    obtain ⟨handles', hcalls, final⟩ := ih after
    refine ⟨handles', ?_, final⟩
    rw [SessionHandles.makeAll, bind_ok hcall, bind_ok hcalls]
    rfl

/-- Whatever a C program calls in whatever order, and whatever it meets at the addresses: it gets no
handle but null, is told of no session, and changes nothing. -/
theorem no_session_handles (alloc : Allocator Opened) (calls : List Call) (m : Machine) :
    ∃ handles, makeAll alloc calls ⟨m, []⟩ = .ok (calls.map Call.refusal) ⟨m, handles⟩ ∧
      ∀ handle ∈ handles, handle = 0 := by
  have start : Empty ⟨m, []⟩ := fun handle hmem => absurd hmem List.not_mem_nil
  exact start.makeAll calls

end runs

end SessionHandles
