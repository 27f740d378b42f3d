import Simplenet.Spec.Client

/-! One step of the client system: a host thread's next step inside `Client::send`,
`request`, `close`, `Drop` or `next`, or a step of the backend. `Run encodes tr s` says the
run shown by `tr` reaches `s`. -/

namespace Simplenet

open ClientState

section

variable (encodes : Payload → Bool)

/-- The end of `close`; the end of `drop` also drops the client, its receiver with it. -/
def finishClose (s : ClientState) (t : Nat) (dropping : Bool) : ClientState × List Label :=
  if dropping then ({ s.setPc t .idle with dropped := true }, [.ret t .dropped])
  else (s.setPc t .idle, [.ret t .closed])

/-- A flag test stops call `c`. -/
def refuse (s : ClientState) (t : Nat) : Checked → ClientState × List Label
  | .send _ => (s.setPc t .idle, [.ret t .refused])
  | .request _ => ({ s.setPc t .idle with lockHolder := none }, [.ret t .refused])
  | .close d => finishClose s t d
  | .drop => finishClose s t true

/-- Every flag test of call `c` passed. -/
def checked (s : ClientState) (t : Nat) : Checked → ClientState × List Label
  | .send p =>
    if encodes p then (s.setPc t (.sendBinary p), []) else (s.setPc t .idle, [.ret t .refused])
  | .request p =>
    let (id, tracker) := s.pendingRequests.reserveId
    if encodes p then ({ s.setPc t (.requestBinary p id) with pendingRequests := tracker }, [])
    else ({ s.setPc t .idle with pendingRequests := tracker, lockHolder := none },
      [.ret t .refused])
  | .close d => (s.setPc t (.closeInner d), [])
  | .drop => (s.setPc t (.check (.close true) .closedBySelf), [])

def HostPc.entry : Call → HostPc
  | .send p => .check (.send p) .connected
  | .request p => .requestLock p
  | .close => .check (.close false) .closedBySelf
  | .drop => .check .drop .closed
  | .next => .idle

/-- `Client::next`: `try_recv` on the event channel. -/
def clientNext (s : ClientState) : ClientState × Option ClientEvent :=
  match s.events[s.delivered]? with
  | some e => ({ s with delivered := s.delivered + 1 }, some e)
  | none => (s, none)

def hostStep (s : ClientState) (t : Nat) : HostPc → Option (ClientState × List Label)
  | .idle => none
  | .check c f =>
    if s.loadPasses f then
      match f.next with
      | some f' => some (s.setPc t (.check c f'), [])
      | none => some (checked encodes s t c)
    else some (refuse s t c)
  | .sendBinary p =>
    if s.accepting then
      some ((s.setPc t .idle).push (.binary (.msg p)), [.frame t (.binary (.msg p)), .ret t .sent])
    else some (s.setPc t .idle, [.ret t .refused])
  | .requestLock p =>
    if s.lockHolder = none then
      some ({ s.setPc t (.check (.request p) .connected) with lockHolder := some t }, [])
    else none
  | .requestBinary p id =>
    if s.accepting then
      some ((s.setPc t (.requestAdd id s.frames.length)).push (.binary (.request p id)),
        [.frame t (.binary (.request p id))])
    else some ({ s.setPc t .idle with lockHolder := none }, [.ret t .refused])
  | .requestAdd id signal =>
    some ({ s.setPc t .idle with
        pendingRequests := s.pendingRequests.addRequest id signal, lockHolder := none },
      [.add t id, .ret t (.requested id)])
  | .closeInner d =>
    if s.accepting then
      some ((s.setPc t (.closeSend d)).push (.close closureFrame), [.frame t (.close closureFrame)])
    else some (finishClose s t d)
  | .closeSend d => some ((s.setPc t (.closeStore d)).enqueue (.report .closedBySelf), [])
  | .closeStore d => some (finishClose { s with closedBySelf := true } t d)

/-- Modelled from the spec: the tracker sweep under the mutex, then the next backend phase. -/
def sweep (s : ClientState) (next : BackendPc) : ClientState :=
  let (failures, tracker) := s.pendingRequests.failAll s.written
  { s with pendingRequests := tracker, backend := next }.enqueueAll failures

/-- Modelled from the spec: a frame from the server; an answer is reported only for a
request still pending, under the mutex. -/
def receive (s : ClientState) : ClientMetaEvent → Option ClientState
  | .msg p => some (s.enqueue (.msg p))
  | .response p id => answer s id (.response p id)
  | .ack id => answer s id (.ack id)
  | .reject id => answer s id (.reject id)
where
  answer (s : ClientState) (id : Nat) (e : ClientEvent) : Option ClientState :=
    if s.lockHolder = none then
      let (was, tracker) := s.pendingRequests.resolve id
      some (if was then { s with pendingRequests := tracker }.enqueue e else s)
    else none

/-- Modelled from the spec: the backend's steps (§4.9). -/
def backendStep (s : ClientState) : BackendAct → Option (ClientState × List Label)
  | .connect =>
    match s.backend with
    | .connecting | .reconnecting =>
      some ({ s with clientConnectedSignal := true, backend := .connected }.enqueue
        (.report .connected), [.setConnected])
    | _ => none
  | .lose =>
    if s.backend = .connected then
      some ({ s with clientConnectedSignal := false, backend := .lostCleared }, [.clearConnected])
    else none
  | .closedByServer =>
    if s.backend = .connected then
      some ({ s with clientConnectedSignal := false, backend := .dyingCleared }.enqueue
        (.report .closedByServer), [.clearConnected])
    else none
  | .die =>
    match s.backend with
    | .connecting | .connected | .reconnecting =>
      some ({ s with clientConnectedSignal := false, backend := .dyingCleared }, [.clearConnected])
    | _ => none
  | .proceed =>
    match s.backend with
    | .lostCleared => if s.lockHolder = none then some (sweep s .lostSwept, [.sweep false]) else none
    | .lostSwept => some ({ s with backend := .reconnecting }.enqueue (.report .disconnected), [])
    | .dyingCleared =>
      if s.lockHolder = none then some (sweep s .dyingSwept, [.sweep true]) else none
    | .dyingSwept => some ({ s with backend := .dyingReported }.enqueue (.report .isDead), [])
    | .dyingReported => some ({ s with clientClosedSignal := true, backend := .dyingSignalled }, [])
    | .dyingSignalled => some ({ s with accepting := false, backend := .dead }, [])
    | _ => none
  | .write k =>
    if s.backend = .connected ∧ k < s.frames.length ∧ k ∉ s.written then
      some ({ s with written := s.written ++ [k] }, [])
    else none
  | .receive m =>
    if s.backend = .connected then (receive s m).map (·, []) else none

def step (s : ClientState) : Act → Option (ClientState × List Label)
  | .invoke t .next =>
    if s.threads t = .idle ∧ s.dropped = false then
      let (s', e) := clientNext s
      some (s', [.invoke t .next, .ret t (.event e)])
    else none
  | .invoke t c =>
    if s.threads t = .idle ∧ s.dropped = false then
      some (s.setPc t (HostPc.entry c), [.invoke t c])
    else none
  | .host t => hostStep encodes s t (s.threads t)
  | .backend b => backendStep s b

/-- The runs of the client system, with what they show. -/
inductive Run : List Label → ClientState → Prop
  | nil : Run [] ClientState.init
  | snoc {tr s a s' ls} : Run tr s → step encodes s a = some (s', ls) → Run (tr ++ ls) s'

/-- A schedule of actions, run from `s`; `none` once an action is not enabled. -/
def exec : ClientState → List Act → Option (List Label × ClientState)
  | s, [] => some ([], s)
  | s, a :: as =>
    match step encodes s a with
    | some (s', ls) => (exec s' as).map fun r => (ls ++ r.1, r.2)
    | none => none

end

end Simplenet
