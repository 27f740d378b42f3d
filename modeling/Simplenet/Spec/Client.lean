import Mathlib.Logic.Function.Basic

/-! The client of `src/client/client.rs`: its shared flags, the pending-request tracker
behind its mutex, and its event channel. Each host call is a sequence of steps, one per flag
load or call into the websocket client. -/

namespace Simplenet

/-- Application payloads, opaque to the library (the codec is external). -/
abbrev Payload := List UInt8

inductive ClientReport
  | connected
  | disconnected
  | closedBySelf
  | closedByServer
  | isDead
  deriving DecidableEq, Repr

/-- `ClientEvent`: what `Client::next` hands the host. -/
inductive ClientEvent
  | report (r : ClientReport)
  | msg (p : Payload)
  | response (p : Payload) (requestId : Nat)
  | ack (requestId : Nat)
  | reject (requestId : Nat)
  | sendFailed (requestId : Nat)
  | responseLost (requestId : Nat)
  deriving DecidableEq, Repr

/-- `ClientMetaEventFrom`: a frame from the server. -/
inductive ClientMetaEvent
  | msg (p : Payload)
  | response (p : Payload) (requestId : Nat)
  | ack (requestId : Nat)
  | reject (requestId : Nat)
  deriving DecidableEq, Repr

/-- `ServerMetaEventFrom`: a frame to the server. -/
inductive ServerMetaEvent
  | msg (p : Payload)
  | request (p : Payload) (requestId : Nat)
  deriving DecidableEq, Repr

inductive CloseCode
  | normal
  deriving DecidableEq, Repr

/-- `ezsockets::CloseFrame`. -/
structure CloseFrame where
  code : CloseCode
  reason : String
  deriving DecidableEq, Repr

/-- A message accepted by the websocket client (`ezsockets::Client::binary` and `close`). -/
inductive Outgoing
  | binary (m : ServerMetaEvent)
  | close (frame : CloseFrame)
  deriving DecidableEq, Repr

/-- The close frame of `Client::close`. -/
def closureFrame : CloseFrame := { code := .normal, reason := "client done" }

/-- Modelled from the spec: `PendingRequestTracker` (§4.5) is not in the sources. Ids are
allocated from 1; each pending entry keeps its request id and the signal of its frame (the
frame's index among the frames the websocket client accepted). Resolved and failed entries
leave the tracker. -/
structure PendingRequestTracker where
  requestCounter : Nat
  pending : List (Nat × Nat)
  deriving DecidableEq, Repr

namespace PendingRequestTracker

def reserveId (t : PendingRequestTracker) : Nat × PendingRequestTracker :=
  (t.requestCounter + 1, { t with requestCounter := t.requestCounter + 1 })

def addRequest (t : PendingRequestTracker) (id signal : Nat) : PendingRequestTracker :=
  { t with pending := t.pending ++ [(id, signal)] }

/-- Whether `id` was pending, and the tracker without it. -/
def resolve (t : PendingRequestTracker) (id : Nat) : Bool × PendingRequestTracker :=
  (t.pending.any (·.1 == id), { t with pending := t.pending.filter (·.1 != id) })

/-- Every pending entry fails: `ResponseLost` once its frame was written, `SendFailed`
before. -/
def failAll (t : PendingRequestTracker) (written : List Nat) :
    List ClientEvent × PendingRequestTracker :=
  (t.pending.map fun e => if e.2 ∈ written then .responseLost e.1 else .sendFailed e.1,
   { t with pending := [] })

end PendingRequestTracker

/-- A host call on the shared `Client`. -/
inductive Call
  | send (p : Payload)
  | request (p : Payload)
  | close
  | drop
  | next
  deriving DecidableEq, Repr

/-- The flags behind `is_connected`, `is_closed` and `is_dead`, in the order they are loaded. -/
inductive Flag
  | connected
  | closedBySelf
  | closed
  deriving DecidableEq, Repr

def Flag.next : Flag → Option Flag
  | .connected => some .closedBySelf
  | .closedBySelf => some .closed
  | .closed => none

/-- The call whose flag test a thread is running: `close` is also run by `drop`. -/
inductive Checked
  | send (p : Payload)
  | request (p : Payload)
  | close (dropping : Bool)
  | drop
  deriving DecidableEq, Repr

/-- Where a host thread is inside its call. -/
inductive HostPc
  | idle
  | check (c : Checked) (f : Flag)
  | sendBinary (p : Payload)
  | requestLock (p : Payload)
  | requestBinary (p : Payload) (id : Nat)
  | requestAdd (id signal : Nat)
  | closeInner (dropping : Bool)
  | closeSend (dropping : Bool)
  | closeStore (dropping : Bool)
  deriving DecidableEq, Repr

/-- Modelled from the spec: the backend (`ClientHandler` and the websocket driver, §4.9) is
not in the sources. Leaving `connected` clears the connected flag first; a lost socket then
fails the pending requests under the mutex and reports `Disconnected`; death does the same
sweep, reports `IsDead`, sets `client_closed_signal`, and only then stops taking host
messages. -/
inductive BackendPc
  | connecting
  | connected
  | reconnecting
  | lostCleared
  | lostSwept
  | dyingCleared
  | dyingSwept
  | dyingReported
  | dyingSignalled
  | dead
  deriving DecidableEq, Repr

inductive BackendAct
  | connect
  | lose
  | closedByServer
  | die
  | proceed
  | write (frame : Nat)
  | receive (m : ClientMetaEvent)
  deriving DecidableEq, Repr

inductive Act
  | invoke (t : Nat) (c : Call)
  | host (t : Nat)
  | backend (b : BackendAct)
  deriving DecidableEq, Repr

/-- What a host call returned. -/
inductive Ret
  | sent
  | requested (id : Nat)
  | refused
  | closed
  | dropped
  | event (e : Option ClientEvent)
  deriving DecidableEq, Repr

/-- What a run shows: calls and returns, frames handed to the websocket client, tracker
entries added, and the backend's flag and tracker operations. -/
inductive Label
  | invoke (t : Nat) (c : Call)
  | ret (t : Nat) (r : Ret)
  | frame (t : Nat) (o : Outgoing)
  | add (t id : Nat)
  | setConnected
  | clearConnected
  | sweep (final : Bool)
  deriving DecidableEq, Repr

structure ClientState where
  clientConnectedSignal : Bool
  clientClosedSignal : Bool
  closedBySelf : Bool
  pendingRequests : PendingRequestTracker
  lockHolder : Option Nat
  /-- Everything enqueued on the client event channel, and how much `next` has taken. -/
  events : List ClientEvent
  delivered : Nat
  /-- What the websocket client accepted, and which of those frames it has written. -/
  frames : List Outgoing
  written : List Nat
  /-- The websocket client still takes host messages. -/
  accepting : Bool
  backend : BackendPc
  threads : Nat → HostPc
  dropped : Bool

namespace ClientState

def init : ClientState where
  clientConnectedSignal := false
  clientClosedSignal := false
  closedBySelf := false
  pendingRequests := ⟨0, []⟩
  lockHolder := none
  events := []
  delivered := 0
  frames := []
  written := []
  accepting := true
  backend := .connecting
  threads := fun _ => .idle
  dropped := false

def isDead (s : ClientState) : Bool := s.clientClosedSignal

def isClosed (s : ClientState) : Bool := s.closedBySelf || s.isDead

def isConnected (s : ClientState) : Bool := s.clientConnectedSignal && !s.isClosed

/-- Whether loading `f` lets the call go on. -/
def loadPasses (s : ClientState) : Flag → Bool
  | .connected => s.clientConnectedSignal
  | .closedBySelf => !s.closedBySelf
  | .closed => !s.clientClosedSignal

def setPc (s : ClientState) (t : Nat) (pc : HostPc) : ClientState :=
  { s with threads := Function.update s.threads t pc }

/-- Sends on the event channel; they are lost once the client, and its receiver, are gone. -/
def enqueueAll (s : ClientState) (es : List ClientEvent) : ClientState :=
  { s with events := if s.dropped then s.events else s.events ++ es }

def enqueue (s : ClientState) (e : ClientEvent) : ClientState := s.enqueueAll [e]

@[simp] theorem prefix_enqueueAll_events (s : ClientState) (es : List ClientEvent) :
    s.events <+: (if s.dropped = true then s.events else s.events ++ es) := by
  split <;> simp

def push (s : ClientState) (o : Outgoing) : ClientState := { s with frames := s.frames ++ [o] }

end ClientState

end Simplenet
