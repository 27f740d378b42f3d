import Simplenet.Spec.Server

/-! The server system: upgrade requests through `websocket_handler` against the counter as it
stands, interleaved with the steps of the worker (`ConnectionHandler`, modelled from the spec),
the end of the worker and of the runner, and the host's calls. `ServerMove` lists the moves of
`serverStep`, one per branch. -/

namespace Simplenet

/-- An upgraded socket: its connection, the client id of its auth request, and its connect
message. -/
structure Connection where
  id : Nat
  clientId : Nat
  connectMsg : Payload
  deriving DecidableEq, Repr

/-- `ServerEvent`: what `Server::next` reports of sessions. -/
inductive ServerEvent
  | connected (sessionId : Nat) (connectMsg : Payload)
  | disconnected (sessionId : Nat)
  deriving DecidableEq, Repr

structure ServerState where
  server : Server
  connectionCounter : Nat
  /-- Sockets upgraded and handed to the worker, not yet installed. -/
  upgraded : List Connection
  /-- Installed sessions, not yet terminated. -/
  live : List Connection
  nextConnection : Nat
  events : List ServerEvent
  deriving DecidableEq, Repr

namespace ServerState

def init : ServerState where
  server := ⟨false, false, true, [], []⟩
  connectionCounter := 0
  upgraded := []
  live := []
  nextConnection := 0
  events := []

/-- `Server::num_connections`. -/
def numConnections (s : ServerState) : Nat := s.connectionCounter

end ServerState

/-- A host call on the server. -/
inductive ServerCall
  | send (id : Nat) (msg : Payload)
  | respond (token : RequestToken) (response : Payload)
  | ack (token : RequestToken)
  | reject (token : RequestToken)
  | closeSession (id : Nat) (closeFrame : CloseFrame)
  deriving DecidableEq, Repr

def ServerCall.run (s : Server) : ServerCall → Server
  | .send id msg => (s.send id msg).2
  | .respond token response => (s.respond token response).2
  | .ack token => (s.ack token).2
  | .reject token => s.reject token
  | .closeSession id closeFrame => (s.closeSession id closeFrame).2

inductive ServerAct
  | upgradeRequest (request : UpgradeRequest)
  | onConnect
  | onDisconnect (i : Nat)
  | workerStop
  | closedDone
  | runnerStop
  | call (c : ServerCall)
  deriving DecidableEq, Repr

section

variable (protocolVersion : String) (authenticator : Authenticator) (config : ServerConfig)

/-- Modelled from the spec: a session's termination decrements the counter, in its one
place, and reports `Disconnected` (§4.7). -/
def onDisconnect (s : ServerState) (i : Nat) : Option ServerState :=
  match s.live[i]? with
  | some conn =>
    some { s with
      connectionCounter := s.connectionCounter - 1, live := s.live.eraseIdx i,
      events := s.events ++ [.disconnected conn.clientId] }
  | none => none

/-- Modelled from the spec: the worker's registry keeps one session per client id, closing
the one already registered before it installs another (§4.8, §9); the close is taken to end
that session at once, as `onDisconnect` does. -/
def closePrior (s : ServerState) (id : Nat) : ServerState :=
  match s.live.findIdx? (·.clientId == id) with
  | some i => (onDisconnect s i).getD s
  | none => s

/-- Modelled from the spec: `ConnectionHandler::on_connect` closes the session registered
under the oldest upgraded socket's client id, then installs the socket only while the counter
is below the cap, incrementing the counter just before (§4.3, §4.8); over the cap it closes
the socket and reports nothing (§7). -/
def onConnect (s : ServerState) : Option ServerState :=
  match s.upgraded with
  | [] => none
  | conn :: rest =>
    let s := closePrior s conn.clientId
    if s.connectionCounter < config.maxConnections then
      some { s with
        upgraded := rest, connectionCounter := s.connectionCounter + 1, live := s.live ++ [conn],
        events := s.events ++ [.connected conn.clientId conn.connectMsg] }
    else some { s with upgraded := rest }

/-- One step of the server. The runner serves upgrade requests until it stops; the worker
takes sockets and terminations until it stops, and `server_closed_signal` completes only
after that. -/
def serverStep (s : ServerState) : ServerAct → Option ServerState
  | .upgradeRequest request =>
    if s.server.serverRunningSignal then none
    else match websocketHandler s.connectionCounter
        (newPrevalidator protocolVersion authenticator config) request with
      | .upgrade _ =>
        some { s with
          upgraded := s.upgraded ++ [⟨s.nextConnection, request.a.clientId, request.c⟩],
          nextConnection := s.nextConnection + 1 }
      | .reject _ => some s
  | .onConnect => if s.server.workerOpen then onConnect config s else none
  | .onDisconnect i => if s.server.workerOpen then onDisconnect s i else none
  | .workerStop =>
    if s.server.workerOpen then some { s with server := { s.server with workerOpen := false } }
    else none
  | .closedDone =>
    if s.server.workerOpen then none
    else some { s with server := { s.server with serverClosedSignal := true } }
  | .runnerStop => some { s with server := { s.server with serverRunningSignal := true } }
  | .call c => some { s with server := c.run s.server }

/-- The reachable states of a server built with this version, authenticator and config. -/
inductive ServerRun : ServerState → Prop
  | init : ServerRun ServerState.init
  | step {s a s'} : ServerRun s → serverStep protocolVersion authenticator config s a = some s' →
      ServerRun s'

/-- A schedule of server actions, run from `s`; `none` once an action is not enabled. -/
def serverExec : ServerState → List ServerAct → Option ServerState
  | s, [] => some s
  | s, a :: as =>
    match serverStep protocolVersion authenticator config s a with
    | some s' => serverExec s' as
    | none => none

end

theorem ServerRun.of_exec {protocolVersion : String} {authenticator : Authenticator}
    {config : ServerConfig} {as : List ServerAct} :
    ∀ {s s' : ServerState}, ServerRun protocolVersion authenticator config s →
      serverExec protocolVersion authenticator config s as = some s' →
      ServerRun protocolVersion authenticator config s' := by
  induction as with
  | nil => intro s s' hr h; cases h; exact hr
  | cons a as ih =>
    intro s s' hr h
    simp only [serverExec] at h
    split at h
    · exact ih (ServerRun.step hr ‹_›) h
    · cases h

/-- The server's moves, one per branch of `serverStep`. -/
inductive ServerMove (protocolVersion : String) (authenticator : Authenticator)
    (config : ServerConfig) (s : ServerState) : ServerState → Prop
  | upgrade {request : UpgradeRequest} {socket : SocketConfig}
      (hr : s.server.serverRunningSignal = false)
      (hh : websocketHandler s.connectionCounter
        (newPrevalidator protocolVersion authenticator config) request = .upgrade socket) :
    ServerMove protocolVersion authenticator config s
      { s with
        upgraded := s.upgraded ++ [⟨s.nextConnection, request.a.clientId, request.c⟩],
        nextConnection := s.nextConnection + 1 }
  | reject {request : UpgradeRequest} {err : Rejection} (hr : s.server.serverRunningSignal = false)
      (hh : websocketHandler s.connectionCounter
        (newPrevalidator protocolVersion authenticator config) request = .reject err) :
    ServerMove protocolVersion authenticator config s s
  | install {conn : Connection} {rest : List Connection} (hw : s.server.workerOpen = true)
      (hu : s.upgraded = conn :: rest)
      (hc : (closePrior s conn.clientId).connectionCounter < config.maxConnections) :
    ServerMove protocolVersion authenticator config s
      { closePrior s conn.clientId with
        upgraded := rest, connectionCounter := (closePrior s conn.clientId).connectionCounter + 1,
        live := (closePrior s conn.clientId).live ++ [conn],
        events :=
          (closePrior s conn.clientId).events ++ [.connected conn.clientId conn.connectMsg] }
  | overCap {conn : Connection} {rest : List Connection} (hw : s.server.workerOpen = true)
      (hu : s.upgraded = conn :: rest)
      (hc : ¬(closePrior s conn.clientId).connectionCounter < config.maxConnections) :
    ServerMove protocolVersion authenticator config s
      { closePrior s conn.clientId with upgraded := rest }
  | terminate {i : Nat} {conn : Connection} (hw : s.server.workerOpen = true)
      (hi : s.live[i]? = some conn) :
    ServerMove protocolVersion authenticator config s
      { s with
        connectionCounter := s.connectionCounter - 1, live := s.live.eraseIdx i,
        events := s.events ++ [.disconnected conn.clientId] }
  | workerStop (hw : s.server.workerOpen = true) :
    ServerMove protocolVersion authenticator config s
      { s with server := { s.server with workerOpen := false } }
  | closedDone (hw : s.server.workerOpen = false) :
    ServerMove protocolVersion authenticator config s
      { s with server := { s.server with serverClosedSignal := true } }
  | runnerStop :
    ServerMove protocolVersion authenticator config s
      { s with server := { s.server with serverRunningSignal := true } }
  | call (c : ServerCall) :
    ServerMove protocolVersion authenticator config s { s with server := c.run s.server }

section Move

variable {protocolVersion : String} {authenticator : Authenticator} {config : ServerConfig}
  {s s' : ServerState} {a : ServerAct}

theorem serverStep_move (h : serverStep protocolVersion authenticator config s a = some s') :
    ServerMove protocolVersion authenticator config s s' := by
  cases a with
  | upgradeRequest request =>
    simp only [serverStep] at h
    split at h
    · cases h
    · rename_i hr
      split at h <;> cases h
      · exact .upgrade (by simpa using hr) ‹_›
      · exact .reject (by simpa using hr) ‹_›
  | onConnect =>
    simp only [serverStep, onConnect] at h
    split at h
    · rename_i hw
      split at h
      · cases h
      · rename_i hu
        split at h <;> cases h
        · exact .install hw hu ‹_›
        · exact .overCap hw hu ‹_›
    · cases h
  | onDisconnect i =>
    simp only [serverStep, onDisconnect] at h
    split at h
    · rename_i hw
      split at h
      · cases h; exact .terminate hw ‹_›
      · cases h
    · cases h
  | workerStop =>
    simp only [serverStep] at h
    split at h
    · cases h; exact .workerStop ‹_›
    · cases h
  | closedDone =>
    simp only [serverStep] at h
    split at h
    · cases h
    · rename_i hw
      cases h; exact .closedDone (by simpa using hw)
  | runnerStop => cases h; exact .runnerStop
  | call c => cases h; exact .call c

theorem ServerMove.serverStep (h : ServerMove protocolVersion authenticator config s s') :
    ∃ a, Simplenet.serverStep protocolVersion authenticator config s a = some s' := by
  cases h with
  | @upgrade request _ hr hh | @reject request _ hr hh =>
    exact ⟨.upgradeRequest request, by simp [Simplenet.serverStep, hr, hh]⟩
  | install hw hu hc | overCap hw hu hc =>
    exact ⟨.onConnect, by simp [Simplenet.serverStep, onConnect, hw, hu, hc]⟩
  | @terminate i _ hw hi =>
    exact ⟨.onDisconnect i, by simp [Simplenet.serverStep, onDisconnect, hw, hi]⟩
  | workerStop hw => exact ⟨.workerStop, by simp [Simplenet.serverStep, hw]⟩
  | closedDone hw => exact ⟨.closedDone, by simp [Simplenet.serverStep, hw]⟩
  | runnerStop => exact ⟨.runnerStop, rfl⟩
  | call c => exact ⟨.call c, rfl⟩

end Move

end Simplenet
