import Simplenet.Spec.Client

/-! The server of `src/server/server.rs`: `websocket_handler`, and the host API of `Server`,
whose calls test `is_dead` and forward one command each to the worker. The prevalidator and
`RequestToken`, whose drop sends its `Reject` straight to the session, are modelled from the
spec. -/

namespace Simplenet

/-- `AuthRequest` (§6). -/
inductive AuthRequest
  | none (clientId : Nat)
  | token (clientId : Nat) (token : List UInt8)
  | secret (clientId : Nat) (secret : List UInt8)
  deriving DecidableEq, Repr

def AuthRequest.clientId : AuthRequest → Nat
  | .none id | .token id _ | .secret id _ => id

inductive EnvType
  | native
  | wasm
  deriving DecidableEq, Repr

/-- Modelled from the spec: the `t` query parameter, `native` or `wasm` (§6). -/
def EnvType.parse : String → Option EnvType
  | "native" => some .native
  | "wasm" => some .wasm
  | _ => none

/-- Modelled from the spec: the authenticator is a predicate over the auth request (§6). -/
structure Authenticator where
  authenticate : AuthRequest → Bool

/-- The fields of `ServerConfig` that the modelled code reads; durations in milliseconds. -/
structure ServerConfig where
  maxConnections : Nat
  heartbeatInterval : Nat
  keepaliveTimeout : Nat
  deriving DecidableEq, Repr

structure ConnectionPrevalidator where
  protocolVersion : String
  authenticator : Authenticator
  maxConnections : Nat
  heartbeatInterval : Nat
  keepaliveTimeout : Nat

/-- The prevalidator of `ServerFactory::new_server`: the factory's protocol version, and the
same `config` the connection handler gets. -/
def newPrevalidator (protocolVersion : String) (authenticator : Authenticator)
    (config : ServerConfig) : ConnectionPrevalidator where
  protocolVersion := protocolVersion
  authenticator := authenticator
  maxConnections := config.maxConnections
  heartbeatInterval := config.heartbeatInterval
  keepaliveTimeout := config.keepaliveTimeout

/-- The query of an upgrade request (`v`, `t`, `a`, `c`, §6), with `a` decoded. -/
structure UpgradeRequest where
  v : String
  t : String
  a : AuthRequest
  c : Payload
  deriving DecidableEq, Repr

inductive Rejection
  | badRequest
  | serviceUnavailable
  | unauthorized
  deriving DecidableEq, Repr

def Rejection.status : Rejection → Nat
  | .badRequest => 400
  | .serviceUnavailable => 503
  | .unauthorized => 401

/-- Modelled from the spec: `prevalidate_connection_request` (§4.4) is not in the sources.
It tests the version, the environment, the connection count it was given, and the auth
request, in that order. -/
def prevalidateConnectionRequest (request : UpgradeRequest) (count : Nat)
    (preval : ConnectionPrevalidator) : Except Rejection EnvType :=
  if request.v ≠ preval.protocolVersion then .error .badRequest
  else match EnvType.parse request.t with
    | none => .error .badRequest
    | some env =>
      if preval.maxConnections ≤ count then .error .serviceUnavailable
      else if !preval.authenticator.authenticate request.a then .error .unauthorized
      else .ok env

/-- `heartbeat_ping_msg_fn`: the websocket library's default, or `text_ping_fn`. -/
inductive PingMsgFn
  | default
  | textPing
  deriving DecidableEq, Repr

/-- `ezsockets::SocketConfig`. -/
structure SocketConfig where
  heartbeat : Nat
  timeout : Nat
  heartbeatPingMsgFn : PingMsgFn
  deriving DecidableEq, Repr

def socketConfig (prevalidator : ConnectionPrevalidator) : EnvType → SocketConfig
  | .native =>
    { heartbeat := prevalidator.heartbeatInterval, timeout := prevalidator.keepaliveTimeout,
      heartbeatPingMsgFn := .default }
  | .wasm =>
    { heartbeat := prevalidator.heartbeatInterval, timeout := prevalidator.keepaliveTimeout,
      heartbeatPingMsgFn := .textPing }

/-- What `websocket_handler` answers: the upgrade, with its socket configuration, or the
rejection. -/
inductive HandlerResponse
  | upgrade (config : SocketConfig)
  | reject (err : Rejection)
  deriving DecidableEq, Repr

def websocketHandler (count : Nat) (preval : ConnectionPrevalidator)
    (request : UpgradeRequest) : HandlerResponse :=
  match prevalidateConnectionRequest request count preval with
  | .ok clientEnvType => .upgrade (socketConfig preval clientEnvType)
  | .error err => .reject err

/-- A token's death signal: whether its destination session has terminated. -/
abbrev DeathSignal := Bool

/-- `SessionCommand`: what the host asks the worker to do with a session. -/
inductive SessionCommand
  | send (frame : ClientMetaEvent) (deathSignal : Option DeathSignal)
  | close (frame : CloseFrame)
  deriving DecidableEq, Repr

structure SessionTargetMsg where
  id : Nat
  msg : SessionCommand
  deriving DecidableEq, Repr

/-- Modelled from the spec: `RequestToken` (§4.6) is not in the sources. Its death signal is
read when the token is used. -/
structure RequestToken where
  clientId : Nat
  requestId : Nat
  deathSignal : DeathSignal
  deriving DecidableEq, Repr

namespace RequestToken

def destinationIsDead (token : RequestToken) : Bool := token.deathSignal

/-- `take` consumes the token, so that its drop no longer rejects. -/
def take (token : RequestToken) : Nat × DeathSignal := (token.requestId, token.deathSignal)

/-- The `Reject` a token's drop sends to its destination. -/
def rejectMsg (token : RequestToken) : SessionTargetMsg :=
  ⟨token.clientId, .send (.reject token.requestId) none⟩

end RequestToken

/-- The host's handle on the server: the two signals behind `is_dead`, whether the worker
still takes commands, the commands forwarded to it, and the `Reject`s that dropped tokens
sent straight to their sessions. -/
structure Server where
  serverClosedSignal : Bool
  serverRunningSignal : Bool
  workerOpen : Bool
  commands : List SessionTargetMsg
  tokenRejects : List SessionTargetMsg
  deriving DecidableEq, Repr

namespace Server

def isDead (s : Server) : Bool := s.serverClosedSignal || s.serverRunningSignal

/-- `client_event_sender.send`, which fails once the worker has stopped. -/
def forward (s : Server) (m : SessionTargetMsg) : Option Server :=
  if s.workerOpen then some { s with commands := s.commands ++ [m] } else none

/-- `send` and `close_session`: test `is_dead`, then forward one command. -/
def command (s : Server) (m : SessionTargetMsg) : Except Unit Unit × Server :=
  if s.isDead then (.error (), s)
  else match s.forward m with
    | some s' => (.ok (), s')
    | none => (.error (), s)

def send (s : Server) (id : Nat) (msg : Payload) : Except Unit Unit × Server :=
  s.command ⟨id, .send (.msg msg) none⟩

def closeSession (s : Server) (id : Nat) (closeFrame : CloseFrame) : Except Unit Unit × Server :=
  s.command ⟨id, .close closeFrame⟩

/-- Modelled from the spec: dropping a token that was not taken sends its `Reject` straight to
its session unless the destination is dead (§4.6, §8.3), not through the worker. -/
def dropToken (s : Server) (token : RequestToken) : Server :=
  if token.destinationIsDead then s
  else { s with tokenRejects := s.tokenRejects ++ [token.rejectMsg] }

/-- `respond` and `ack`: test `is_dead`, then the token's destination, then take the token
and forward its answer. The token is dropped on the two early returns. -/
def answer (s : Server) (token : RequestToken) (frame : Nat → ClientMetaEvent) :
    Except Unit Unit × Server :=
  if s.isDead then (.error (), s.dropToken token)
  else if token.destinationIsDead then (.ok (), s.dropToken token)
  else
    let (requestId, deathSignal) := token.take
    match s.forward ⟨token.clientId, .send (frame requestId) (some deathSignal)⟩ with
    | some s' => (.ok (), s')
    | none => (.error (), s)

def respond (s : Server) (token : RequestToken) (response : Payload) : Except Unit Unit × Server :=
  s.answer token (.response response)

def ack (s : Server) (token : RequestToken) : Except Unit Unit × Server :=
  s.answer token .ack

/-- `reject` drops the token. -/
def reject (s : Server) (token : RequestToken) : Server := s.dropToken token

end Server

end Simplenet
