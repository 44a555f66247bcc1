import Torchat.Core.PeerProtocol
import Torchat.Foundation.Machine
import Torchat.Foundation.Table

namespace Torchat.Peer

open Foundation Torchat.Core

def maxPeerFrameBytes : Nat := 256 * 1024

def maxPreauthFrameBytes : Nat := 8 * 1024

/-- The frames of the handshake. The handshake refuses every frame of an
authenticated session, whatever it carries. -/
inductive PeerFrame
  | clientHello (hello : PeerClientHello)
  | serverChallenge (challenge : PeerServerChallenge)
  | clientProof (proof : PeerClientProof)
  | handshakeAccepted (sessionId : Uuid)
  | ping
  | pong
  | session

/-- What `serde_json` reads from a frame's bytes. -/
abbrev FromSlice := Bytes → Except String PeerFrame

inductive Message
  | binary (value : Bytes)
  | text
  | close
  | ping
  | pong

/-- What waiting for the next message of a websocket ends with. -/
inductive Received
  | message (message : Message)
  | ended
  | failed (error : String)
  | timedOut

section Wire

variable (fromSlice : FromSlice)

def decodeFrame (bytes : Bytes) (authenticated : Bool) :
    Except String PeerFrame := do
  let limit := if authenticated then maxPeerFrameBytes else maxPreauthFrameBytes
  refuseIf (bytes.length > limit) "peer frame exceeds size limit"
  (fromSlice bytes).mapError fun error => "decode peer frame: " ++ error

def decodeMessage (message : Message) (authenticated : Bool) :
    Except String (Option PeerFrame) :=
  match message with
  | .binary value => (decodeFrame fromSlice value authenticated).map some
  | .close => .ok none
  | .ping => .ok (some .ping)
  | .pong => .ok (some .pong)
  | .text => .error "peer protocol requires binary websocket frames"

def recvFrameWithTimeout (received : Received) (authenticated : Bool)
    (operation : String) : Except String PeerFrame :=
  match received with
  | .timedOut => .error (operation ++ " timed out")
  | .ended => .error "peer websocket closed"
  | .failed error => .error ("read peer websocket: " ++ error)
  | .message message => do
      let frame ← decodeMessage fromSlice message authenticated
      required frame "peer websocket closed"

end Wire

/-! The dialer, `connect_outbound` after the websocket is open. -/

structure PeerOutboundCommand where
  endpoint : PeerEndpointBundle
  capabilityId : String
  capabilitySecret : Bytes
  peerPublicKey : String
  localEndpoint : PeerEndpointBundle

section Dialer

variable (crypto : Crypto) (fromSlice : FromSlice)

def clientHello (identity : crypto.SigningKey) (command : PeerOutboundCommand)
    (nonce : Key32) : Except String PeerClientHello := do
  refuseIf (command.capabilityId.utf8ByteSize ≠ 16)
    "peer capability id is unavailable"
  refuseIf (command.capabilitySecret.length < 16)
    "peer capability secret is unavailable"
  let hello : PeerClientHello :=
    { protocolVersion := protocolVersion
      installationId := installationId crypto identity
      endpointSequence := command.localEndpoint.sequence
      capabilityId := command.capabilityId
      capabilityProof := ""
      nonce := nonce }
  return {
    hello with
    capabilityProof :=
      if command.capabilitySecret ≠ [] then
        capabilityProof crypto command.capabilitySecret hello
      else
        "" }

def dialerTranscript (command : PeerOutboundCommand) (hello : PeerClientHello)
    (challenge : PeerServerChallenge) : Bytes :=
  handshakeTranscript hello challenge.installationId challenge.endpointSequence
    challenge.nonce challenge.sessionId command.endpoint.onionAddress

/-- The challenge a dialer goes on with, and signs the transcript of. -/
def checkChallenge (command : PeerOutboundCommand) (hello : PeerClientHello)
    (received : Received) : Except String PeerServerChallenge := do
  match ← recvFrameWithTimeout fromSlice received false
    "peer server challenge" with
  | .serverChallenge challenge =>
    refuseIf
      (challenge.installationId ≠ command.endpoint.installationId ∨
        challenge.endpointSequence ≠ command.endpoint.sequence)
      "peer server identity or endpoint sequence mismatch"
    refuseIf
      (¬ verifySignature crypto command.peerPublicKey
        (dialerTranscript command hello challenge) challenge.signature)
      "peer server challenge signature is invalid"
    return challenge
  | _ => .error "expected peer server challenge"

def checkAcceptance (challenge : PeerServerChallenge) (received : Received) :
    Except String Uuid := do
  match ← recvFrameWithTimeout fromSlice received false
    "peer handshake acceptance" with
  | .handshakeAccepted sessionId =>
    refuseIf (sessionId ≠ challenge.sessionId)
      "peer handshake session mismatch"
    return sessionId
  | _ => .error "expected peer handshake acceptance"

end Dialer

/-! The listener, `authenticate_inbound`. -/

structure AuthorizedPeer where
  publicKey : String
  endpoint : PeerEndpointBundle
  localEndpoint : PeerEndpointBundle
  inboundCapabilityId : String
  capabilitySecret : Bytes
  deriving DecidableEq

/-- What the listener holds between its challenge and the client's proof. -/
structure Challenged where
  hello : PeerClientHello
  authorized : AuthorizedPeer
  challenge : PeerServerChallenge
  deriving DecidableEq

section Listener

variable (crypto : Crypto) (fromSlice : FromSlice)

def listenerTranscript (identity : crypto.SigningKey) (hello : PeerClientHello)
    (authorized : AuthorizedPeer) (serverNonce : Key32) (sessionId : Uuid) :
    Bytes :=
  handshakeTranscript hello (installationId crypto identity)
    authorized.localEndpoint.sequence serverNonce sessionId
    authorized.localEndpoint.onionAddress

def checkHello (identity : crypto.SigningKey)
    (authorized : String → Option AuthorizedPeer) (serverNonce : Key32)
    (sessionId : Uuid) (received : Received) : Except String Challenged := do
  match ← recvFrameWithTimeout fromSlice received false "peer client hello" with
  | .clientHello hello =>
    refuseIf (hello.protocolVersion ≠ protocolVersion)
      "unsupported peer protocol"
    let authorized ← required (authorized hello.installationId)
      "peer is not an authorized contact"
    refuseIf (hello.endpointSequence < authorized.endpoint.sequence)
      "peer endpoint sequence is stale"
    refuseIf
      (hello.capabilityId = "" ∨
        hello.capabilityId ≠ authorized.inboundCapabilityId)
      "peer capability is not authorized"
    refuseIf
      (authorized.capabilitySecret = [] ∨
        ¬ verifyCapabilityProof crypto authorized.capabilitySecret hello)
      "peer capability proof is invalid"
    return {
      hello, authorized
      challenge := {
        protocolVersion := protocolVersion
        installationId := installationId crypto identity
        endpointSequence := authorized.localEndpoint.sequence
        nonce := serverNonce
        sessionId := sessionId
        signature := sign crypto identity
          (listenerTranscript crypto identity hello authorized serverNonce
            sessionId) } }
  | _ => .error "expected peer client hello"

def Challenged.transcript
    (challenged : Challenged) (identity : crypto.SigningKey) : Bytes :=
  listenerTranscript crypto identity challenged.hello challenged.authorized
    challenged.challenge.nonce challenged.challenge.sessionId

def checkProof (identity : crypto.SigningKey) (challenged : Challenged)
    (received : Received) : Except String Uuid := do
  match ← recvFrameWithTimeout fromSlice received false "peer client proof" with
  | .clientProof proof =>
    refuseIf
      (proof.sessionId ≠ challenged.challenge.sessionId ∨
        ¬ verifySignature crypto challenged.authorized.publicKey
          (challenged.transcript crypto identity) proof.signature)
      "peer client proof is invalid"
    return challenged.challenge.sessionId
  | _ => .error "expected peer client proof"

end Listener

/-! Any number of handshakes of any number of clients, over a network that
delivers what it likes. -/

structure Dialer (crypto : Crypto) where
  identity : crypto.SigningKey
  command : PeerOutboundCommand
  hello : PeerClientHello
  answered : Option PeerServerChallenge
  outcome : Option (Except String Uuid)

def Dialer.transcript {crypto : Crypto} (dialer : Dialer crypto)
    (challenge : PeerServerChallenge) : Bytes :=
  dialerTranscript dialer.command dialer.hello challenge

structure Listener (crypto : Crypto) where
  identity : crypto.SigningKey
  challenged : Option Challenged
  outcome : Option (Except String Uuid)

/-- `elsewhere` holds what clients sign with the same keys outside of
handshakes. -/
structure Network (crypto : Crypto) where
  dialers : Table Nat (Dialer crypto)
  listeners : Table Nat (Listener crypto)
  elsewhere : List (crypto.SigningKey × Bytes)

/-- A label carries what was received, the random draws, the table of authorized
peers at that moment and whether writing to the websocket succeeds. -/
inductive Event (crypto : Crypto)
  | dial
      (place : Nat) (identity : crypto.SigningKey)
      (command : PeerOutboundCommand) (nonce : Key32) (sent : Except String Unit)
  | dialerReceives
      (place : Nat) (received : Received) (sent : Except String Unit)
  | listen (place : Nat) (identity : crypto.SigningKey)
  | listenerReceives
      (place : Nat) (received : Received)
      (authorized : String → Option AuthorizedPeer) (serverNonce : Key32)
      (sessionId : Uuid) (sent : Except String Unit)
  | signsElsewhere (identity : crypto.SigningKey) (message : Bytes)

def sending (sent : Except String Unit) : Option (Except String Uuid) :=
  match sent with
  | .ok () => none
  | .error error => some (.error ("write peer websocket: " ++ error))

section Step

variable (fromSlice : FromSlice)

def Dialer.receive (dialer : Dialer crypto) (received : Received)
    (sent : Except String Unit) : Dialer crypto :=
  match dialer.outcome, dialer.answered with
  | some _, _ => dialer
  | none, none =>
    match checkChallenge crypto fromSlice dialer.command dialer.hello
      received with
    | .error error => { dialer with outcome := some (.error error) }
    | .ok challenge =>
      { dialer with answered := some challenge, outcome := sending sent }
  | none, some challenge =>
    { dialer with outcome := some (checkAcceptance fromSlice challenge received) }

def Listener.receive (listener : Listener crypto) (received : Received)
    (authorized : String → Option AuthorizedPeer) (serverNonce : Key32)
    (sessionId : Uuid) (sent : Except String Unit) : Listener crypto :=
  match listener.outcome, listener.challenged with
  | some _, _ => listener
  | none, none =>
    match checkHello crypto fromSlice listener.identity authorized serverNonce
      sessionId received with
    | .error error => { listener with outcome := some (.error error) }
    | .ok challenged =>
      { listener with
        challenged := some challenged, outcome := sending sent }
  | none, some challenged =>
    match checkProof crypto fromSlice listener.identity challenged received with
    | .error error => { listener with outcome := some (.error error) }
    | .ok sessionId =>
      { listener with outcome := (sending sent).or (some (.ok sessionId)) }

def Network.next (network : Network crypto) : Event crypto → Network crypto
  | .dial place identity command nonce sent =>
    match clientHello crypto identity command nonce with
    | .error _ => network
    | .ok hello =>
      { network with
        dialers := network.dialers.insert place {
          identity, command, hello
          answered := none
          outcome := sending sent } }
  | .dialerReceives place received sent =>
    { network with
      dialers := network.dialers.modify place
        fun dialer => dialer.receive fromSlice received sent }
  | .listen place identity =>
    { network with
      listeners := network.listeners.insert place {
        identity
        challenged := none
        outcome := none } }
  | .listenerReceives place received authorized serverNonce sessionId sent =>
    { network with
      listeners := network.listeners.modify place fun listener =>
        listener.receive fromSlice received authorized serverNonce sessionId
          sent }
  | .signsElsewhere identity message =>
    { network with elsewhere := (identity, message) :: network.elsewhere }

end Step

end Torchat.Peer
