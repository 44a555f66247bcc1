import Torchat.Foundation.Machine
import Torchat.Foundation.Table
import Torchat.Relay.Protocol

namespace Torchat.Relay

open Foundation

def slotTtl : Nat := 120

def bridgeTtl : Nat := 180

def maxConnections : Nat := 2000

def maxSlots : Nat := 1000

def maxSlotsPerConnection : Nat := 2

def maxPairingsPerConnection : Nat := 2

def maxCodeAttempts : Nat := 5

def pairingCodeDigits : Nat := 8

abbrev ConnectionId := Uuid

/-- Eight decimal digits, as `generate_code` draws them. -/
structure PairingCode where
  digits : Vector (Fin 10) pairingCodeDigits

namespace PairingCode

def characters (code : PairingCode) : List Char :=
  code.digits.toList.map fun digit => Char.ofNat ('0'.toNat + digit.val)

def text (code : PairingCode) : String := String.ofList code.characters

end PairingCode

def formatPairingCode (code : PairingCode) : String :=
  String.ofList (code.characters.take 4 ++ ' ' :: code.characters.drop 4)

def isAsciiWhitespace (character : Char) : Bool :=
  character = ' ' || character = '\t' || character = '\n' ||
    character = '\x0c' || character = '\r'

def normalizePairingCode (value : String) : Option String :=
  let normalized := value.toList.filter fun character =>
    !isAsciiWhitespace character
  if (normalized.map Char.utf8Size).sum = pairingCodeDigits ∧
      normalized.all Char.isDigit then
    some (String.ofList normalized)
  else
    none

structure Connection where
  slots : Nat
  pairings : Nat
  attempts : List Int

abbrev Connections := Table ConnectionId Connection

structure Slot (Digest : Type) where
  owner : ConnectionId
  handle : String
  capabilityHash : Digest
  codeHash : Digest
  rendezvousPublicKey : Key32
  expiresAt : Int

structure Bridge (Digest : Type) where
  owner : ConnectionId
  joiner : ConnectionId
  ownerTokenHash : Digest
  joinerTokenHash : Digest
  slotHash : Digest
  expiresAt : Int

structure Metrics where
  activeConnections : Nat := 0
  activePairingSlots : Nat := 0
  activePairingBridges : Nat := 0
  rejectedFrames : Nat := 0
  expiredSlots : Nat := 0

/-- The actor's tables. `sent` records, oldest first, every frame handed to
`try_send` of a connected client. -/
structure State (Digest : Type) where
  connections : Connections
  slots : Table Digest (Slot Digest)
  bridges : Table Uuid (Bridge Digest)
  metrics : Metrics
  sent : List (ConnectionId × RendezvousServerFrame)

def State.empty {Digest : Type} : State Digest where
  connections := .empty
  slots := .empty
  bridges := .empty
  metrics := {}
  sent := []

inductive Command
  | connected (id : ConnectionId)
  | disconnected (id : ConnectionId)
  | frame (id : ConnectionId) (frame : RendezvousClientFrame)

/-- What one command reads from outside the actor: the successive results of
`unix_now`, `random_token` and `generate_code`. -/
structure Chance where
  clock : Nat → Int
  tokens : Nat → String
  codes : List PairingCode

/-- Why a command does not run to its end: a map access or an `unwrap` panics,
or the draws listed so far contain no unused code and the loop goes on. -/
inductive Halt
  | panicked
  | drawing

def send (relay : State Digest) (id : ConnectionId)
    (frame : RendezvousServerFrame) : State Digest :=
  if relay.connections.contains id then
    { relay with sent := relay.sent ++ [(id, frame)] }
  else
    relay

def reject (relay : State Digest) (id : ConnectionId) (requestId : Option Uuid)
    (code : String) : State Digest :=
  send
    { relay with
      metrics :=
        { relay.metrics with
          rejectedFrames := relay.metrics.rejectedFrames + 1 } }
    id (.error requestId code)

def syncMetrics (relay : State Digest) : State Digest :=
  { relay with
    metrics :=
      { relay.metrics with
        activeConnections := relay.connections.size
        activePairingSlots := relay.slots.size
        activePairingBridges := relay.bridges.size } }

def chargePairing
    (connections : Connections) (id : ConnectionId) : Connections :=
  connections.modify id fun connection =>
    { connection with pairings := connection.pairings + 1 }

/-! The counters are lowered with `saturating_sub`. -/

def releasePairing
    (connections : Connections) (id : ConnectionId) : Connections :=
  connections.modify id fun connection =>
    { connection with pairings := connection.pairings - 1 }

def releaseSlot (connections : Connections) (id : ConnectionId) : Connections :=
  connections.modify id fun connection =>
    { connection with slots := connection.slots - 1 }

def releaseBridges (connections : Connections)
    (bridges : List (Bridge Digest)) : Connections :=
  bridges.foldl
    (fun connections bridge =>
      releasePairing (releasePairing connections bridge.owner) bridge.joiner)
    connections

def dropBridges (relay : State Digest)
    (selected : Uuid → Bridge Digest → Bool) : State Digest :=
  { relay with
    connections :=
      releaseBridges relay.connections (relay.bridges.retain selected).values
    bridges := relay.bridges.retain fun id bridge => !selected id bridge }

def expireState (relay : State Digest) (now : Int) : State Digest :=
  let expiredSlots := relay.slots.count fun _ slot => slot.expiresAt ≤ now
  let relay :=
    { relay with slots := relay.slots.retain fun _ slot => slot.expiresAt > now }
  let relay := dropBridges relay fun _ bridge => bridge.expiresAt ≤ now
  { relay with
    metrics :=
      { relay.metrics with
        expiredSlots := relay.metrics.expiredSlots + expiredSlots } }

variable [DecidableEq Digest] (hash : String → Digest)

def authorize (bridge : Option (Bridge Digest)) (id : ConnectionId)
    (token : String) (owner : Bool) : Bool :=
  bridge.any fun b =>
    (owner && b.owner = id && b.ownerTokenHash = hash token) ||
      (!owner && b.joiner = id && b.joinerTokenHash = hash token)

def authorizeEither (bridge : Option (Bridge Digest)) (id : ConnectionId)
    (token : String) : Bool :=
  authorize hash bridge id token true || authorize hash bridge id token false

def finishPairing (relay : State Digest) (id : Uuid)
    (frame : RendezvousServerFrame) : State Digest :=
  match relay.bridges.lookup id with
  | none => relay
  | some bridge =>
    let relay :=
      { relay with
        bridges := relay.bridges.erase id
        connections :=
          releasePairing (releasePairing relay.connections bridge.owner)
            bridge.joiner }
    let relay := send (send relay bridge.owner frame) bridge.joiner frame
    match relay.slots.lookup bridge.slotHash with
    | none => relay
    | some slot =>
      { relay with
        slots := relay.slots.erase bridge.slotHash
        connections := releaseSlot relay.connections slot.owner }

def createPairingSlot
    (chance : Chance) (relay : State Digest) (id : ConnectionId)
    (connection : Connection) (requestId : Uuid) (rendezvousPublicKey : Key32)
    (requestedTtlSeconds : UInt16) : Except Halt (State Digest) :=
  if connection.slots ≥ maxSlotsPerConnection ∨ relay.slots.size ≥ maxSlots then
    .ok (reject relay id (some requestId) "capacity")
  else
    let ttl := max 10 (min requestedTtlSeconds.toNat slotTtl)
    let unused := fun (candidate : PairingCode) =>
      !relay.slots.values.any fun slot => slot.codeHash = hash candidate.text
    match chance.codes.find? unused with
    | none => .error .drawing
    | some code =>
      let handle := chance.tokens 0
      let capability := chance.tokens 1
      let relay :=
        { relay with
          slots := relay.slots.insert (hash handle)
            { owner := id
              handle := handle
              capabilityHash := hash capability
              codeHash := hash code.text
              rendezvousPublicKey := rendezvousPublicKey
              expiresAt := chance.clock 0 + ttl }
          connections := relay.connections.modify id fun connection =>
            { connection with slots := connection.slots + 1 } }
      .ok (send relay id
        (.pairingSlotCreated requestId handle (formatPairingCode code)
          capability (chance.clock 1 + ttl)))

def resolvePairingCode (chance : Chance) (relay : State Digest)
    (id : ConnectionId) (connection : Connection) (requestId : Uuid)
    (displayCode : String) : State Digest :=
  let now := chance.clock 0
  let recent := connection.attempts.filter fun attempt => attempt + 60 > now
  let withAttempts := fun (attempts : List Int) =>
    { relay with
      connections := relay.connections.modify id fun connection =>
        { connection with attempts := attempts } }
  if recent.length ≥ maxCodeAttempts then
    reject (withAttempts recent) id (some requestId) "rate_limited"
  else
    let relay := withAttempts (recent ++ [now])
    match normalizePairingCode displayCode with
    | none => reject relay id (some requestId) "invalid_code"
    | some code =>
      let live := fun (slot : Slot Digest) =>
        slot.codeHash = hash code ∧ slot.expiresAt > now
      match relay.slots.values.find? fun slot => live slot with
      | none => reject relay id (some requestId) "invalid_code"
      | some slot =>
        send relay id
          (.pairingSlotResolved requestId slot.handle
            slot.rendezvousPublicKey slot.expiresAt)

/-- Move a slot's request to a bridge: the slot is consumed, and both parties
are charged one pairing. -/
def openBridge (chance : Chance) (relay : State Digest) (id : ConnectionId)
    (slotHash : Digest) (slot : Slot Digest) (requestId pairingId : Uuid)
    (joinerRendezvousPublicKey : Key32) (encryptedOffer : Bytes) :
    State Digest :=
  let ownerToken := chance.tokens 0
  let joinerToken := chance.tokens 1
  let relay :=
    { relay with
      slots := relay.slots.erase slotHash
      bridges := relay.bridges.insert pairingId
        { owner := slot.owner
          joiner := id
          ownerTokenHash := hash ownerToken
          joinerTokenHash := hash joinerToken
          slotHash := slotHash
          expiresAt := chance.clock 1 + bridgeTtl }
      connections :=
        chargePairing
          (chargePairing (releaseSlot relay.connections slot.owner) id)
          slot.owner }
  let relay := send relay slot.owner
    (.pairingRequested pairingId slot.handle ownerToken
      joinerRendezvousPublicKey encryptedOffer (chance.clock 2 + bridgeTtl))
  send relay id
    (.pairingStarted requestId pairingId joinerToken
      (chance.clock 3 + bridgeTtl))

def beginPairing (chance : Chance) (relay : State Digest) (id : ConnectionId)
    (connection : Connection) (requestId pairingId : Uuid) (slotHandle : String)
    (joinerRendezvousPublicKey : Key32) (encryptedOffer : Bytes) :
    Except Halt (State Digest) :=
  let refuse := fun code => .ok (reject relay id (some requestId) code)
  if encryptedOffer.length > maxPairingBlobBytes then
    refuse "blob_too_large"
  else
    match relay.slots.lookup (hash slotHandle) with
    | none => refuse "invalid_slot"
    | some slot =>
      if slot.expiresAt ≤ chance.clock 0 ∨ slot.owner = id then
        refuse "invalid_slot"
      else if relay.bridges.contains pairingId then
        refuse "duplicate_pairing"
      else if connection.pairings ≥ maxPairingsPerConnection then
        refuse "capacity"
      else
        match relay.connections.lookup slot.owner with
        | none => .error .panicked
        | some owner =>
          if owner.pairings ≥ maxPairingsPerConnection then
            refuse "capacity"
          else
            .ok (openBridge hash chance relay id (hash slotHandle) slot
              requestId pairingId joinerRendezvousPublicKey encryptedOffer)

def acceptPairing (relay : State Digest) (id : ConnectionId) (pairingId : Uuid)
    (sideToken : String) (encryptedResponse : Bytes) : State Digest :=
  match relay.bridges.lookup pairingId with
  | none => relay
  | some bridge =>
    if bridge.owner = id ∧ bridge.ownerTokenHash = hash sideToken ∧
        encryptedResponse.length ≤ maxPairingBlobBytes then
      send relay bridge.joiner (.pairingAccepted pairingId encryptedResponse)
    else
      relay

def cancelPairingSlot (relay : State Digest) (id : ConnectionId)
    (slotHandle slotCapability : String) : State Digest :=
  match relay.slots.lookup (hash slotHandle) with
  | none => relay
  | some slot =>
    if slot.owner = id ∧ slot.capabilityHash = hash slotCapability then
      { relay with
        slots := relay.slots.erase (hash slotHandle)
        connections := releaseSlot relay.connections id }
    else
      relay

def processFrame (chance : Chance) (relay : State Digest) (id : ConnectionId)
    (frame : RendezvousClientFrame) : Except Halt (State Digest) :=
  match relay.connections.lookup id with
  | none => .ok relay
  | some connection =>
    let finishWhen := fun (authorized : Bool) (pairingId : Uuid)
        (frame : RendezvousServerFrame) =>
      if authorized then .ok (finishPairing relay pairingId frame)
      else .ok relay
    match frame with
    | .ping => .ok (send relay id .pong)
    | .createPairingSlot requestId key ttl =>
      createPairingSlot hash chance relay id connection requestId key ttl
    | .resolvePairingCode requestId displayCode =>
      .ok (resolvePairingCode hash chance relay id connection requestId
        displayCode)
    | .beginPairing requestId pairingId slotHandle key offer =>
      beginPairing hash chance relay id connection requestId pairingId
        slotHandle key offer
    | .acceptPairing pairingId sideToken response =>
      .ok (acceptPairing hash relay id pairingId sideToken response)
    | .rejectPairing pairingId sideToken =>
      finishWhen
        (authorizeEither hash (relay.bridges.lookup pairingId) id sideToken)
        pairingId (.pairingRejected pairingId)
    | .pairingCommitted pairingId sideToken =>
      finishWhen
        (authorize hash (relay.bridges.lookup pairingId) id sideToken false)
        pairingId (.pairingFinalized pairingId)
    | .pairingFinalized pairingId sideToken =>
      finishWhen
        (authorize hash (relay.bridges.lookup pairingId) id sideToken true)
        pairingId (.pairingFinalized pairingId)
    | .cancelPairing pairingId sideToken =>
      finishWhen
        (authorizeEither hash (relay.bridges.lookup pairingId) id sideToken)
        pairingId (.pairingCancelled pairingId)
    | .cancelPairingSlot slotHandle slotCapability =>
      .ok (cancelPairingSlot hash relay id slotHandle slotCapability)

def connect (relay : State Digest) (id : ConnectionId) : State Digest :=
  if relay.connections.size < maxConnections then
    { relay with
      connections := relay.connections.insert id
        { slots := 0, pairings := 0, attempts := [] } }
  else
    relay

def disconnect (relay : State Digest) (id : ConnectionId) : State Digest :=
  dropBridges
    { relay with
      connections := relay.connections.erase id
      slots := relay.slots.retain fun _ slot => slot.owner ≠ id }
    fun _ bridge => bridge.owner = id ∨ bridge.joiner = id

def handleCommand (chance : Chance) (relay : State Digest) (command : Command) :
    Except Halt (State Digest) :=
  match command with
  | .connected id => .ok (syncMetrics (connect relay id))
  | .disconnected id => .ok (syncMetrics (disconnect relay id))
  | .frame id frame => syncMetrics <$> processFrame hash chance relay id frame

inductive Input
  | command (chance : Chance) (command : Command)
  | tick (now : Int)

def step (relay : State Digest) : Input → Except Halt (State Digest)
  | .command chance command => handleCommand hash chance relay command
  | .tick now => .ok (syncMetrics (expireState relay now))

/-- The identifiers a command brings along are new: a connecting client has an
unused id, and the handle drawn for a slot has the digest of no live slot. -/
def Fresh (relay : State Digest) : Input → Prop
  | .command _ (.connected id) => relay.connections.lookup id = none
  | .command chance (.frame _ (.createPairingSlot ..)) =>
    relay.slots.lookup (hash (chance.tokens 0)) = none
  | _ => True

def actor : Machine (State Digest) Input where
  init := .empty
  enabled relay input :=
    Fresh hash relay input ∧ ∃ relay', step hash relay input = .ok relay'
  next relay input :=
    match step hash relay input with
    | .ok relay' => relay'
    | .error _ => relay

end Torchat.Relay
