import Mathlib.Data.Finset.Basic
import Mathlib.Data.Finset.Insert
import Torchat.Runtime.Contacts

namespace Torchat

open Foundation Storage

/-- `ApplicationPayloadV1`, without the version, which nothing checks. -/
inductive ApplicationPayload
  | message
      (messageId : Uuid) (sentAt : Int) (body : String)
      (replyTo : Option MessageReply)
  | deliveryReceipt (messageId : Uuid) (receivedAt : Int)
  | typing (sentAt : Int) (typing : Bool)
  | presence (sentAt : Int) (online : Bool)
  | readReceipt (messageIds : List Uuid) (readAt : Int)
  | relationshipRemoved
      (messageId : Uuid) (removedAt : Int) (preserveHistory : Bool)
      (relationshipEpoch : Option Int) (removalId : Option Uuid)
  | capabilityOffer
      (capabilityId secret : String) (sequence : Nat) (issuedAt : Int)
      (expiresAt : Option Int)
  | capabilityOfferAck (capabilityId : String) (sequence : Nat)
  | capabilityRevoked (capabilityId : String) (sequence : Nat) (revokedAt : Int)
  deriving DecidableEq

structure ContactCard where
  installationId : InstallationId
  publicKey : String
  fingerprint : String
  nickname : String

/-- A parsed invite. A key package or capability secret that is not base64 is
`none`. -/
structure ContactInvite where
  card : ContactCard
  inviteId : String
  keyPackage : Option Bytes
  expiresAt : Int
  peerEndpoint : Option PeerEndpointBundle
  peerCapability : Option (String × Option Bytes)

structure WelcomePayload where
  sender : ContactCard
  recipient : InstallationId
  inviteId : String
  welcome : Bytes
  tree : Bytes
  peerEndpoint : Option PeerEndpointBundle
  peerCapability : Option (String × Option Bytes)

inductive RelayPayload
  | pairingOffer (pairingId invite : String)
  | pairingRejected (pairingId : String)
  | welcome (payload : WelcomePayload)
  | welcomeApplied (sender : InstallationId) (inviteId : String)
  | relationshipRemovalApplied (removalId : String)
  | peerEndpointBootstrap (endpoint : PeerEndpointBundle)

structure RelayEnvelope where
  messageId : Uuid
  sender : InstallationId
  ciphertext : Bytes
  deriving DecidableEq

/-- Third-party code and codecs, as parameters: MLS, hashing, signatures,
encodings. `lineage` and `generation` say which group a conversation is and how
far its sender ratchet has run; only ghosts use them. -/
structure Primitives where
  Group : Type
  Member : Type
  installationId : InstallationId
  publicKey : String
  fingerprint : String
  snapshot : Group → Except String Bytes
  restore : Bytes → Except String Group
  encrypt : Group → Bytes → Except String (Bytes × Group)
  decrypt : Group → Bytes → Except String (Bytes × Group)
  createMember : Nat → Except String Member
  keyPackage : Member → Except String Bytes
  memberSnapshot : Member → Except String Bytes
  memberRestore : Bytes → Except String Member
  createConversation : Member → Except String Group
  invite : Group → Bytes → Except String ((Bytes × Bytes) × Group)
  acceptConversation : Member → Bytes → Bytes → Except String Group
  lineage : Group → Nat
  generation : Group → Nat
  memberLineage : Member → Nat
  encodeApplication : ApplicationPayload → Except String Bytes
  decodeApplication : Bytes → Except String ApplicationPayload
  encodeWire : Bytes → Except String Bytes
  decodeWire : Bytes → Except String Bytes
  decodeRelay : Bytes → Except String RelayPayload
  verifyRelay : RelayPayload → InstallationId → Except String Unit
  parseInvite : String → Except String ContactInvite
  encodeInvite :
    String → Option InstallationId → Bytes → Int → PeerEndpointBundle →
      Except String String
  encodeWelcome :
    InstallationId → String → Bytes × Bytes → Option PeerEndpointBundle →
      Except String Bytes
  encodeWelcomeApplied : InstallationId → String → Except String Bytes
  encodeRemovalApplied :
    InstallationId → String → Int → Int → Except String Bytes
  parseUuid : String → Except String Uuid
  encodeSecret : Bytes → String
  decodeSecret : String → Option Bytes
  sha256 : Bytes → Bytes
  pairDigest : String → String
  uuidBytes : Uuid → Bytes
  validateEndpoint : PeerEndpointBundle → Int → Except String Unit
  validateSuccessor :
    PeerEndpointBundle → PeerEndpointBundle → Int → Except String Unit

/-- Primitives for worked examples. A group is a list of marks: one `1` for each
unit of its lineage, a `2` for each encryption, a `3` for each decryption; the
ciphertext that may be decrypted next is the one whose length is the number of
decryptions so far. Nothing is hidden or checked. -/
def Primitives.plain (installationId : InstallationId) : Primitives where
  Group := Bytes
  Member := Bytes
  installationId := installationId
  publicKey := ""
  fingerprint := ""
  snapshot := .ok
  restore := .ok
  encrypt group plaintext := .ok (plaintext, group ++ [2])
  decrypt group ciphertext :=
    if ciphertext.length = group.count 3 then .ok (ciphertext, group ++ [3])
    else .error "MLS decrypt: wrong generation"
  createMember seed := .ok (List.replicate seed 1)
  keyPackage := .ok
  memberSnapshot := .ok
  memberRestore := .ok
  createConversation := .ok
  invite group _ := .ok (([], []), group)
  acceptConversation member _ _ := .ok member
  lineage group := group.count 1
  generation group := group.count 2
  memberLineage member := member.count 1
  encodeApplication _ := .ok []
  decodeApplication _ := .error "decode application payload"
  encodeWire := .ok
  decodeWire := .ok
  decodeRelay _ := .error "decode relay payload"
  verifyRelay _ _ := .ok ()
  parseInvite _ := .error "parse contact invite"
  encodeInvite inviteId _ _ _ _ := .ok inviteId
  encodeWelcome _ _ _ _ := .ok []
  encodeWelcomeApplied _ _ := .ok []
  encodeRemovalApplied _ _ _ _ := .ok []
  parseUuid _ := .ok 0
  encodeSecret _ := ""
  decodeSecret _ := some []
  sha256 := id
  pairDigest := id
  uuidBytes uuid := List.replicate 16 (UInt8.ofNat uuid.toNat)
  validateEndpoint _ _ := .ok ()
  validateSuccessor _ _ _ := .ok ()

structure IdempotencyCommitContext where
  commandId : String
  commandDescriptor : String

inductive RelayWork
  | refreshCode (context : Option IdempotencyCommitContext)
  | submitCode (pairingId : Uuid) (context : Option IdempotencyCommitContext)
  | cancelPairing (pairingId : String) (context : IdempotencyCommitContext)

/-- `ClientEngineActor`, without its logs, counters and probe tables. -/
structure Actor (P : Primitives) where
  database : Database
  conversations : Table InstallationId P.Group
  pendingWelcomes : Table String PendingWelcome
  activePeerSessions : Table InstallationId (Finset Uuid)
  cryptoBlockedPeers : Finset InstallationId
  session : RuntimeSession
  torStatus : RuntimeTorStatus
  socks5Url : Option String
  peerTransport : Bool
  localPeerEndpoint : Option PeerEndpointBundle
  expectedOnionGeneration : Nat
  networkOnline : Bool
  mlsAnchor : Bool
  relay : Option RelayWork
  host : Host

def Actor.assemble (P : Primitives) (database : Database)
    (conversations : Table InstallationId P.Group) (mlsAnchor : Bool)
    (socks5Url : Option String) (nowSecs : Int) (host : Host) : Actor P where
  database := database
  conversations := conversations
  pendingWelcomes := database.pendingWelcomes.retain fun _ welcome =>
    decide (nowSecs ≤ welcome.expiresAt)
  activePeerSessions := .empty
  cryptoBlockedPeers := database.rejectedInboundPeerSenders
  session := .new
  torStatus := ⟨.starting, "starting", "engine initialized", none, none, 0⟩
  socks5Url := socks5Url
  peerTransport := false
  localPeerEndpoint := database.localPeerEndpoint.map Prod.fst
  expectedOnionGeneration := database.localPeerEndpoint.elim 1 (·.2 + 1)
  networkOnline := true
  mlsAnchor := mlsAnchor
  relay := none
  host := host

namespace EngineError

def message : EngineError → String
  | closed message | invalidConfig message | invalidCommand message
  | unsupported message | serialization message | storage message
  | transport message => message

end EngineError

namespace Actor

abbrev Call (P : Primitives) := Program (Actor P) EngineError

def onHost (program : Program Host EngineError α) : Call P α :=
  program.zoom Actor.host fun host actor => { actor with host := host }

def onDatabase (program : Program Database RuntimeError α) : Call P α :=
  (program.mapError EngineError.ofRuntime).zoom Actor.database
    fun database actor => { actor with database := database }

def query (view : Database → α) : Call P α := do
  onHost (Host.consult .query (.storage "query failed"))
  onDatabase (Program.read view)

/-- A write of the database outside a transaction, by one statement or by a few
in a transaction of their own. -/
def write (statement : Database → RuntimeResult Database) : Call P Unit := do
  onHost (Host.consult .statement (.storage "statement failed"))
  onDatabase (Program.execute statement)

def writeReturning (statement : Database → RuntimeResult (α × Database)) :
    Call P α := do
  onHost (Host.consult .statement (.storage "statement failed"))
  onDatabase (Program.executeReturning statement)

def writeElsewhere : Call P Unit := write .ok

def nowMs : Call P Int := onHost Host.nowMs

def nowSecs : Call P Int := do
  return (← nowMs).tdiv 1000

def freshUuid : Call P Uuid := onHost Host.freshUuid

def check (result : Except String α) (error : String → EngineError) :
    Call P α :=
  Program.ofExcept (result.mapError error)

def required (found : Option α) (error : EngineError) : Call P α :=
  Program.ofExcept (found.elim (.error error) .ok)

def onConversations
    (f : Table InstallationId P.Group → Table InstallationId P.Group)
    (actor : Actor P) : Actor P :=
  { actor with conversations := f actor.conversations }

def takeConversation (contact : InstallationId) (missing : EngineError) :
    Call P P.Group := do
  let conversation ← required
    (← Program.read fun actor => actor.conversations.lookup contact) missing
  Program.modify (onConversations (·.erase contact))
  return conversation

def keepConversation (contact : InstallationId) (conversation : P.Group) :
    Call P Unit :=
  Program.modify (onConversations (·.insert contact conversation))

/-- `let _ = ...` and `if let Err(error) = ... { log }`: the error is dropped. -/
def ignoring (program : Call P α) : Call P Unit := do
  let _ ← program.attempt

def tick (actor : Actor P) : Actor P := { actor with host := actor.host.tick }

variable {actor : Actor P}

theorem consult_ok
    (ran : onHost (Host.consult site error) actor = (.ok value, next)) :
    next = actor.tick :=
  (congrArg Prod.snd ran).symm

theorem check_ok (ran : check result error actor = (.ok value, next)) :
    result = .ok value ∧ next = actor := by
  cases result with
  | ok found =>
    cases ran
    exact ⟨rfl, rfl⟩
  | error message => cases ran

theorem onDatabase_ok (ran : onDatabase program actor = (.ok value, next)) :
    ∃ database, program actor.database = (.ok value, database) ∧
      next = { actor with database := database } := by
  unfold onDatabase zoom Program.mapError at ran
  rcases run : program actor.database with ⟨_ | _ | _, database⟩
  · rw [run] at ran
    cases ran
    exact ⟨database, rfl, rfl⟩
  · rw [run] at ran
    cases ran
  · rw [run] at ran
    cases ran

theorem write_ok (ran : write statement actor = (.ok value, next)) :
    ∃ database, statement actor.database = .ok database ∧
      next = { actor.tick with database := database } := by
  obtain ⟨_, middle, asked, rest⟩ := bind_ok ran
  obtain rfl := consult_ok asked
  obtain ⟨database, done, rfl⟩ := onDatabase_ok rest
  exact ⟨database, Program.execute_eq_ok done, rfl⟩

theorem writeReturning_ok
    (ran : writeReturning statement actor = (.ok value, next)) :
    ∃ database, statement actor.database = .ok (value, database) ∧
      next = { actor.tick with database := database } := by
  obtain ⟨_, middle, asked, rest⟩ := bind_ok ran
  obtain rfl := consult_ok asked
  obtain ⟨database, done, rfl⟩ := onDatabase_ok rest
  exact ⟨database, Program.executeReturning_eq_ok done, rfl⟩

end Actor

end Torchat
