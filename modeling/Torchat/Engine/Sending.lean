import Torchat.Engine.Outbound

namespace Torchat

open Foundation Storage

namespace Runtime

def sendNewMessage (P : Primitives) (contact : InstallationId)
    (conversation : P.Group) (context : IdempotencyCommitContext)
    (conversationId : InstallationId) (body : String)
    (replyToMessageId : Option Uuid) (nowMs nextAttemptAt : Int) :
    Call (MessageSendEffect × Sealed × P.Group) := do
  let effect ← featureQueueMessageDelivery context.commandId
    context.commandDescriptor conversationId body replyToMessageId nowMs
  let stored ← match ← query (·.message effect.messageId) with
    | some stored => Program.pure stored
    | none => Program.fail (.storage
        "new outgoing message is missing from the active transaction")
  let plaintext ← Program.ofExcept ((P.encodeApplication (.message
    effect.messageId stored.createdAt effect.body effect.replyTo)).mapError
    .storage)
  let (ciphertext, advanced) ← Program.ofExcept
    ((P.encrypt conversation plaintext).mapError .storage)
  let origin : Origin :=
    ⟨contact, P.lineage conversation, P.generation conversation, plaintext⟩
  Program.modify fun runtime =>
    { runtime with
      host := runtime.host.recordEncryption origin
        runtime.database.ghost.exposed }
  let payload ← Program.ofExcept ((P.encodeWire ciphertext).mapError .storage)
  let snapshot ← Program.ofExcept ((P.snapshot advanced).mapError .storage)
  write (Database.persistOutboundEncryption effect.messageId ⟨payload, origin⟩
    effect.conversationId snapshot)
  let claimed ← writeReturning (Database.claimOutgoingAttempt effect.messageId
    nextAttemptAt (some (nowMs + 60000)) none nowMs)
  if !claimed then
    Program.fail
      (.storage "new outgoing message could not be claimed for delivery")
  return (effect, ⟨payload, origin⟩, advanced)

end Runtime

inductive SendEffect
  | message (effect : MessageSendEffect)
  | pairing (effect : PairingSendEffect)
  | receipt (effect : Database.ReceiptSendEffect)

namespace Actor

def applyMessageDeliveryOutcomeWithError
    (messageId : Uuid) (outcome : MessageTransportOutcome)
    (errorDetail : Option String) (retryAt : Option Int) : Call P Unit := do
  let now ← nowMs
  transact (Runtime.featureApplyMessageDeliveryOutcome messageId outcome retryAt
    errorDetail now)

def deliveryAttempts (messageId : Uuid) : Call P (Option OutboundDelivery) :=
  query (·.outboundDeliveries.lookup messageId)

def outcomeRetryAt (messageId : Uuid) (outcome : MessageTransportOutcome) :
    Call P (Option Int) := do
  match outcome with
  | .peerUnavailable | .retryableFailure =>
    let delivery ← deliveryAttempts messageId
    return some (← retryAt (delivery.elim 0 OutboundDelivery.attemptCount))
  | _ => return none

def applyMessageDeliveryOutcome
    (messageId : Uuid) (outcome : MessageTransportOutcome) : Call P Unit := do
  applyMessageDeliveryOutcomeWithError messageId outcome none
    (← outcomeRetryAt messageId outcome)

def handleFailedPeerMessageDelivery (messageId : Uuid) (error : String) :
    Call P Unit := do
  let delivery ← deliveryAttempts messageId
  let attempt := delivery.elim 0 OutboundDelivery.attemptCount
  let now ← nowMs
  let old := delivery.any fun row =>
    RetryPolicy.delivery.ageExhausted (row.createdAt * 1000) now
  let terminal := classifyRetryError error = .permanent ||
    classifyRetryError error = .protocol ||
    RetryPolicy.delivery.exhausted attempt || old
  if terminal then
    applyMessageDeliveryOutcomeWithError messageId .permanentFailure (some error)
      none
  else
    applyMessageDeliveryOutcomeWithError messageId .peerUnavailable (some error)
      (some (← retryAt attempt))

def handleFailedPeerReceiptDelivery (messageId : Uuid) (error : String) :
    Call P Unit := do
  let receipt ← query (·.deliveryReceipts.lookup messageId)
  let attempt := receipt.elim 0 DeliveryReceipt.attemptCount
  let now ← nowMs
  let old := receipt.any fun row =>
    RetryPolicy.delivery.ageExhausted (row.createdAt * 1000) now
  let retryAt ←
    if RetryPolicy.delivery.exhausted attempt || old then
      -- `i64::MAX`
      Program.pure (2 ^ 63 - 1)
    else
      retryAt attempt
  write (Database.requeueDeliveryReceipt messageId retryAt error)

/-! ## Encryption

The four send paths take the conversation out of memory, encrypt, store the
ciphertext with the advanced snapshot, and put the conversation back: the
advanced one, or after an error the one restored from the snapshot taken
before. They differ in how they store. -/

def encryptPayload (contact : InstallationId) (conversation : P.Group)
    (application : ApplicationPayload)
    (persist : Sealed → Bytes → Call P Unit) : Call P (Sealed × P.Group) := do
  let plaintext ← check (P.encodeApplication application) .invalidCommand
  let (ciphertext, advanced) ←
    check (P.encrypt conversation plaintext) .invalidCommand
  let origin : Origin :=
    ⟨contact, P.lineage conversation, P.generation conversation, plaintext⟩
  Program.modify fun actor =>
    { actor with
      host := actor.host.recordEncryption origin actor.database.ghost.exposed }
  let payload ← check (P.encodeWire ciphertext) .invalidCommand
  let snapshot ← check (P.snapshot advanced) .storage
  persist ⟨payload, origin⟩ snapshot
  return (⟨payload, origin⟩, advanced)

def encryptKeeping (contact : InstallationId) (missing : EngineError)
    (restoreFailed : String → EngineError) (application : ApplicationPayload)
    (persist : Sealed → Bytes → Call P Unit) :
    Call P (EngineResult (Sealed × Bytes)) := do
  let conversation ← takeConversation contact missing
  let before ← check (P.snapshot conversation) .storage
  match ← (encryptPayload contact conversation application persist).attempt with
  | .ok (payload, advanced) =>
    keepConversation contact advanced
    return .ok (payload, before)
  | .error error =>
    let restored ← check (P.restore before) restoreFailed
    keepConversation contact restored
    return .error error

def claimOrFail (statement : Int → Database → RuntimeResult (Bool × Database))
    (refused : String) : Call P Unit := do
  let now ← nowMs
  if !(← writeReturning (statement now)) then Program.fail (.storage refused)

def prepareOutboundMessagePayload (effect : MessageSendEffect) :
    Call P Sealed := do
  let stored ← required (← query (·.messages.lookup effect.messageId))
    (.storage "runtime message is missing from engine store")
  let nextAttemptAt ← retryAt stored.message.attemptCount
  let ackDeadline := some ((← nowMs) + 60000)
  match stored.wireCiphertext with
  | some existing =>
    claimOrFail (Database.claimOutgoingAttempt effect.messageId nextAttemptAt
      ackDeadline none) "outgoing message could not be claimed for retry"
    return existing
  | none =>
    let encrypted ← encryptKeeping effect.recipientInstallationId
      (.invalidCommand "contact requires MLS welcome before sending")
      (fun error => .storage
        ("restore MLS conversation after retry rollback: " ++ error))
      (.message effect.messageId stored.message.createdAt effect.body
        effect.replyTo)
      fun payload snapshot => claimOrFail
        (Database.persistOutboundEncryptionAndClaim effect.messageId payload
          effect.conversationId snapshot nextAttemptAt ackDeadline)
        "outgoing message could not be claimed after encryption"
    return (← Program.ofExcept encrypted).1

def dispatchOutboundMessage (effect : MessageSendEffect) (payload : Sealed) :
    Call P Unit := do
  match ← (queuePeerPayload effect.messageId effect.recipientInstallationId
      (.ofSealed payload) (.message effect.messageId)).attempt with
  | .ok () => return
  | .error error => handleFailedPeerMessageDelivery effect.messageId error.message

def sendMessageCommand (idempotency : Option IdempotencyCommitContext)
    (conversationId : InstallationId) (body : String)
    (replyToMessageId : Option Uuid) : Call P Unit := do
  let context ← required idempotency
    (.invalidCommand "send message requires a durable operation id")
  let summary ← required (← query (·.conversation conversationId))
    (.invalidCommand "conversation does not exist")
  let contact := summary.contactInstallationId
  let conversation ← takeConversation contact
    (.invalidCommand "contact requires MLS welcome before sending")
  let before ← check (P.snapshot conversation) .storage
  let now ← nowMs
  let nextAttemptAt := now + (← retryBackoffMs 0)
  match ← (withRuntimeIdempotent (some context)
      (Runtime.sendNewMessage P contact conversation context conversationId body
        replyToMessageId now nextAttemptAt)
      fun sent => .ok sent.1.messageId.text).attempt with
  | .error error =>
    let restored ← check (P.restore before) fun error => .storage
      ("restore MLS conversation after send rollback: " ++ error)
    keepConversation contact restored
    Program.fail error
  | .ok ((effect, payload, advanced), _) =>
    keepConversation contact advanced
    dispatchOutboundMessage effect payload

def encryptReceipt (effect : Database.ReceiptSendEffect) : Call P Sealed := do
  let stored ← required (← query (·.deliveryReceipts.lookup effect.messageId))
    (.storage "delivery receipt is missing")
  let inFlightUntil := (← nowMs) + 60000
  match stored.wireCiphertext with
  | some existing =>
    claimOrFail (Database.claimReceiptAttempt effect.messageId inFlightUntil
      none) "delivery receipt could not be claimed for retry"
    return existing
  | none =>
    let encrypted ← encryptKeeping effect.recipientInstallationId
      (.invalidCommand "receipt recipient has no MLS conversation")
      (fun error => .storage
        ("restore MLS conversation after receipt rollback: " ++ error))
      (.deliveryReceipt effect.messageId effect.receivedAt)
      fun payload snapshot => claimOrFail
        (Database.persistReceiptEncryption effect.messageId payload
          effect.conversationId snapshot inFlightUntil none)
        "delivery receipt could not be claimed for encryption"
    return (← Program.ofExcept encrypted).1

def dispatchOutboundReceipt
    (effect : Database.ReceiptSendEffect) (payload : Sealed) : Call P Unit := do
  match ← (queuePeerPayload effect.envelopeId effect.recipientInstallationId
      (.ofSealed payload) (.receipt effect.messageId)).attempt with
  | .ok () => return
  | .error error => handleFailedPeerReceiptDelivery effect.messageId error.message

/-- `persist_read_receipt_encryption`: two statements, each on its own. The flag
of the first is not looked at by the caller. -/
def persistReadReceiptEncryption
    (receiptId : Uuid) (payload : Sealed) (conversationId : InstallationId)
    (snapshot : Bytes) (nextAttemptAt : Int) : Call P Unit := do
  let now ← nowMs
  if ← writeReturning (Database.persistReadReceiptRow receiptId payload
      nextAttemptAt now) then
    onHost (Host.consult .readReceiptSnapshot (.storage "statement failed"))
    onDatabase (Program.execute (Database.upsertSnapshot conversationId snapshot))

def requeueReadReceipt (receiptId : Uuid) (attemptCount : Nat)
    (error : EngineError) : Call P Unit := do
  let nextAttemptAt ← retryAt attemptCount
  write (Database.requeueReadReceipt receiptId nextAttemptAt (codedError error))

def readReceiptPayload (receiptId : Uuid) (record : ReadReceipt) :
    Call P (EngineResult Sealed) := do
  match record.wireCiphertext with
  | some payload => return .ok payload
  | none =>
    let encrypted ← encryptKeeping record.conversationId
      (.invalidCommand
        "contact requires MLS welcome before sending read receipt")
      .storage (.readReceipt record.messageIds record.readAt)
      fun payload snapshot => do
        let nextAttemptAt ← retryAt record.attemptCount
        persistReadReceiptEncryption receiptId payload record.conversationId
          snapshot nextAttemptAt
    return encrypted.map Prod.fst

def flushReadReceipt (receiptId : Uuid) (record : ReadReceipt) :
    Call P Unit := do
  match ← readReceiptPayload receiptId record with
  | .error error => requeueReadReceipt receiptId record.attemptCount error
  | .ok payload =>
    match ← (queuePeerPayload receiptId record.contactInstallationId
        (.ofSealed payload) (.readReceipt receiptId)).attempt with
    | .ok () => return
    | .error error => requeueReadReceipt receiptId record.attemptCount error

def flushPendingReadReceipts : Call P Unit := do
  let now ← nowMs
  Program.forEach (← query (Database.dueReadReceipts now)) fun entry =>
    flushReadReceipt entry.1 entry.2

def queueReadReceipts (conversationId : InstallationId)
    (messageIds : List Uuid) : Call P Unit := do
  let messageIds := (messageIds.insertionSort (· ≤ ·)).dedup
  if messageIds.isEmpty then return
  let readAt ← nowMs
  let now ← nowMs
  let receiptId ← freshUuid
  write (Database.enqueueReadReceipt receiptId conversationId conversationId
    messageIds readAt now)
  flushPendingReadReceipts

end Actor

end Torchat
