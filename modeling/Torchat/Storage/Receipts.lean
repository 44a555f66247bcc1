import Mathlib.Data.List.Dedup
import Mathlib.Data.List.Sort
import Mathlib.Data.Finset.Dedup
import Torchat.Storage.Messages

namespace Torchat.Storage

open Foundation

/-- `state IN ('PENDING', 'SENT') AND next_attempt_at <= ?`. -/
def DeliveryReceipt.claimable (nowMs : Int) (row : DeliveryReceipt) : Bool :=
  (row.state = .pending || row.state = .sent) && row.nextAttemptAt ≤ nowMs

def DeliveryReceipt.claimed (nextAttemptAt : Int) (lastError : Option String)
    (row : DeliveryReceipt) : DeliveryReceipt :=
  { row with
    state := .sent
    attemptCount := row.attemptCount + 1
    nextAttemptAt := nextAttemptAt
    lastError := lastError }

namespace Database

def onReceipts (f : Table Uuid DeliveryReceipt → Table Uuid DeliveryReceipt)
    (database : Database) : Database :=
  { database with deliveryReceipts := f database.deliveryReceipts }

/-- `UPDATE received_envelopes SET receipt_state = ? WHERE message_id = ?`, from
whichever sender. -/
def markReceived (messageId : Uuid) (state : ReceiptState)
    (database : Database) : Database :=
  { database with
    receivedEnvelopes := database.receivedEnvelopes.updateWhere
      (fun key _ => key.2 = messageId)
      fun _ row => { row with receiptState := state } }

/-- The `INSERT OR REPLACE` of the runtime: a row with either unique column is
replaced. -/
def putDeliveryReceipt (messageId : Uuid) (receipt : DeliveryReceipt)
    (database : Database) : RuntimeResult Database :=
  .ok <| database.onReceipts fun receipts =>
    (receipts.retain fun _ row =>
      decide (row.envelopeId ≠ receipt.envelopeId)).insert messageId receipt

def putReceivedEnvelope
    (sender : InstallationId) (messageId : Uuid) (envelope : ReceivedEnvelope)
    (database : Database) : RuntimeResult Database :=
  if database.receivedEnvelopes.contains (sender, messageId) then
    .error (.storage "UNIQUE constraint failed: received_envelopes")
  else
    .ok { database with
      receivedEnvelopes :=
        database.receivedEnvelopes.insert (sender, messageId) envelope }

def persistReceiptEncryption
    (messageId : Uuid) (wire : Sealed) (conversationId : InstallationId)
    (snapshot : Bytes) (nextAttemptAt : Int) (lastError : Option String)
    (nowMs : Int) (database : Database) : RuntimeResult (Bool × Database) :=
  if (database.deliveryReceipts.lookup messageId).any
      (DeliveryReceipt.claimable nowMs) then
    do
      let database := database.onReceipts (·.modify messageId fun row =>
        { row.claimed nextAttemptAt lastError with
          wireCiphertext := row.wireCiphertext.or (some wire) })
      let database ←
        (database.expose wire).upsertSnapshot conversationId snapshot
      return (true, database.markReceived messageId .sent)
  else
    .ok (false, database)

def claimReceiptAttempt
    (messageId : Uuid) (nextAttemptAt : Int) (lastError : Option String)
    (nowMs : Int) (database : Database) : RuntimeResult (Bool × Database) :=
  if (database.deliveryReceipts.lookup messageId).any
      (DeliveryReceipt.claimable nowMs) then
    .ok (true, (database.onReceipts (·.modify messageId
      (DeliveryReceipt.claimed nextAttemptAt lastError))).markReceived
        messageId .sent)
  else
    .ok (false, database)

def completeDeliveryReceipt
    (messageId : Uuid) (database : Database) : RuntimeResult Database :=
  .ok <| (database.onReceipts (·.modify messageId fun row =>
    { row with state := .delivered, nextAttemptAt := 0, lastError := none
      })).markReceived messageId .delivered

def requeueDeliveryReceipt (messageId : Uuid) (nextAttemptAt : Int)
    (lastError : String) (database : Database) : RuntimeResult Database :=
  .ok <| (database.onReceipts (·.modify messageId fun row =>
    { row with
      state := .pending
      nextAttemptAt := nextAttemptAt
      lastError := some lastError })).markReceived messageId .pending

/-- `requeue_after_disconnect`: receipts first, then the messages being sent. -/
def requeueAfterDisconnect
    (nowMs : Int) (database : Database) : RuntimeResult Database :=
  .ok <| (database.onReceipts (·.updateWhere
    (fun _ row => row.state = .sent)
    fun _ row => { row with state := .pending, nextAttemptAt := nowMs })).onMessages
    (·.updateWhere
      (fun _ row => row.message.outgoing && row.message.state = .sending)
      fun _ row => row.requeued nowMs)

/-- What `pending_receipts` gives for one row. -/
structure ReceiptSendEffect where
  envelopeId : Uuid
  messageId : Uuid
  conversationId : InstallationId
  recipientInstallationId : InstallationId
  receivedAt : Int

def pendingReceipts (nowMs : Int) (database : Database) :
    List ReceiptSendEffect :=
  (database.deliveryReceipts.retain fun _ row =>
    row.claimable nowMs).entries.map fun entry =>
      { envelopeId := entry.2.envelopeId
        messageId := entry.1
        conversationId := entry.2.conversationId
        recipientInstallationId := entry.2.originalSender
        receivedAt := entry.2.receivedAt }

def onReadReceipts (f : Table Uuid ReadReceipt → Table Uuid ReadReceipt)
    (database : Database) : Database :=
  { database with readReceiptOutbox := f database.readReceiptOutbox }

/-- Ids sorted and without repetitions, as `canonical_message_ids_json` leaves
them. -/
def canonicalMessageIds (messageIds : List Uuid) : List Uuid :=
  messageIds.dedup.insertionSort (·.toNat ≤ ·.toNat)

def enqueueReadReceipt (receiptId : Uuid)
    (contact conversationId : InstallationId) (messageIds : List Uuid)
    (readAt nowMs : Int) (database : Database) : RuntimeResult Database := do
  requireRow (database.contacts.contains contact)
  let ids := canonicalMessageIds messageIds
  let same (row : ReadReceipt) : Bool :=
    row.contactInstallationId = contact &&
      row.conversationId = conversationId && row.messageIds = ids
  if database.readReceiptOutbox.values.any same then
    return database.onReadReceipts (·.updateWhere (fun _ row => same row)
      fun _ row =>
        { row with
          readAt := max row.readAt readAt
          nextAttemptAt := min row.nextAttemptAt nowMs })
  else
    return database.onReadReceipts (·.insert receiptId
      { contactInstallationId := contact
        conversationId := conversationId
        messageIds := ids
        readAt := readAt
        wireCiphertext := none
        state := .queued
        attemptCount := 0
        nextAttemptAt := nowMs
        lastError := none
        createdAt := nowMs })

def dueReadReceipts (nowMs : Int) (database : Database) :
    List (Uuid × ReadReceipt) :=
  (database.readReceiptOutbox.retain fun _ row =>
    decide (row.nextAttemptAt ≤ nowMs)).entries

/-- The first statement of `persist_read_receipt_encryption`; the snapshot is
written by a second one, outside any transaction. -/
def persistReadReceiptRow
    (receiptId : Uuid) (wire : Sealed) (nextAttemptAt nowMs : Int)
    (database : Database) : RuntimeResult (Bool × Database) :=
  if (database.readReceiptOutbox.lookup receiptId).any fun row =>
      decide (row.nextAttemptAt ≤ nowMs) then
    .ok (true, (database.onReadReceipts (·.modify receiptId fun row =>
      { row with
        wireCiphertext := row.wireCiphertext.or (some wire)
        state := .sent
        attemptCount := row.attemptCount + 1
        nextAttemptAt := nextAttemptAt })).expose wire)
  else
    .ok (false, database)

def requeueReadReceipt (receiptId : Uuid) (nextAttemptAt : Int) (error : String)
    (database : Database) : RuntimeResult Database :=
  .ok <| database.onReadReceipts (·.modify receiptId fun row =>
    { row with
      state := .queued
      nextAttemptAt := nextAttemptAt
      lastError := some error })

def completeReadReceipt
    (receiptId : Uuid) (database : Database) : RuntimeResult Database :=
  .ok (database.onReadReceipts (·.erase receiptId))

inductive InboundEnvelopeStoreResult
  | stored
  | duplicate (delivered : Bool)
  deriving DecidableEq

def storeInboundPeerEnvelope (sender : InstallationId) (messageId : Uuid)
    (ciphertext ciphertextHash : Bytes) (receivedAt : Int)
    (database : Database) :
    RuntimeResult (InboundEnvelopeStoreResult × Database) :=
  match database.inboundPeerEnvelopes.lookup (sender, messageId) with
  | some existing =>
    if existing.ciphertextHash = ciphertextHash then
      .ok (.duplicate (existing.state = .delivered), database)
    else
      .error (.invalidCommand
        "duplicate peer envelope has different ciphertext")
  | none =>
    .ok (.stored, { database with
      inboundPeerEnvelopes :=
        database.inboundPeerEnvelopes.insert (sender, messageId)
          { ciphertext := ciphertext
            ciphertextHash := ciphertextHash
            state := .persisted
            receivedAt := receivedAt } })

def markInbound (state : InboundState) (sender : InstallationId)
    (messageId : Uuid) (database : Database) : RuntimeResult Database :=
  .ok { database with
    inboundPeerEnvelopes :=
      database.inboundPeerEnvelopes.modify (sender, messageId) fun row =>
        { row with state := state } }

def completeInboundPeerEnvelope (sender : InstallationId) (messageId : Uuid) :
    Database → RuntimeResult Database :=
  markInbound .delivered sender messageId

def rejectInboundPeerEnvelope (sender : InstallationId) (messageId : Uuid) :
    Database → RuntimeResult Database :=
  markInbound .rejected sender messageId

def pendingInboundPeerEnvelopes (database : Database) :
    List ((InstallationId × Uuid) × InboundEnvelope) :=
  (database.inboundPeerEnvelopes.retain fun _ row =>
    decide (row.state = .persisted)).entries

def rejectedInboundPeerSenders (database : Database) : Finset InstallationId :=
  ((database.inboundPeerEnvelopes.retain fun _ row =>
    decide (row.state = .rejected)).keys.map Prod.fst).toFinset

def putPendingApplicationEnvelope
    (sender : InstallationId) (messageId : Uuid) (envelope : PendingEnvelope)
    (database : Database) : RuntimeResult Database :=
  .ok { database with
    pendingApplicationEnvelopes :=
      database.pendingApplicationEnvelopes.insert (sender, messageId) envelope }

def pendingEnvelopesOf (sender : InstallationId) (database : Database) :
    List ((InstallationId × Uuid) × PendingEnvelope) :=
  (database.pendingApplicationEnvelopes.retain fun key _ =>
    decide (key.1 = sender)).entries

def removePendingApplicationEnvelope (sender : InstallationId)
    (messageId : Uuid) (database : Database) : RuntimeResult Database :=
  .ok { database with
    pendingApplicationEnvelopes :=
      database.pendingApplicationEnvelopes.erase (sender, messageId) }

end Database

end Torchat.Storage
