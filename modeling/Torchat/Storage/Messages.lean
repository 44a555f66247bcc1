import Torchat.Storage.Database

namespace Torchat.Storage

open Foundation

def requireRow (present : Bool) : RuntimeResult Unit :=
  if present then .ok ()
  else .error (.storage "FOREIGN KEY constraint failed")

namespace Database

def upsertSnapshot (conversationId : InstallationId) (snapshot : Bytes)
    (database : Database) : RuntimeResult Database := do
  requireRow (database.conversations.contains conversationId)
  let stateVersion :=
    (database.conversationMls.lookup conversationId).elim 1
      fun row => row.stateVersion + 1
  return { database with
    conversationMls :=
      database.conversationMls.insert conversationId ⟨snapshot, stateVersion⟩ }

def tombstoned (database : Database) (conversationId : InstallationId) : Bool :=
  database.conversations.contains conversationId &&
    database.relationshipTombstones.contains conversationId

/-- The runtime's put, which a tombstone suppresses. The direct one of the
database, `upsertSnapshot`, is not suppressed. -/
def putConversationMlsSnapshot (conversationId : InstallationId)
    (snapshot : Bytes) (database : Database) : RuntimeResult Database :=
  if database.tombstoned conversationId then .ok database
  else database.upsertSnapshot conversationId snapshot

def onMessages (f : Table Uuid MessageRow → Table Uuid MessageRow)
    (database : Database) : Database :=
  { database with messages := f database.messages }

def onDeliveries (f : Table Uuid OutboundDelivery → Table Uuid OutboundDelivery)
    (database : Database) : Database :=
  { database with outboundDeliveries := f database.outboundDeliveries }

/-- The upsert leaves the stored ciphertext of an existing row alone. -/
def putMessage
    (message : ChatMessage) (database : Database) : RuntimeResult Database := do
  requireRow (database.conversations.contains message.conversationId)
  let wire := (database.messages.lookup message.id).bind
    MessageRow.wireCiphertext
  return database.onMessages (·.insert message.id ⟨message, wire⟩)

def deleteMessage
    (messageId : Uuid) (database : Database) : RuntimeResult Database :=
  .ok <| (database.onMessages (·.erase messageId)).onDeliveries
    (·.erase messageId)

end Database

def MessageState.isPending (state : MessageState) : Bool :=
  state = .queued || state = .sending

/-- `outgoing = 1 AND state IN ('SENDING', 'QUEUED') AND next_attempt_at <= ?`. -/
def MessageRow.claimable (nowMs : Int) (row : MessageRow) : Bool :=
  row.message.outgoing && MessageState.isPending row.message.state &&
    row.message.nextAttemptAt ≤ nowMs

def MessageRow.claimed (nowMs nextAttemptAt : Int) (ackDeadline : Option Int)
    (lastTransportError : Option String) (row : MessageRow) : MessageRow :=
  { row with
    message :=
      { row.message with
        attemptCount := row.message.attemptCount + 1
        lastAttemptAt := some nowMs
        nextAttemptAt := nextAttemptAt
        ackDeadline := ackDeadline
        lastTransportError := lastTransportError } }

/-- `SET state = 'QUEUED', next_attempt_at = ?, ack_deadline = NULL`. -/
def MessageRow.requeued (nextAttemptAt : Int) (row : MessageRow) : MessageRow :=
  { row with
    message :=
      { row.message with
        state := .queued
        nextAttemptAt := nextAttemptAt
        ackDeadline := none } }

namespace Database

/-- `claim_outgoing_attempt`, the same statement in the runtime storage and in
the database. The flag says whether a row was selected. -/
def claimOutgoingAttempt (messageId : Uuid) (nextAttemptAt : Int)
    (ackDeadline : Option Int) (lastTransportError : Option String)
    (nowMs : Int) (database : Database) : RuntimeResult (Bool × Database) :=
  if (database.messages.lookup messageId).any (MessageRow.claimable nowMs) then
    .ok (true, database.onMessages (·.modify messageId
      (MessageRow.claimed nowMs nextAttemptAt ackDeadline lastTransportError)))
  else
    .ok (false, database)

def persistOutboundEncryption
    (messageId : Uuid) (wire : Sealed) (conversationId : InstallationId)
    (snapshot : Bytes) (database : Database) : RuntimeResult Database :=
  if database.messages.contains messageId then
    ((database.onMessages (·.modify messageId fun row =>
      { row with wireCiphertext := some wire })).expose wire
      ).putConversationMlsSnapshot conversationId snapshot
  else
    .error (.storage ("outgoing message " ++ messageId.text ++
      " was not present in the active transaction"))

def persistOutboundEncryptionAndClaim
    (messageId : Uuid) (wire : Sealed) (conversationId : InstallationId)
    (snapshot : Bytes) (nextAttemptAt : Int) (ackDeadline : Option Int)
    (nowMs : Int) (database : Database) : RuntimeResult (Bool × Database) :=
  if (database.messages.lookup messageId).any (MessageRow.claimable nowMs) then
    do
      let database := database.onMessages (·.modify messageId fun row =>
        { row.claimed nowMs nextAttemptAt ackDeadline none with
          wireCiphertext := some wire })
      return (true,
        ← (database.expose wire).upsertSnapshot conversationId snapshot)
  else
    .ok (false, database)

def enqueueOutboundDelivery
    (messageId : Uuid) (contactInstallationId : InstallationId)
    (createdAtSecs : Int) (database : Database) : RuntimeResult Database := do
  requireRow (database.messages.contains messageId)
  requireRow (database.contacts.contains contactInstallationId)
  return database.onDeliveries (·.insertNew messageId
    { contactInstallationId := contactInstallationId
      state := .queued
      attemptCount := 0
      nextAttemptAt := 0
      ackDeadline := none
      lastError := none
      createdAt := createdAtSecs })

def claimOutboundDelivery
    (messageId : Uuid) (nextAttemptAt ackDeadline nowMs : Int)
    (database : Database) : RuntimeResult (Bool × Database) :=
  let claimable (row : OutboundDelivery) : Bool :=
    row.state = .queued || row.ackDeadline.getD 0 ≤ nowMs
  if (database.outboundDeliveries.lookup messageId).any claimable then
    .ok (true, database.onDeliveries (·.modify messageId fun row =>
      { row with
        state := .inFlight
        attemptCount := row.attemptCount + 1
        nextAttemptAt := nextAttemptAt
        ackDeadline := some ackDeadline
        lastError := none }))
  else
    .ok (false, database)

def requeueOutboundDelivery (messageId : Uuid) (retryAt : Int) (error : String)
    (database : Database) : RuntimeResult Database :=
  if database.outboundDeliveries.contains messageId then
    .ok (database.onDeliveries (·.modify messageId fun row =>
      { row with
        state := .queued
        nextAttemptAt := retryAt
        ackDeadline := none
        lastError := some error }))
  else
    .error (.storage ("outbound delivery " ++ messageId.text ++
      " is missing while scheduling retry"))

def completeOutboundDelivery
    (messageId : Uuid) (database : Database) : RuntimeResult Database :=
  .ok (database.onDeliveries (·.erase messageId))

def expediteDeliveries (installationId : InstallationId) (database : Database) :
    RuntimeResult Database :=
  .ok <| database.onDeliveries (·.updateWhere
    (fun _ row => row.contactInstallationId = installationId)
    fun _ row =>
      { row with state := .queued, nextAttemptAt := 0, ackDeadline := none })

def expediteMessages (installationId : InstallationId) (database : Database) :
    RuntimeResult Database :=
  .ok <| database.onMessages (·.updateWhere
    (fun _ row =>
      row.message.conversationId = installationId && row.message.outgoing &&
        MessageState.isPending row.message.state)
    fun _ row => row.requeued 0)

def requeuePeerDeliveries
    (nowMs : Int) (database : Database) : RuntimeResult Database :=
  let queued := database.onDeliveries (·.updateWhere
    (fun _ row => row.state = .inFlight)
    fun _ row =>
      { row with state := .queued, nextAttemptAt := nowMs, ackDeadline := none })
  .ok <| queued.onMessages (·.updateWhere
    (fun messageId row =>
      row.message.outgoing && row.message.state = .sending &&
        (queued.outboundDeliveries.lookup messageId).any fun delivery =>
          delivery.state = .queued)
    fun _ row => row.requeued nowMs)

def pendingMessages (nowMs : Int) (database : Database) : List ChatMessage :=
  (database.messages.retain fun _ row =>
    MessageState.isPending row.message.state &&
      row.message.nextAttemptAt ≤ nowMs).entries.map fun entry =>
        { entry.2.message with id := entry.1 }

def expiredAckDeadlineMessageIds
    (nowMs : Int) (database : Database) : List Uuid :=
  (database.messages.retain fun _ row =>
    row.message.outgoing && row.message.state = .sent &&
      row.message.ackDeadline.any (· ≤ nowMs)).keys

end Database

end Torchat.Storage
