import Mathlib.Data.List.Infix
import Torchat.Domain.Vocabulary
import Torchat.Foundation.Program
import Torchat.Foundation.Table

namespace Torchat.Storage

open Foundation

/-- The columns the crossed-pairing statements select on, with the rest of the
row. -/
structure PairingRow (δ : Type) where
  pairKey : Option String
  state : InviteState
  details : δ

structure InboxDetails where
  senderInstallationId : InstallationId
  senderNickname : String
  senderPublicKey : String
  senderFingerprint : String
  capability : String
  expiresAt : Int
  offerInviteId : Option String
  offerPayload : Option String
  attemptCount : Nat
  nextAttemptAt : Int
  lastError : Option String
  responseDelivered : Bool

structure OutboxDetails where
  recipientInstallationId : Option InstallationId
  capability : Option String
  payload : Option String
  expiresAt : Int

/-- `state IN ('PENDING', 'ACCEPTED')`. -/
def PairingRow.active (row : PairingRow δ) : Bool := row.state.isOutstanding

def PairingRow.keyed (row : PairingRow δ) (pairKey : String) : Bool :=
  row.pairKey = some pairKey

/-- The pair key under which a row enters the partial unique index. -/
def PairingRow.indexed (row : PairingRow δ) : Option String :=
  if row.active then row.pairKey else none

/-- A pairing table with its index `unique_active_pairing_…_pair`. -/
structure PairingTable (δ : Type) where
  rows : Table String (PairingRow δ)
  uniqueActivePair : (rows.values.filterMap PairingRow.indexed).Nodup

namespace PairingTable

def empty : PairingTable δ := ⟨.empty, by simp [Table.empty, Table.values]⟩

def lookup (table : PairingTable δ) (pairingId : String) :
    Option (PairingRow δ) :=
  table.rows.lookup pairingId

/-- A write goes through only when the index stays unique. -/
def write (rows : Table String (PairingRow δ)) :
    RuntimeResult (PairingTable δ) :=
  if unique : (rows.values.filterMap PairingRow.indexed).Nodup then
    .ok ⟨rows, unique⟩
  else
    .error (.storage "UNIQUE constraint failed: pair_key")

/-- `UPDATE … SET state = ? WHERE … AND state IN ('PENDING', 'ACCEPTED')`. -/
def retire (table : PairingTable δ) (state : InviteState)
    (selected : String → PairingRow δ → Bool) :
    RuntimeResult (PairingTable δ) :=
  write <| table.rows.updateWhere
    (fun pairingId row => row.active && selected pairingId row)
    fun _ row => { row with state := state }

def retireOthers (table : PairingTable δ) (state : InviteState)
    (pairKey pairingId : String) : RuntimeResult (PairingTable δ) :=
  table.retire state fun candidate row =>
    row.keyed pairKey && candidate ≠ pairingId

/-- `has_superseded_pairing_…`: an active row of the pair has a smaller id. -/
def hasSuperseded
    (table : PairingTable δ) (pairKey pairingId : String) : Bool :=
  table.rows.entries.any fun entry =>
    entry.2.keyed pairKey && entry.1 < pairingId && entry.2.active

def activeIds (table : PairingTable δ) (pairKey : String) : List String :=
  (table.rows.retain fun _ row => row.keyed pairKey && row.active).keys

end PairingTable

abbrev PairingInbox := PairingTable InboxDetails

abbrev PairingOutbox := PairingTable OutboxDetails

structure PairingTables where
  inbox : PairingInbox
  outbox : PairingOutbox

def PairingTables.empty : PairingTables := ⟨.empty, .empty⟩

/-- `instr(CAST(payload AS TEXT), ?) > 0`; a NULL payload is not selected. -/
def OutboxDetails.mentions (row : OutboxDetails) (inviteId : String) : Bool :=
  row.payload.any fun payload => decide (inviteId.toList <:+: payload.toList)

/-- `instr(CAST(payload AS TEXT), ?) = 0`; a NULL payload is not selected. -/
def OutboxDetails.omits (row : OutboxDetails) (inviteId : String) : Bool :=
  row.payload.any fun payload => !decide (inviteId.toList <:+: payload.toList)

def archiveCrossedInbox (tables : PairingTables) (pairKey pairingId : String) :
    RuntimeResult PairingTables := do
  let inbox ← tables.inbox.retireOthers .archived pairKey pairingId
  return { tables with inbox := inbox }

def archiveInboxForPair (tables : PairingTables) (pairKey pairingId : String) :
    RuntimeResult PairingTables := do
  let inbox ← tables.inbox.retireOthers .archived pairKey pairingId
  return { tables with inbox := inbox }

def cancelOutboxForPair (tables : PairingTables) (pairKey pairingId : String) :
    RuntimeResult PairingTables := do
  let outbox ← tables.outbox.retireOthers .cancelled pairKey pairingId
  return { tables with outbox := outbox }

/-- Unlike its siblings this statement selects by recipient and overwrites the
pair key. -/
def cancelCrossedOutboxByRecipient (tables : PairingTables)
    (pairKey recipient pairingId : String) : RuntimeResult PairingTables := do
  let outbox ← PairingTable.write <| tables.outbox.rows.updateWhere
    (fun candidate row =>
      row.details.recipientInstallationId = some recipient &&
        candidate ≠ pairingId && row.active)
    fun _ row => { row with state := .cancelled, pairKey := some pairKey }
  return { tables with outbox := outbox }

/-- The row an upsert leaves: the retry columns survive only when neither the
state nor the offer changed. -/
def inboxRow (previous : Option (PairingRow InboxDetails)) (item : PairingItem)
    (sender : ContactRecord) (capability : String) : PairingRow InboxDetails :=
  let unchanged := previous.any fun row =>
    row.state = item.state &&
      row.details.offerInviteId.getD "" = item.offerInviteId.getD "" &&
      row.details.offerPayload.getD "" = item.offerPayload.getD ""
  let kept := if unchanged then previous.map PairingRow.details else none
  { pairKey := item.pairKey
    state := item.state
    details :=
      { senderInstallationId := sender.installationId
        senderNickname := sender.nickname
        senderPublicKey := sender.publicKey
        senderFingerprint := sender.fingerprint
        capability := capability
        expiresAt := item.expiresAt
        offerInviteId := item.offerInviteId
        offerPayload := item.offerPayload
        attemptCount := (kept.map InboxDetails.attemptCount).getD 0
        nextAttemptAt := (kept.map InboxDetails.nextAttemptAt).getD 0
        lastError := kept.bind InboxDetails.lastError
        responseDelivered :=
          previous.any fun row => row.details.responseDelivered } }

def outboxRow (item : PairingItem) : PairingRow OutboxDetails where
  pairKey := item.pairKey
  state := item.state
  details :=
    { recipientInstallationId := item.sender.map ContactRecord.installationId
      capability := item.capability
      payload := item.offerPayload
      expiresAt := item.expiresAt }

def upsertPairingInbox
    (tables : PairingTables) (item : PairingItem) (sender : ContactRecord)
    (capability : String) : RuntimeResult PairingTables := do
  let previous := tables.inbox.lookup item.pairingId
  let inbox ← PairingTable.write <| tables.inbox.rows.insert item.pairingId
    (inboxRow previous item sender capability)
  return { tables with inbox := inbox }

def upsertPairingOutbox (tables : PairingTables) (item : PairingItem) :
    RuntimeResult PairingTables := do
  let outbox ← PairingTable.write <|
    tables.outbox.rows.insert item.pairingId (outboxRow item)
  return { tables with outbox := outbox }

def putPairingInbox (tables : PairingTables) (item : PairingItem) :
    RuntimeResult PairingTables :=
  match item.sender, item.capability with
  | none, _ => .error (.storage "pairing inbox item missing sender")
  | some _, none => .error (.storage "pairing inbox item missing capability")
  | some sender, some capability =>
    match item.pairKey with
    | none => upsertPairingInbox tables item sender capability
    | some pairKey =>
      if tables.outbox.hasSuperseded pairKey item.pairingId then
        .ok tables
      else do
        let tables ← cancelCrossedOutboxByRecipient tables pairKey
          sender.installationId item.pairingId
        let tables ← archiveCrossedInbox tables pairKey item.pairingId
        upsertPairingInbox tables item sender capability

def putPairingOutbox (tables : PairingTables) (item : PairingItem) :
    RuntimeResult PairingTables :=
  match item.pairKey with
  | none => upsertPairingOutbox tables item
  | some pairKey =>
    if tables.inbox.hasSuperseded pairKey item.pairingId then
      .ok tables
    else do
      let tables ← archiveInboxForPair tables pairKey item.pairingId
      let tables ← cancelOutboxForPair tables pairKey item.pairingId
      upsertPairingOutbox tables item

/-! ## Binding the pair key of an outgoing pairing

`bind_pairing_outbox_pair_key` runs outside a transaction: each statement is a
commit of its own. -/

def candidateOutboxForInvite
    (tables : PairingTables) (inviteId : String) : Option String :=
  (tables.outbox.rows.retain fun _ row =>
    row.active && row.details.mentions inviteId).keys.min?

def existingOutboxForPair
    (tables : PairingTables) (pairKey inviteId : String) : Option String :=
  (tables.outbox.rows.retain fun _ row =>
    row.keyed pairKey && row.active && row.details.omits inviteId).keys.min?

def cancelOutboxForInvite (inviteId : String) (tables : PairingTables) :
    RuntimeResult PairingTables := do
  let outbox ← tables.outbox.retire .cancelled fun _ row =>
    row.details.mentions inviteId
  return { tables with outbox := outbox }

def bindOutboxPairKey (pairKey inviteId : String) (tables : PairingTables) :
    RuntimeResult PairingTables := do
  let outbox ← PairingTable.write <| tables.outbox.rows.updateWhere
    (fun _ row => row.active && row.details.mentions inviteId)
    fun _ row => { row with pairKey := some pairKey }
  return { tables with outbox := outbox }

/-- The smallest active id of a pair over both tables. -/
def winner (tables : PairingTables) (pairKey : String) : Option String :=
  (tables.inbox.activeIds pairKey ++ tables.outbox.activeIds pairKey).min?

def reconcilePairingInbox (pairKey : String) (tables : PairingTables) :
    RuntimeResult PairingTables := do
  let inbox ← tables.inbox.retire .archived fun pairingId row =>
    row.keyed pairKey && some pairingId ≠ winner tables pairKey
  return { tables with inbox := inbox }

def reconcilePairingOutbox (pairKey : String) (tables : PairingTables) :
    RuntimeResult PairingTables := do
  let outbox ← tables.outbox.retire .cancelled fun pairingId row =>
    row.keyed pairKey && some pairingId ≠ winner tables pairKey
  return { tables with outbox := outbox }

def bindPairingOutboxPairKey
    (inviteId pairKey : String) : Program PairingTables RuntimeError Unit := do
  match ← Program.read (candidateOutboxForInvite · inviteId) with
  | none => return
  | some candidate =>
    let existing ← Program.read (existingOutboxForPair · pairKey inviteId)
    let winner := match existing with
      | none => candidate
      | some other => min other candidate
    if winner ≠ candidate then
      Program.execute (cancelOutboxForInvite inviteId)
    else
      Program.execute (cancelOutboxForPair · pairKey candidate)
      Program.execute (bindOutboxPairKey pairKey inviteId)
      Program.execute (reconcilePairingInbox pairKey)
      Program.execute (reconcilePairingOutbox pairKey)

def pairingInboxItem
    (pairingId : String) (row : PairingRow InboxDetails) : PairingItem where
  pairingId := pairingId
  pairKey := row.pairKey
  sender := some
    { installationId := row.details.senderInstallationId
      nickname := normalizedContactNickname row.details.senderInstallationId
        row.details.senderNickname
      publicKey := row.details.senderPublicKey
      fingerprint := row.details.senderFingerprint }
  capability := some row.details.capability
  expiresAt := row.details.expiresAt
  state := row.state
  received := true
  availableActions := pairingAvailableActions row.state true
  offerInviteId := row.details.offerInviteId
  offerPayload := row.details.offerPayload

def pairingOutboxItem
    (pairingId : String) (row : PairingRow OutboxDetails) : PairingItem where
  pairingId := pairingId
  pairKey := row.pairKey
  sender := row.details.recipientInstallationId.map fun installationId =>
    { installationId := installationId
      nickname := fallbackContactNickname installationId
      publicKey := ""
      fingerprint := "" }
  capability := row.details.capability
  expiresAt := row.details.expiresAt
  state := row.state
  received := false
  availableActions := pairingAvailableActions row.state false
  offerInviteId := none
  offerPayload := row.details.payload

def pairingInbox (tables : PairingTables) : List PairingItem :=
  tables.inbox.rows.entries.map fun entry => pairingInboxItem entry.1 entry.2

def pairingOutbox (tables : PairingTables) : List PairingItem :=
  tables.outbox.rows.entries.map fun entry => pairingOutboxItem entry.1 entry.2

end Torchat.Storage
