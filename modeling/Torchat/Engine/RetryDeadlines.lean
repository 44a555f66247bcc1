import Mathlib.Tactic.Tauto
import Torchat.Engine.Commands
import Torchat.Foundation.Deadline
import Torchat.Runtime.Retry
import Torchat.Storage.Calls

namespace Torchat

open Foundation Storage Table

namespace Storage

/-- `outgoing = 1 AND state IN ('SENDING', 'QUEUED')`. -/
def MessageRow.unsent (row : MessageRow) : Bool :=
  row.message.outgoing && MessageState.isPending row.message.state

/-- `outgoing = 1 AND state = 'SENT'`. -/
def MessageRow.awaitsAck (row : MessageRow) : Bool :=
  row.message.outgoing && row.message.state = .sent

/-- `state IN ('PENDING', 'SENT')`. -/
def DeliveryReceipt.open (row : DeliveryReceipt) : Bool :=
  row.state = .pending || row.state = .sent

/-- `state IN ('PENDING', 'DISPATCHED', 'WAITING_FOR_ACK')`. -/
def RelationshipRemoval.open (row : RelationshipRemoval) : Bool :=
  row.state = .pending || row.state = .dispatched || row.state = .waitingForAck

/-- `state IN ('PENDING', 'DISPATCHED')`. -/
def RemovalAck.open (row : RemovalAck) : Bool :=
  row.state = .pending || row.state = .dispatched

namespace Database

def nextMessageRetryDeadlineMs (database : Database) : Option Int :=
  database.messages.earliest fun row =>
    if row.unsent then some row.message.nextAttemptAt else none

def nextMessageAckDeadlineMs (database : Database) : Option Int :=
  database.messages.earliest fun row =>
    if row.awaitsAck then row.message.ackDeadline else none

def nextReceiptRetryDeadlineMs (database : Database) : Option Int :=
  database.deliveryReceipts.earliest fun row =>
    if row.open then some row.nextAttemptAt else none

/-- The mark of a Welcome that was given up is not looked at. -/
def nextPendingWelcomeRetryDeadlineMs
    (nowSecs : Int) (database : Database) : Option Int :=
  database.pendingWelcomes.earliest fun row =>
    if nowSecs ≤ row.expiresAt then some row.nextAttemptAt else none

def nextPairingResponseRetryDeadlineMs
    (nowSecs : Int) (database : Database) : Option Int :=
  database.pairing.inbox.rows.earliest fun row =>
    if responseDue nowSecs row then some row.details.nextAttemptAt else none

/-- Every read receipt in the outbox is `QUEUED` or `SENT`. -/
def nextReadReceiptRetryDeadline (database : Database) : Option Int :=
  database.readReceiptOutbox.earliest fun row => some row.nextAttemptAt

/-- The tombstones are not looked at. -/
def nextRelationshipRemovalRetryDeadlineMs (database : Database) : Option Int :=
  database.relationshipRemovals.earliest fun row =>
    if row.open then some row.nextAttemptAt else none

def nextRelationshipRemovalAckRetryDeadlineMs (database : Database) :
    Option Int :=
  database.relationshipRemovalAcks.earliest fun row =>
    if row.open then some row.nextAttemptAt else none

def retryDeadline (kind : RetryKind) (nowSecs : Int) (database : Database) :
    Option Int :=
  match kind with
  | .messageSend => database.nextMessageRetryDeadlineMs
  | .pairingResponse => database.nextPairingResponseRetryDeadlineMs nowSecs
  | .messageAckDeadline => database.nextMessageAckDeadlineMs
  | .receipt => database.nextReceiptRetryDeadlineMs
  | .pendingWelcome => database.nextPendingWelcomeRetryDeadlineMs nowSecs
  | .readReceipt => database.nextReadReceiptRetryDeadline
  | .relationshipRemoval => database.nextRelationshipRemovalRetryDeadlineMs
  | .relationshipRemovalAck => database.nextRelationshipRemovalAckRetryDeadlineMs

end Database

end Storage

structure RetryDeadline where
  kind : RetryKind
  atMs : Int

namespace RetryDeadline

def earliest : List RetryDeadline → Option RetryDeadline
  | [] => none
  | deadline :: rest =>
    match earliest rest with
    | none => some deadline
    | some later =>
      if later.atMs < deadline.atMs then some later else some deadline

theorem earliest_eq_none (nothing : earliest deadlines = none) :
    deadlines = [] := by
  cases deadlines with
  | nil => rfl
  | cons deadline rest =>
    cases later : earliest rest with
    | none => simp [earliest, later] at nothing
    | some found =>
      by_cases sooner : found.atMs < deadline.atMs <;>
        simp [earliest, later, sooner] at nothing

theorem earliest_first (chosen : earliest deadlines = some first) :
    first ∈ deadlines ∧ ∀ deadline ∈ deadlines, first.atMs ≤ deadline.atMs := by
  induction deadlines generalizing first with
  | nil => cases chosen
  | cons deadline rest induction =>
    simp only [earliest] at chosen
    split at chosen
    · rename_i nothing
      cases chosen
      simp [earliest_eq_none nothing]
    · rename_i later found
      obtain ⟨member, least⟩ := induction found
      split at chosen
      · rename_i sooner
        cases chosen
        exact ⟨.tail _ member,
          List.forall_mem_cons.mpr ⟨Int.le_of_lt sooner, least⟩⟩
      · rename_i before
        cases chosen
        refine ⟨.head _, List.forall_mem_cons.mpr ⟨Int.le_refl _, ?_⟩⟩
        intro other listed
        exact Int.le_trans (Int.not_lt.mp before) (least other listed)

end RetryDeadline

namespace Storage.Database

def nextRetryDeadline (nowMs nowSecs : Int) (database : Database) :
    Option RetryDeadline :=
  RetryDeadline.earliest
    ([RetryKind.messageSend, .messageAckDeadline, .receipt, .pendingWelcome,
      .pairingResponse, .readReceipt, .relationshipRemoval,
      .relationshipRemovalAck].filterMap fun kind =>
        (database.retryDeadline kind nowSecs).map fun deadline =>
          ⟨kind, max deadline nowMs⟩)

/-- The alarm that is set is the first instant from now on at which a deadline
has come, and it names a kind whose deadline has come then. Where no alarm is
set there is no deadline. -/
theorem next_retry_deadline_is_the_first_due
    (nowMs nowSecs : Int) (database : Database) :
    match database.nextRetryDeadline nowMs nowSecs with
    | none => ∀ kind instant, ¬Due instant (database.retryDeadline kind nowSecs)
    | some first =>
      nowMs ≤ first.atMs ∧
      Due first.atMs (database.retryDeadline first.kind nowSecs) ∧
      ∀ kind instant, nowMs ≤ instant →
        Due instant (database.retryDeadline kind nowSecs) →
        first.atMs ≤ instant := by
  have everyKind : ∀ kind, kind ∈ [RetryKind.messageSend, .messageAckDeadline,
      .receipt, .pendingWelcome, .pairingResponse, .readReceipt,
      .relationshipRemoval, .relationshipRemovalAck] := by
    intro kind
    cases kind <;> decide
  split
  · rename_i nothing
    rintro kind instant ⟨deadline, asked, _⟩
    have silent := List.filterMap_eq_nil_iff.mp
      (RetryDeadline.earliest_eq_none nothing) kind (everyKind kind)
    simp [asked] at silent
  · rename_i first chosen
    obtain ⟨member, least⟩ := RetryDeadline.earliest_first chosen
    obtain ⟨kind, _, raised⟩ := List.mem_filterMap.mp member
    obtain ⟨deadline, asked, rfl⟩ := Option.map_eq_some_iff.mp raised
    refine ⟨Int.le_max_right .., ⟨deadline, asked, Int.le_max_left ..⟩, ?_⟩
    rintro other instant later ⟨time, wanted, come⟩
    -- a deadline that has passed is raised to now, which is not after the instant
    have sooner := least ⟨other, max time nowMs⟩
      (List.mem_filterMap.mpr ⟨other, everyKind other, by simp [wanted]⟩)
    exact Int.le_trans sooner (Int.max_le.mpr ⟨come, later⟩)

/-- Whether the query of a kind's flush finds something to do at an instant. The
runtime's queries count in whole seconds; a pairing inbox that cannot be read
as send effects gives nothing. -/
def hasWork (kind : RetryKind) (nowMs : Int) (database : Database) : Prop :=
  match kind with
  | .messageSend =>
    (database.pendingMessages (nowMs / 1000 * 1000)).filter
      ChatMessage.outgoing ≠ []
  | .pairingResponse => ∃ effect effects,
      Pairing.pendingSendEffects (Storage.pairingInbox database.pairing)
        (nowMs.tdiv 1000) = .ok (effect :: effects)
  | .messageAckDeadline => database.expiredAckDeadlineMessageIds nowMs ≠ []
  | .receipt => database.pendingReceipts (nowMs / 1000 * 1000) ≠ []
  | .pendingWelcome =>
    database.duePendingWelcomes nowMs (nowMs.tdiv 1000) ≠ []
  | .readReceipt => database.dueReadReceipts nowMs ≠ []
  | .relationshipRemoval => database.dueRelationshipRemovals nowMs ≠ []
  | .relationshipRemovalAck => database.dueRelationshipRemovalAcks nowMs ≠ []

def DeadlineAgrees (kind : RetryKind) (nowMs : Int) (database : Database) :
    Prop :=
  Table.Due nowMs (database.retryDeadline kind (nowMs.tdiv 1000)) ↔
    database.hasWork kind nowMs

end Storage.Database

/-! ## What each flush finds -/

namespace Pairing

theorem pendingSendEffects_eq_cons_iff :
    (∃ effect effects,
      pendingSendEffects items nowSecs = .ok (effect :: effects)) ↔
    (∀ item ∈ items, ∃ effects, pendingSendEffect nowSecs item = .ok effects) ∧
      ∃ item ∈ items, ∃ effect effects,
        pendingSendEffect nowSecs item = .ok (effect :: effects) := by
  have sorted (effect : PairingSendEffect) (effects : List PairingSendEffect) :
      effect ∈ effects.insertionSort (fun left right =>
        left.recipientInstallationId ≤ right.recipientInstallationId) ↔
      effect ∈ effects :=
    List.mem_insertionSort _
  rw [← mapM_ok_iff]
  constructor
  · rintro ⟨effect, effects, done⟩
    obtain ⟨results, mapped, flat⟩ := bind_eq_ok.mp done
    refine ⟨⟨results, mapped⟩, ?_⟩
    have here : effect ∈ results.flatten := by
      rw [← sorted, Except.ok.inj flat]
      exact .head _
    obtain ⟨result, member, inside⟩ := List.mem_flatten.mp here
    obtain ⟨item, listed, mappedItem⟩ := exists_of_mem_mapM mapped member
    obtain ⟨first, others, rfl⟩ := List.exists_cons_of_ne_nil
      (List.ne_nil_of_mem inside)
    exact ⟨item, listed, first, others, mappedItem⟩
  · rintro ⟨⟨results, mapped⟩, item, listed, effect, effects, mappedItem⟩
    have inside := (sorted effect _).mpr (List.mem_flatten.mpr
      ⟨_, mem_of_mapM mapped listed mappedItem, .head _⟩)
    obtain ⟨first, others, split⟩ := List.exists_cons_of_ne_nil
      (List.ne_nil_of_mem inside)
    refine ⟨first, others, ?_⟩
    rw [pendingSendEffects, mapped, ← split]
    rfl

end Pairing

namespace Storage

theorem mem_pairingInbox :
    item ∈ pairingInbox tables ↔
      ∃ pairingId row, tables.inbox.rows.lookup pairingId = some row ∧
        pairingInboxItem pairingId row = item := by
  simp only [pairingInbox, List.mem_map, Prod.exists, lookup_eq_some_iff]

def offersWelcome (nowSecs : Int) (row : PairingRow InboxDetails) : Prop :=
  row.state = .accepted ∧ nowSecs ≤ row.details.expiresAt

theorem pendingSendEffect_ok_iff :
    (∃ effects, Pairing.pendingSendEffect nowSecs (pairingInboxItem pairingId row)
        = .ok effects) ↔
      (offersWelcome nowSecs row → row.details.offerPayload.isSome = true) := by
  unfold Pairing.pendingSendEffect offersWelcome pairingInboxItem
  cases row.state with
  | accepted =>
    by_cases expired : row.details.expiresAt < nowSecs
    · simp [expired]
    · cases row.details.offerPayload <;> simp [expired, Int.not_lt.mp expired]
  | _ => simp

theorem pendingSendEffect_cons_iff :
    (∃ effect effects, Pairing.pendingSendEffect nowSecs
        (pairingInboxItem pairingId row) = .ok (effect :: effects)) ↔
      row.state = .rejected ∨
        offersWelcome nowSecs row ∧ row.details.offerPayload.isSome = true := by
  unfold Pairing.pendingSendEffect offersWelcome pairingInboxItem
  cases row.state with
  | accepted =>
    by_cases expired : row.details.expiresAt < nowSecs
    · simp [expired, Int.not_le.mpr expired]
    · cases row.details.offerPayload <;> simp [expired, Int.not_lt.mp expired]
  | _ => simp

namespace Database

variable {database : Database}

theorem messageSend_hasWork_iff :
    database.hasWork .messageSend nowMs ↔
      database.messages.Has fun _ row => row.unsent = true ∧
        row.message.nextAttemptAt ≤ nowMs / 1000 * 1000 := by
  change (database.pendingMessages _).filter ChatMessage.outgoing ≠ [] ↔ _
  simp only [pendingMessages, ne_eq, List.filter_eq_nil_iff, List.forall_mem_map,
    retain, List.mem_filter, Has, lookup_eq_some_iff,
    MessageRow.unsent, Bool.and_eq_true, decide_eq_true_eq]
  push Not
  constructor
  · rintro ⟨entry, ⟨stored, pending, come⟩, outgoing⟩
    exact ⟨entry.1, entry.2, stored, ⟨outgoing, pending⟩, come⟩
  · rintro ⟨messageId, row, stored, ⟨outgoing, pending⟩, come⟩
    exact ⟨(messageId, row), ⟨stored, pending, come⟩, outgoing⟩

theorem messageAckDeadline_hasWork_iff :
    database.hasWork .messageAckDeadline nowMs ↔
      database.messages.Has fun _ row => row.awaitsAck = true ∧
        row.message.ackDeadline.any (· ≤ nowMs) = true := by
  change ((database.messages.retain _).entries.map Prod.fst) ≠ [] ↔ _
  rw [ne_eq, List.map_eq_nil_iff, ← ne_eq, entries_retain_ne_nil_iff]
  simp only [Bool.and_eq_true, MessageRow.awaitsAck]

theorem receipt_hasWork_iff :
    database.hasWork .receipt nowMs ↔
      database.deliveryReceipts.Has fun _ row => row.open = true ∧
        row.nextAttemptAt ≤ nowMs / 1000 * 1000 := by
  change (database.deliveryReceipts.retain _).entries.map _ ≠ [] ↔ _
  rw [ne_eq, List.map_eq_nil_iff, ← ne_eq, entries_retain_ne_nil_iff]
  simp only [DeliveryReceipt.claimable, DeliveryReceipt.open, Bool.and_eq_true,
    decide_eq_true_eq]

theorem pendingWelcome_hasWork_iff :
    database.hasWork .pendingWelcome nowMs ↔
      database.pendingWelcomes.Has fun _ row =>
        (row.nextAttemptAt ≤ nowMs ∧ nowMs.tdiv 1000 ≤ row.expiresAt) ∧
          row.deadLettered = false := by
  change (database.pendingWelcomes.retain _).entries ≠ [] ↔ _
  rw [entries_retain_ne_nil_iff]
  simp only [Bool.and_eq_true, decide_eq_true_eq, Bool.not_eq_true']

theorem readReceipt_hasWork_iff :
    database.hasWork .readReceipt nowMs ↔
      database.readReceiptOutbox.Has fun _ row => row.nextAttemptAt ≤ nowMs := by
  change (database.readReceiptOutbox.retain _).entries ≠ [] ↔ _
  rw [entries_retain_ne_nil_iff]
  simp only [decide_eq_true_eq]

theorem relationshipRemovalAck_hasWork_iff :
    database.hasWork .relationshipRemovalAck nowMs ↔
      database.relationshipRemovalAcks.Has fun _ row =>
        row.open = true ∧ row.nextAttemptAt ≤ nowMs := by
  change (database.relationshipRemovalAcks.retain _).entries ≠ [] ↔ _
  rw [entries_retain_ne_nil_iff]
  simp only [RemovalAck.open, Bool.and_eq_true, decide_eq_true_eq]

def keepsTombstone (database : Database) (removalId : String)
    (row : RelationshipRemoval) : Prop :=
  ∃ tombstone, database.relationshipTombstones.lookup row.contactInstallationId =
      some tombstone ∧ tombstone.removalId = removalId

theorem relationshipRemoval_hasWork_iff :
    database.hasWork .relationshipRemoval nowMs ↔
      database.relationshipRemovals.Has fun removalId row =>
        (row.open = true ∧ row.nextAttemptAt ≤ nowMs) ∧
          database.keepsTombstone removalId row := by
  change database.dueRelationshipRemovals nowMs ≠ [] ↔ _
  simp only [dueRelationshipRemovals, ne_eq, List.filterMap_eq_nil_iff,
    Prod.forall, ← lookup_eq_some_iff]
  push Not
  refine exists_congr fun removalId => exists_congr fun row =>
    and_congr_right fun _ => ?_
  simp only [keepsTombstone, RelationshipRemoval.open]
  cases database.relationshipTombstones.lookup row.contactInstallationId with
  | none => simp
  | some tombstone => simp [and_assoc]

theorem pairingResponse_hasWork_iff :
    database.hasWork .pairingResponse nowMs ↔
      (¬database.pairing.inbox.rows.Has fun _ row =>
        offersWelcome (nowMs.tdiv 1000) row ∧ row.details.offerPayload = none) ∧
      database.pairing.inbox.rows.Has fun _ row =>
        row.state = .rejected ∨ offersWelcome (nowMs.tdiv 1000) row := by
  change (∃ effect effects, Pairing.pendingSendEffects _ _ =
    .ok (effect :: effects)) ↔ _
  rw [Pairing.pendingSendEffects_eq_cons_iff]
  constructor
  · rintro ⟨readable, item, listed, answered⟩
    obtain ⟨pairingId, row, stored, rfl⟩ := mem_pairingInbox.mp listed
    refine ⟨?_, pairingId, row, stored,
      (pendingSendEffect_cons_iff.mp answered).imp id And.left⟩
    rintro ⟨other, otherRow, otherStored, offered, missing⟩
    have present := pendingSendEffect_ok_iff.mp
      (readable _ (mem_pairingInbox.mpr ⟨other, otherRow, otherStored, rfl⟩))
      offered
    rw [missing] at present
    cases present
  · rintro ⟨complete, pairingId, row, stored, answered⟩
    have present : ∀ other otherRow,
        database.pairing.inbox.rows.lookup other = some otherRow →
        offersWelcome (nowMs.tdiv 1000) otherRow →
        otherRow.details.offerPayload.isSome = true := by
      intro other otherRow otherStored offered
      rw [Option.isSome_iff_ne_none]
      exact fun missing =>
        complete ⟨other, otherRow, otherStored, offered, missing⟩
    refine ⟨fun item listed => ?_, _,
      mem_pairingInbox.mpr ⟨pairingId, row, stored, rfl⟩,
      pendingSendEffect_cons_iff.mpr
        (answered.imp id fun offered => ⟨offered, present _ _ stored offered⟩)⟩
    obtain ⟨other, otherRow, otherStored, rfl⟩ := mem_pairingInbox.mp listed
    exact pendingSendEffect_ok_iff.mpr (present other otherRow otherStored)

/-- What a kind's deadline and its flush see, where they do not look at the same
rows. Both queries of the runtime lag behind within a second; a Welcome that was
given up and a removal whose tombstone is gone keep their deadline; the responses
to pairings are chosen by another rule altogether. -/
def DeadlineMatched (kind : RetryKind) (nowMs : Int) (database : Database) :
    Prop :=
  match kind with
  | .messageSend =>
    (database.messages.Has fun _ row => row.unsent = true ∧
      nowMs / 1000 * 1000 < row.message.nextAttemptAt ∧
      row.message.nextAttemptAt ≤ nowMs) →
    database.messages.Has fun _ row => row.unsent = true ∧
      row.message.nextAttemptAt ≤ nowMs / 1000 * 1000
  | .receipt =>
    (database.deliveryReceipts.Has fun _ row => row.open = true ∧
      nowMs / 1000 * 1000 < row.nextAttemptAt ∧ row.nextAttemptAt ≤ nowMs) →
    database.deliveryReceipts.Has fun _ row => row.open = true ∧
      row.nextAttemptAt ≤ nowMs / 1000 * 1000
  | .pendingWelcome =>
    (database.pendingWelcomes.Has fun _ row =>
      (row.nextAttemptAt ≤ nowMs ∧ nowMs.tdiv 1000 ≤ row.expiresAt) ∧
        row.deadLettered = true) →
    database.pendingWelcomes.Has fun _ row =>
      (row.nextAttemptAt ≤ nowMs ∧ nowMs.tdiv 1000 ≤ row.expiresAt) ∧
        row.deadLettered = false
  | .relationshipRemoval =>
    (database.relationshipRemovals.Has fun removalId row =>
      (row.open = true ∧ row.nextAttemptAt ≤ nowMs) ∧
        ¬database.keepsTombstone removalId row) →
    database.relationshipRemovals.Has fun removalId row =>
      (row.open = true ∧ row.nextAttemptAt ≤ nowMs) ∧
        database.keepsTombstone removalId row
  | .pairingResponse =>
    let due := database.pairing.inbox.rows.Has fun _ row =>
      responseDue (nowMs.tdiv 1000) row = true ∧
        row.details.nextAttemptAt ≤ nowMs
    let unreadable := database.pairing.inbox.rows.Has fun _ row =>
      offersWelcome (nowMs.tdiv 1000) row ∧ row.details.offerPayload = none
    (due → ¬unreadable) ∧
      ((database.pairing.inbox.rows.Has fun _ row =>
        row.state = .rejected ∨ offersWelcome (nowMs.tdiv 1000) row) →
      due ∨ unreadable)
  | .messageAckDeadline | .readReceipt | .relationshipRemovalAck => True

theorem messageAckDeadline_agrees :
    database.DeadlineAgrees .messageAckDeadline nowMs := by
  unfold DeadlineAgrees
  rw [messageAckDeadline_hasWork_iff]
  change Due nowMs (database.messages.earliest _) ↔ _
  rw [due_earliest_iff]
  constructor
  · rintro ⟨messageId, row, at', found, timed, come⟩
    obtain ⟨awaits, deadline⟩ := Option.ite_none_right_eq_some.mp timed
    exact ⟨messageId, row, found, awaits, by simp [deadline, come]⟩
  · rintro ⟨messageId, row, found, awaits, come⟩
    obtain ⟨at', deadline, come⟩ := (Option.any_eq_true _ _).mp come
    exact ⟨messageId, row, at', found, by simp [awaits, deadline],
      of_decide_eq_true come⟩

theorem messageSend_agrees_iff :
    database.DeadlineAgrees .messageSend nowMs ↔
      database.DeadlineMatched .messageSend nowMs := by
  have floored : nowMs / 1000 * 1000 ≤ nowMs := by omega
  unfold DeadlineAgrees
  rw [messageSend_hasWork_iff]
  change (Due nowMs (database.messages.earliest _) ↔ _) ↔ _
  rw [due_earliest_where_iff]
  refine has_iff_has_of_split fun _ row => ?_
  rw [← and_or_left]
  refine and_congr_right fun _ => ?_
  omega

theorem receipt_agrees_iff :
    database.DeadlineAgrees .receipt nowMs ↔
      database.DeadlineMatched .receipt nowMs := by
  have floored : nowMs / 1000 * 1000 ≤ nowMs := by omega
  unfold DeadlineAgrees
  rw [receipt_hasWork_iff]
  change (Due nowMs (database.deliveryReceipts.earliest _) ↔ _) ↔ _
  rw [due_earliest_where_iff]
  refine has_iff_has_of_split fun _ row => ?_
  rw [← and_or_left]
  refine and_congr_right fun _ => ?_
  omega

theorem pendingWelcome_agrees_iff :
    database.DeadlineAgrees .pendingWelcome nowMs ↔
      database.DeadlineMatched .pendingWelcome nowMs := by
  unfold DeadlineAgrees
  rw [pendingWelcome_hasWork_iff]
  change (Due nowMs (database.pendingWelcomes.earliest _) ↔ _) ↔ _
  rw [due_earliest_where_iff]
  refine has_iff_has_of_split fun _ row => ?_
  cases row.deadLettered <;> simp [and_comm]

theorem relationshipRemoval_agrees_iff :
    database.DeadlineAgrees .relationshipRemoval nowMs ↔
      database.DeadlineMatched .relationshipRemoval nowMs := by
  unfold DeadlineAgrees
  rw [relationshipRemoval_hasWork_iff]
  change (Due nowMs (database.relationshipRemovals.earliest _) ↔ _) ↔ _
  rw [due_earliest_where_iff]
  refine has_iff_has_of_split fun removalId row => ?_
  rw [← and_or_left]
  exact (and_iff_left (Classical.em _)).symm

theorem readReceipt_agrees : database.DeadlineAgrees .readReceipt nowMs := by
  unfold DeadlineAgrees
  rw [readReceipt_hasWork_iff]
  change Due nowMs (database.readReceiptOutbox.earliest _) ↔ _
  rw [due_earliest_iff]
  simp [Has]

theorem relationshipRemovalAck_agrees :
    database.DeadlineAgrees .relationshipRemovalAck nowMs := by
  unfold DeadlineAgrees
  rw [relationshipRemovalAck_hasWork_iff]
  change Due nowMs (database.relationshipRemovalAcks.earliest _) ↔ _
  rw [due_earliest_where_iff]

theorem answered_of_responseDue (due : responseDue nowSecs row = true) :
    row.state = .rejected ∨ offersWelcome nowSecs row := by
  simp only [responseDue, Bool.and_eq_true, decide_eq_true_eq,
    Bool.or_eq_true] at due
  obtain ⟨⟨unexpired, _⟩, accepted | rejected⟩ := due
  · exact .inr ⟨accepted, unexpired⟩
  · exact .inl rejected

theorem pairingResponse_agrees_iff :
    database.DeadlineAgrees .pairingResponse nowMs ↔
      database.DeadlineMatched .pairingResponse nowMs := by
  unfold DeadlineAgrees
  rw [pairingResponse_hasWork_iff]
  change (Due nowMs (database.pairing.inbox.rows.earliest _) ↔ _) ↔ _
  rw [due_earliest_where_iff]
  have answered : (database.pairing.inbox.rows.Has fun _ row =>
      responseDue (nowMs.tdiv 1000) row = true ∧
        row.details.nextAttemptAt ≤ nowMs) →
      database.pairing.inbox.rows.Has fun _ row =>
        row.state = .rejected ∨ offersWelcome (nowMs.tdiv 1000) row := by
    rintro ⟨pairingId, row, found, due, _⟩
    exact ⟨pairingId, row, found, answered_of_responseDue due⟩
  unfold DeadlineMatched
  tauto

end Database

/-- At every instant the deadline of a kind has come exactly when its flush finds
work, as long as no row stands alone that only one of the two takes into
account. -/
theorem retry_deadline_agrees_iff
    (database : Database) (nowMs : Int) (kind : RetryKind) :
    database.DeadlineAgrees kind nowMs ↔ database.DeadlineMatched kind nowMs := by
  cases kind with
  | messageSend => exact Database.messageSend_agrees_iff
  | pairingResponse => exact Database.pairingResponse_agrees_iff
  | messageAckDeadline =>
    exact iff_of_true Database.messageAckDeadline_agrees trivial
  | receipt => exact Database.receipt_agrees_iff
  | pendingWelcome => exact Database.pendingWelcome_agrees_iff
  | readReceipt => exact iff_of_true Database.readReceipt_agrees trivial
  | relationshipRemoval => exact Database.relationshipRemoval_agrees_iff
  | relationshipRemovalAck =>
    exact iff_of_true Database.relationshipRemovalAck_agrees trivial

def welcomeGivenUp : Database :=
  machine.run .empty
    [.putPendingWelcome "invite"
      { recipientInstallationId := "alice", payload := [], expiresAt := 100 },
    .recordPendingWelcomeError "invite" "permanent: refused"]

theorem deadline_of_a_welcome_given_up :
    welcomeGivenUp.retryDeadline .pendingWelcome 5 = some 0 ∧
      welcomeGivenUp.duePendingWelcomes 5000 5 = [] ∧
      ¬welcomeGivenUp.DeadlineAgrees .pendingWelcome 5000 := by
  have deadline : welcomeGivenUp.retryDeadline .pendingWelcome 5 = some 0 := by
    decide +kernel
  have idle : welcomeGivenUp.duePendingWelcomes 5000 5 = [] := by
    decide +kernel
  exact ⟨deadline, idle, fun agrees =>
    agrees.mp ⟨0, deadline, by decide⟩ idle⟩

end Storage

namespace Storage.Database

def nextContactPeerRetryDeadlineMs
    (installationId : InstallationId) (database : Database) : Option Int :=
  database.outboundDeliveries.earliest fun row =>
    if row.contactInstallationId = installationId ∧ row.state = .queued then
      some row.nextAttemptAt
    else none

def nextContactReceiptRetryDeadlineMs
    (installationId : InstallationId) (database : Database) : Option Int :=
  database.deliveryReceipts.earliest fun row =>
    if row.originalSender = installationId ∧ row.state = .pending then
      some row.nextAttemptAt
    else none

def contactRetryDeadlineMs
    (installationId : InstallationId) (database : Database) : Option Int :=
  let outbound := database.nextContactPeerRetryDeadlineMs installationId
  let receipt := database.nextContactReceiptRetryDeadlineMs installationId
  (outbound.toList ++ receipt.toList).min?

/-- `saturating_sub` of `i64`, cast to `u64`. -/
def peerRetryInMs (nowMs : Int) (installationId : InstallationId)
    (database : Database) : Option Nat :=
  (database.contactRetryDeadlineMs installationId).map fun deadline =>
    (Retry.saturate (deadline - nowMs) % 2 ^ 64).toNat

/-- A delivery or a receipt for the contact waits until then. -/
def WaitsUntil (database : Database) (contact : InstallationId) (time : Int) :
    Prop :=
  (database.outboundDeliveries.Has fun _ row =>
    row.contactInstallationId = contact ∧ row.state = .queued ∧
      row.nextAttemptAt = time) ∨
  database.deliveryReceipts.Has fun _ row =>
    row.originalSender = contact ∧ row.state = .pending ∧
      row.nextAttemptAt = time

theorem least_waitsUntil (database : Database) (contact : InstallationId) :
    Least (database.WaitsUntil contact)
      (database.contactRetryDeadlineMs contact) := by
  have either := (least_earliest database.outboundDeliveries fun row =>
    if row.contactInstallationId = contact ∧ row.state = .queued then
      some row.nextAttemptAt
    else none).or (least_earliest database.deliveryReceipts fun row =>
      if row.originalSender = contact ∧ row.state = .pending then
        some row.nextAttemptAt
      else none)
  simp only [Option.ite_none_right_eq_some, Option.some_inj, and_assoc] at either
  exact either

/-- The reported time is that until the earliest deadline, unless this has passed:
then the difference wraps. -/
theorem peer_retry_time_is_exact_iff (database : Database) (nowMs : Int)
    (contact : InstallationId) :
    Table.Least (database.WaitsUntil contact)
      (database.contactRetryDeadlineMs contact) ∧
    (database.peerRetryInMs nowMs contact =
        (database.contactRetryDeadlineMs contact).map (fun deadline =>
          (deadline - nowMs).toNat) ↔
      (∀ time, database.WaitsUntil contact time → nowMs ≤ time) ∧
      ((∃ time, database.WaitsUntil contact time) →
        ∃ time, database.WaitsUntil contact time ∧ time - nowMs < 2 ^ 63)) := by
  have least := least_waitsUntil database contact
  refine ⟨least, ?_⟩
  unfold peerRetryInMs
  cases chosen : database.contactRetryDeadlineMs contact with
  | none =>
    have idle : ∀ time, ¬ database.WaitsUntil contact time := by
      intro time waits
      obtain ⟨_, held, _⟩ := least.first time waits
      rw [chosen] at held
      cases held
    exact iff_of_true rfl ⟨fun time waits => absurd waits (idle time),
      fun ⟨time, waits⟩ => absurd waits (idle time)⟩
  | some deadline =>
    have own := least.held deadline chosen
    have first : ∀ time, database.WaitsUntil contact time → deadline ≤ time := by
      intro time waits
      obtain ⟨_, held, before⟩ := least.first time waits
      cases chosen.symm.trans held
      exact before
    simp only [Option.map_some, Option.some_inj, Retry.saturate]
    constructor
    · intro exact'
      have timely : nowMs ≤ deadline ∧ deadline - nowMs < 2 ^ 63 := by omega
      exact ⟨fun time waits => timely.1.trans (first time waits),
        fun _ => ⟨deadline, own, timely.2⟩⟩
    · rintro ⟨timely, near⟩
      have now := timely deadline own
      obtain ⟨time, waits, close⟩ := near ⟨deadline, own⟩
      have before := first time waits
      omega

def queuedUntil (time : Int) : Database :=
  { Database.empty with
    outboundDeliveries := Table.empty.insert 1
      ⟨"alice", .queued, 1, time, none, none, 0⟩ }

theorem later_deadline_is_exact :
    (queuedUntil 9000).peerRetryInMs 5000 "alice" = some 4000 := by
  obtain ⟨least, exact'⟩ :=
    peer_retry_time_is_exact_iff (queuedUntil 9000) 5000 "alice"
  have deadline : (queuedUntil 9000).contactRetryDeadlineMs "alice" =
      some 9000 := by
    decide +kernel
  rw [deadline] at least exact'
  refine exact'.mpr ⟨fun time waits => ?_, fun _ => ⟨9000, least.held _ rfl, ?_⟩⟩
  · obtain ⟨_, ⟨⟩, before⟩ := least.first time waits
    exact Int.le_trans (by decide) before
  · decide

/-- A deadline that requeueing has set to zero. -/
theorem overdue_deadline_wraps :
    (queuedUntil 0).peerRetryInMs 5000 "alice" = some (2 ^ 64 - 5000) := by
  decide +kernel

end Storage.Database

end Torchat
