import Torchat.Storage.Footprints

namespace Torchat.Storage

open Foundation Table

namespace Database

variable {contact : InstallationId} {before after : Database}

def Alters (contact : InstallationId) (before after : Database) : Prop :=
  ∃ messageId,
    after.messages.lookup messageId ≠ before.messages.lookup messageId ∧
    ∃ row, (row ∈ before.messages.lookup messageId ∨
        row ∈ after.messages.lookup messageId) ∧
      row.message.conversationId = contact

theorem Alters.cases (alters : Alters contact first third) (second : Database) :
    Alters contact first second ∨ Alters contact second third := by
  obtain ⟨messageId, differs, row, held, own⟩ := alters
  by_cases one : second.messages.lookup messageId =
      first.messages.lookup messageId
  · rw [← one] at differs held
    exact .inr ⟨messageId, differs, row, held, own⟩
  · by_cases two : third.messages.lookup messageId =
        second.messages.lookup messageId
    · rw [two] at held
      exact .inl ⟨messageId, one, row, held, own⟩
    · rcases held with old | new
      · exact .inl ⟨messageId, one, row, .inl old, own⟩
      · exact .inr ⟨messageId, two, row, .inr new, own⟩

theorem Alters.of_messages (alters : Alters contact before second)
    (same : second.messages = third.messages) :
    Alters contact before third := by
  unfold Alters at alters
  rw [same] at alters
  exact alters

def revisions (database : Database) : Nat × Table InstallationId Nat :=
  (database.globalRevision, database.conversationRevisions)

def Beside (before after : Database) : Prop :=
  (after.messages, after.revisions) = (before.messages, before.revisions)

instance Beside.frame : Frame Beside :=
  .of_eq fun database : Database => (database.messages, database.revisions)

theorem Beside.messages
    (beside : Beside before after) : after.messages = before.messages :=
  congrArg Prod.fst beside

theorem Beside.revisions
    (beside : Beside before after) : after.revisions = before.revisions :=
  congrArg Prod.snd beside

theorem Beside.unaltered
    (beside : Beside before after) : ¬ Alters contact before after := by
  rintro ⟨messageId, differs, _⟩
  rw [beside.messages] at differs
  exact differs rfl

instance : (execute (putOperation operation)).Keeps Beside :=
  .total fun _ => rfl

instance (conversation : ConversationSummary) :
    (execute (putConversation conversation)).Keeps Beside :=
  .execute fun _ _ done => by
    obtain ⟨_, _, written⟩ := bind_eq_ok.mp done
    cases written
    rfl

instance : (execute (enqueueOutboundDelivery messageId contact
      createdAtSecs)).Keeps Beside :=
  .execute fun _ _ done => by
    obtain ⟨_, _, done⟩ := bind_eq_ok.mp done
    obtain ⟨_, _, written⟩ := bind_eq_ok.mp done
    cases written
    rfl

instance : (execute (requeueOutboundDelivery messageId retryAt error)).Keeps
      Beside :=
  .execute fun _ _ done => by
    unfold requeueOutboundDelivery at done
    split at done
    · cases done
      rfl
    · cases done

instance : (execute (completeOutboundDelivery messageId)).Keeps Beside :=
  .total fun _ => rfl

instance : (execute (putDeliveryReceipt messageId receipt)).Keeps Beside :=
  .total fun _ => rfl

instance putConversationMlsSnapshot_beside
    (contact : InstallationId) (snapshot : Bytes) :
    (execute (putConversationMlsSnapshot contact snapshot)).Keeps
      Beside :=
  .execute fun _ _ done => by
    unfold putConversationMlsSnapshot at done
    split at done
    · cases done
      rfl
    · obtain ⟨_, _, written⟩ := bind_eq_ok.mp done
      cases written
      rfl

instance : (execute (putReceivedEnvelope sender messageId envelope)).Keeps
      Beside :=
  .execute fun _ _ done => by
    unfold putReceivedEnvelope at done
    split at done
    · cases done
    · cases done
      rfl

instance : (execute (putRelationshipRemovalAck removalId contact
      epoch payload)).Keeps Beside :=
  .total fun _ => rfl

instance : (Program.modify (recordApplied sender messageId) :
      Program Database RuntimeError Unit).Keeps Beside :=
  .modify fun _ => rfl

/-! One row. -/

def Own (messageId : Uuid) (conversationId : InstallationId)
    (database : Database) : Prop :=
  ∀ row ∈ database.messages.lookup messageId,
    row.message.conversationId = conversationId

structure Touches (messageId : Uuid) (conversationId : InstallationId)
    (before after : Database) : Prop where
  others : ∀ other, other ≠ messageId →
    after.messages.lookup other = before.messages.lookup other
  own : Own messageId conversationId before → Own messageId conversationId after
  revisions : after.revisions = before.revisions

theorem Touches.alters (touches : Touches messageId conversationId before after)
    (own : Own messageId conversationId before)
    (alters : Alters contact before after) : contact = conversationId := by
  obtain ⟨other, differs, row, held, rfl⟩ := alters
  by_cases same : other = messageId
  · subst same
    rcases held with old | new
    · exact own row old
    · exact touches.own own row new
  · exact absurd (touches.others other same) differs

variable {message : ChatMessage}

theorem putMessage_lookup (done : putMessage message before = .ok after) :
    ∃ wire, ∀ messageId, after.messages.lookup messageId =
      if messageId = message.id then some ⟨message, wire⟩
      else before.messages.lookup messageId := by
  obtain ⟨_, _, written⟩ := bind_eq_ok.mp done
  cases written
  exact ⟨_, fun messageId => lookup_insert _ _ messageId _⟩

theorem putMessage_touches (done : putMessage message before = .ok after) :
    Touches message.id message.conversationId before after := by
  obtain ⟨wire, lookup⟩ := putMessage_lookup done
  refine ⟨fun other differs => (lookup other).trans (if_neg differs), ?_, ?_⟩
  · intro _ row held
    rw [lookup, if_pos rfl] at held
    cases held
    rfl
  · obtain ⟨_, _, written⟩ := bind_eq_ok.mp done
    cases written
    rfl

theorem deleteMessage_touches
    (done : deleteMessage messageId before = .ok after) :
    Touches messageId contact before after := by
  cases done
  have erased : ∀ other, (before.messages.erase messageId).lookup other =
      if other = messageId then none else before.messages.lookup other :=
    lookup_erase _ _
  refine ⟨fun other differs => (erased other).trans (if_neg differs), ?_, rfl⟩
  intro _ row held
  cases ((erased messageId).trans (if_pos rfl)).symm.trans held

theorem touches_of_modify
    (modified : after.messages = before.messages.modify messageId change)
    (stays : ∀ row, (change row).message.conversationId =
      row.message.conversationId)
    (revisions : after.revisions = before.revisions) :
    Touches messageId contact before after := by
  refine ⟨fun other differs => ?_, fun own row held => ?_, revisions⟩
  · rw [modified, lookup_modify, if_neg differs]
  · rw [modified, lookup_modify, if_pos rfl] at held
    obtain ⟨old, found, rfl⟩ := Option.map_eq_some_iff.mp held
    rw [stays]
    exact own old found

theorem persistOutboundEncryption_touches
    (done : persistOutboundEncryption messageId wire contact snapshot
      before = .ok after) : Touches messageId place before after := by
  unfold persistOutboundEncryption at done
  split at done
  · have beside := (putConversationMlsSnapshot_beside contact
      snapshot).run ((before.onMessages (·.modify messageId fun row =>
        { row with wireCiphertext := some wire })).expose wire)
    rw [run_execute_ok done] at beside
    have modified : after.messages = before.messages.modify messageId fun row =>
        { row with wireCiphertext := some wire } := beside.messages
    exact touches_of_modify modified (fun _ => rfl) beside.revisions
  · cases done

theorem claimOutgoingAttempt_touches
    (done : claimOutgoingAttempt messageId nextAttemptAt ackDeadline
      lastTransportError nowMs before = .ok (claimed, after)) :
    Touches messageId contact before after := by
  unfold claimOutgoingAttempt at done
  split at done
  · cases done
    exact touches_of_modify rfl (fun _ => rfl) rfl
  · cases done
    exact ⟨fun _ _ => rfl, id, rfl⟩

/-! Rows that change where they are. -/

/-- The rows that change or go are the ones that are named. -/
structure Disturbs (disturbed : Uuid → MessageRow → Bool)
    (before after : Database) : Prop where
  absent : ∀ messageId, before.messages.lookup messageId = none →
    after.messages.lookup messageId = none
  row : ∀ messageId row, before.messages.lookup messageId = some row →
    (after.messages.lookup messageId ≠ some row ↔ disturbed messageId row)
  revisions : after.revisions = before.revisions

theorem Disturbs.unaltered_iff (disturbs : Disturbs disturbed before after) :
    (∀ contact, ¬ Alters contact before after) ↔
      ∀ messageId row, before.messages.lookup messageId = some row →
        ¬ disturbed messageId row := by
  constructor
  · intro unaltered messageId row found chosen
    have differs := (disturbs.row messageId row found).mpr chosen
    rw [← found] at differs
    exact unaltered _ ⟨messageId, differs, row, .inl found, rfl⟩
  · rintro calm contact ⟨messageId, differs, row, held, _⟩
    cases found : before.messages.lookup messageId with
    | none =>
      rw [found, disturbs.absent messageId found] at differs
      exact differs rfl
    | some stored =>
      rw [found] at differs
      exact calm messageId stored found
        ((disturbs.row messageId stored found).mp differs)

theorem Disturbs.of_beside (beside : Beside before after)
    (calm : ∀ messageId row, before.messages.lookup messageId = some row →
      disturbed messageId row = false) : Disturbs disturbed before after := by
  refine ⟨fun messageId absent => ?_, fun messageId row found => ?_,
    beside.revisions⟩
  · rw [beside.messages, absent]
  · rw [beside.messages, found, calm messageId row found]
    simp

theorem Disturbs.then_beside (disturbs : Disturbs disturbed first second)
    (beside : Beside second third) : Disturbs disturbed first third := by
  refine ⟨?_, ?_, beside.revisions.trans disturbs.revisions⟩
  · rw [beside.messages]
    exact disturbs.absent
  · rw [beside.messages]
    exact disturbs.row

theorem Disturbs.after_beside (disturbs : Disturbs disturbed second third)
    (beside : Beside first second) : Disturbs disturbed first third := by
  refine ⟨?_, ?_, disturbs.revisions.trans beside.revisions⟩
  · rw [← beside.messages]
    exact disturbs.absent
  · rw [← beside.messages]
    exact disturbs.row

theorem Disturbs.of_update
    (updated : after.messages = before.messages.updateWhere chosen change)
    (moves : ∀ messageId row, before.messages.lookup messageId = some row →
      (disturbed messageId row ↔
        chosen messageId row ∧ change messageId row ≠ row))
    (revisions : after.revisions = before.revisions) :
    Disturbs disturbed before after := by
  refine ⟨fun messageId absent => ?_, fun messageId row found => ?_, revisions⟩
  · rw [updated, lookup_updateWhere, absent]
    rfl
  · rw [moves messageId row found, updated, lookup_updateWhere, found,
      Option.map_some]
    cases chosen messageId row with
    | true => simp
    | false => simp

def forfeits (contact : InstallationId) (preserveHistory : Bool)
    (database : Database) (row : MessageRow) : Bool :=
  database.conversations.contains contact &&
    row.message.conversationId = contact &&
    (!preserveHistory ||
      row.message.outgoing && MessageState.isPending row.message.state)

theorem forfeits_preserved :
    before.forfeits contact true row ↔
      (before.conversations.contains contact &&
        row.message.conversationId = contact && row.message.outgoing &&
        MessageState.isPending row.message.state) ∧
      ({ row with
        message :=
          { row.message with
            state := .failed
            nextAttemptAt := 0
            ackDeadline := none
            lastTransportError := some "relationship removed" } } :
        MessageRow) ≠ row := by
  simp only [forfeits, Bool.not_true, Bool.false_or, ← Bool.and_assoc,
    iff_self_and]
  intro chosen same
  have failed : row.message.state = .failed := by rw [← same]
  rw [failed] at chosen
  simp [MessageState.isPending] at chosen

theorem remotelyRemoved_disturbs :
    Disturbs (fun _ => before.forfeits contact true) before
      (before.remotelyRemoved contact removedAt removalId epoch) := by
  rw [remotelyRemoved_eq, blocked_eq]
  exact .of_update rfl (fun _ _ _ => forfeits_preserved) rfl

theorem locallyRemoved_disturbs :
    Disturbs (fun _ => before.forfeits contact preserve) before
      (before.locallyRemoved contact removedAt preserve removalId
        epoch) := by
  simp only [locallyRemoved, blocked_eq, Database.tombstone,
    enqueueRelationshipRemoval, blockContact, setConversationOffline,
    failPendingMessages, deleteOutboundDeliveries, deleteDeliveryReceipts,
    deleteHistory, forgetSession, onMessages, onDeliveries, onReceipts,
    contains_modify]
  cases preserve with
  | true =>
    exact .of_update rfl (fun _ _ _ => forfeits_preserved) rfl
  | false =>
    simp only [Bool.false_eq_true, if_false, contains_modify]
    refine ⟨fun messageId absent => ?_, fun messageId row found => ?_, rfl⟩
    · simp only [lookup_retain, lookup_updateWhere, absent]
      rfl
    · simp only [lookup_retain, lookup_updateWhere, found,
        Option.map_some, forfeits, Bool.not_false, Bool.true_or,
        Bool.and_true]
      cases here : before.conversations.contains contact &&
          decide (row.message.conversationId = contact) with
      | true =>
        split
        · simp [Option.filter, here]
        · simp [Option.filter, here]
      | false => simp [Option.filter, here]

theorem removeRelationshipWithId_disturbs
    (done : removeRelationshipWithId contact removedAt preserve removalId
      epoch before = .ok after) :
    Disturbs (fun _ row => !before.staleRemoval contact epoch &&
      before.forfeits contact preserve row) before after := by
  obtain ⟨_, rfl⟩ := removeRelationshipWithId_eq_ok.mp done
  cases before.staleRemoval contact epoch with
  | true => exact .of_beside rfl fun _ _ _ => rfl
  | false => exact locallyRemoved_disturbs

theorem applyRemoteRelationshipRemoval_disturbs
    (done : applyRemoteRelationshipRemoval contact removedAt removalId
      epoch before = .ok after) :
    Disturbs (fun _ row => !before.staleRemoval contact epoch &&
      before.forfeits contact true row) before after := by
  obtain ⟨_, rfl⟩ := applyRemoteRelationshipRemoval_eq_ok.mp done
  cases before.staleRemoval contact epoch with
  | true => exact .of_beside rfl fun _ _ _ => rfl
  | false => exact remotelyRemoved_disturbs

/-! The statements made outside of a transaction. -/

theorem Disturbs.of_claim
    (claimable : (before.messages.lookup messageId).any
      (MessageRow.claimable nowMs) = true)
    (modified : after.messages = before.messages.modify messageId change)
    (counted : ∀ row, (change row).message.attemptCount =
      row.message.attemptCount + 1)
    (revisions : after.revisions = before.revisions) :
    Disturbs (fun other row => other = messageId && row.claimable nowMs)
      before after := by
  refine .of_update modified (fun other row found => ?_) revisions
  by_cases same : other = messageId
  · subst same
    rw [found, Option.any_some] at claimable
    have moves : change row ≠ row := fun stays => by
      have more := counted row
      rw [stays] at more
      omega
    simp [claimable, moves]
  · simp [same]

theorem Disturbs.of_no_claim
    (idle : ¬(before.messages.lookup messageId).any
      (MessageRow.claimable nowMs) = true) :
    Disturbs (fun other row => other = messageId && row.claimable nowMs)
      before before := by
  refine .of_beside rfl fun other row found => ?_
  by_cases same : other = messageId
  · subst same
    rw [found] at idle
    simpa using idle
  · simp [same]

theorem claimOutgoingAttempt_disturbs
    (done : claimOutgoingAttempt messageId nextAttemptAt ackDeadline
      lastTransportError nowMs before = .ok (claimed, after)) :
    Disturbs (fun other row => other = messageId && row.claimable nowMs)
      before after := by
  unfold claimOutgoingAttempt at done
  split at done
  · rename_i claimable
    cases done
    exact .of_claim claimable rfl (fun _ => rfl) rfl
  · rename_i idle
    cases done
    exact .of_no_claim idle

theorem persistOutboundEncryptionAndClaim_disturbs
    (done : persistOutboundEncryptionAndClaim messageId wire contact
      snapshot nextAttemptAt ackDeadline nowMs before = .ok (claimed, after)) :
    Disturbs (fun other row => other = messageId && row.claimable nowMs)
      before after := by
  unfold persistOutboundEncryptionAndClaim at done
  split at done
  · rename_i claimable
    obtain ⟨stored, written, answered⟩ := bind_eq_ok.mp done
    cases answered
    obtain ⟨_, _, rfl⟩ := upsertSnapshot_eq written
    have modified : (before.messages.modify messageId fun row =>
        { row.claimed nowMs nextAttemptAt ackDeadline none with
          wireCiphertext := some wire }) = _ := rfl
    exact .of_claim claimable modified.symm (fun _ => rfl) rfl
  · rename_i idle
    cases done
    exact .of_no_claim idle

theorem requeueAfterDisconnect_disturbs
    (done : requeueAfterDisconnect nowMs before = .ok after) :
    Disturbs (fun _ row => row.message.outgoing &&
      decide (row.message.state = .sending)) before after := by
  cases done
  have updated : (before.messages.updateWhere
      (fun _ row => row.message.outgoing && row.message.state = .sending)
      fun _ row => row.requeued nowMs) = _ := rfl
  refine .of_update updated.symm (fun _ row _ => ?_) rfl
  rw [iff_self_and]
  intro chosen same
  have queued : row.message.state = .queued := by rw [← same]; rfl
  simp [queued] at chosen

theorem requeuePeerDeliveries_disturbs
    (done : requeuePeerDeliveries nowMs before = .ok after) :
    Disturbs (fun messageId row => row.message.outgoing &&
      decide (row.message.state = .sending) &&
      before.outboundDeliveries.contains messageId) before after := by
  cases done
  have updated : (before.messages.updateWhere (fun messageId row =>
        row.message.outgoing && row.message.state = .sending &&
          ((before.outboundDeliveries.updateWhere
            (fun _ row => row.state = .inFlight)
            fun _ row =>
              { row with
                state := .queued
                nextAttemptAt := nowMs
                ackDeadline := none }).lookup messageId).any
            fun delivery => delivery.state = .queued)
      fun _ row => row.requeued nowMs) = _ := rfl
  refine .of_update updated.symm (fun messageId row _ => ?_) rfl
  have moves : row.message.state = .sending → row.requeued nowMs ≠ row := by
    intro sending same
    have queued : row.message.state = .queued := by rw [← same]; rfl
    cases queued.symm.trans sending
  have waits : ((before.outboundDeliveries.updateWhere
      (fun _ row => row.state = .inFlight)
      fun _ row =>
        { row with
          state := .queued
          nextAttemptAt := nowMs
          ackDeadline := none }).lookup messageId).any
        (fun delivery => delivery.state = .queued) =
      before.outboundDeliveries.contains messageId := by
    rw [lookup_updateWhere, contains]
    cases before.outboundDeliveries.lookup messageId with
    | none => rfl
    | some delivery =>
      cases waiting : delivery.state with
      | queued | inFlight => simp [waiting]
  rw [waits]
  simp only [Bool.and_eq_true, decide_eq_true_eq, iff_self_and]
  exact fun chosen => moves chosen.1.2

theorem expediteMessages_disturbs
    (done : expediteMessages contact before = .ok after) :
    Disturbs (fun _ row => row.message.conversationId = contact &&
      row.message.outgoing && MessageState.isPending row.message.state &&
      !(row.message.state = .queued && row.message.nextAttemptAt = 0 &&
        row.message.ackDeadline = none)) before after := by
  cases done
  have updated : (before.messages.updateWhere
      (fun _ row => row.message.conversationId = contact &&
        row.message.outgoing && MessageState.isPending row.message.state)
      fun _ row => row.requeued 0) = _ := rfl
  refine .of_update updated.symm (fun _ row _ => ?_) rfl
  have stays : row.requeued 0 = row ↔ row.message.state = .queued ∧
      row.message.nextAttemptAt = 0 ∧ row.message.ackDeadline = none := by
    constructor
    · intro same
      rw [← same]
      exact ⟨rfl, rfl, rfl⟩
    · rintro ⟨queued, due, unbounded⟩
      rw [MessageRow.requeued, ← queued, ← due, ← unbounded]
  rw [ne_eq, stays]
  simp only [Bool.and_eq_true, Bool.not_eq_true', decide_eq_true_eq,
    Bool.and_eq_false_iff, decide_eq_false_iff_not, not_and_or, or_assoc]

/-! Revisions. -/

def conversationRevision
    (contact : InstallationId) (database : Database) : Nat :=
  (database.conversationRevisions.lookup contact).getD 0

/-- No conversation is ahead of the head. -/
def Revised (database : Database) : Prop :=
  ∀ contact, database.conversationRevision contact ≤ database.globalRevision

theorem conversationRevision_of_revisions
    (same : after.revisions = before.revisions) (contact : InstallationId) :
    after.conversationRevision contact = before.conversationRevision contact :=
  congrArg (fun revisions => (revisions.2.lookup contact).getD 0) same

theorem Revised.of_revisions (revised : Revised before)
    (same : after.revisions = before.revisions) : Revised after := by
  intro contact
  rw [conversationRevision_of_revisions same,
    show after.globalRevision = _ from congrArg Prod.fst same]
  exact revised contact

theorem foldlM_putConversationRevision_lookup
    {conversationIds : List InstallationId}
    (done : conversationIds.foldlM (putConversationRevision revision) before =
      .ok after) (contact : InstallationId) :
    after.conversationRevisions.lookup contact =
      if contact ∈ conversationIds then some revision
      else before.conversationRevisions.lookup contact := by
  induction conversationIds generalizing before with
  | nil =>
    cases done
    rfl
  | cons conversationId rest induction =>
    obtain ⟨middle, put, done⟩ := bind_eq_ok.mp done
    obtain ⟨_, written⟩ := requireRow_bind_eq_ok.mp put
    cases written
    rw [induction done, lookup_insert]
    by_cases later : contact ∈ rest
    · simp [later]
    · simp [later]

theorem bumpProjectionRevision_revision
    (bumped : bumpProjectionRevision conversationIds before = .ok after)
    (contact : InstallationId) :
    after.conversationRevision contact =
      if contact ∈ conversationIds then before.globalRevision + 1
      else before.conversationRevision contact := by
  rw [conversationRevision, foldlM_putConversationRevision_lookup bumped]
  split
  · rfl
  · rfl

end Database

end Torchat.Storage
