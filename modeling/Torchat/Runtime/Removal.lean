import Torchat.Runtime.Operations
import Torchat.Storage.Calls

namespace Torchat

open Foundation

namespace Storage.Database

structure Cleared (contact : InstallationId) (database : Database) : Prop where
  snapshot : database.conversationMls.lookup contact = none
  endpoint : database.contactPeerEndpoints.lookup contact = none
  deliveries : ∀ messageId row,
    database.outboundDeliveries.lookup messageId = some row →
      row.contactInstallationId ≠ contact
  receipts : ∀ messageId row,
    database.deliveryReceipts.lookup messageId = some row →
      row.conversationId ≠ contact

def HistoryCleared (contact : InstallationId) (database : Database) : Prop :=
  ∀ messageId row, database.messages.lookup messageId = some row →
    row.message.conversationId ≠ contact

def RemovalQueued (contact : InstallationId) (database : Database) : Prop :=
  ∃ removalId row, database.relationshipRemovals.lookup removalId = some row ∧
    row.contactInstallationId = contact ∧
    (row.state = .pending ∨ row.state = .dispatched ∨
      row.state = .waitingForAck)

def ReadReceiptsCleared
    (contact : InstallationId) (database : Database) : Prop :=
  ∀ receiptId row, database.readReceiptOutbox.lookup receiptId = some row →
    row.contactInstallationId ≠ contact

structure Removed (contact : InstallationId) (preserveHistory : Bool)
    (database : Database) : Prop where
  cleared : Cleared contact database
  queued : RemovalQueued contact database
  history : preserveHistory = false → HistoryCleared contact database

/-- The statements of a removal find their rows through the conversation, and
its own row in the outbox under a removal id that is free. -/
structure Unhindered (contact : InstallationId) (preserveHistory : Bool)
    (removalId : String) (database : Database) : Prop where
  reached : database.conversations.contains contact = false →
    database.conversationMls.lookup contact = none ∧
      (∀ messageId row, database.deliveryReceipts.lookup messageId = some row →
        row.conversationId ≠ contact) ∧
      (preserveHistory = false → HistoryCleared contact database)
  vacant : database.relationshipRemovals.lookup removalId = none ∨
    RemovalQueued contact database

section

variable {contact : InstallationId} {database : Database}

/-! Each of these is about other tables than the operations. -/

theorem Removed.of_operations
    (removed : Removed contact preserve database) :
    Removed contact preserve
      { database with durableOperations := operations } :=
  ⟨⟨removed.cleared.snapshot, removed.cleared.endpoint,
    removed.cleared.deliveries, removed.cleared.receipts⟩, removed.queued,
    removed.history⟩

theorem removed_operations_iff :
    Removed contact preserve
        { database with durableOperations := operations } ↔
      Removed contact preserve database :=
  ⟨fun removed => show Removed contact preserve
      { { database with durableOperations := operations } with
        durableOperations := database.durableOperations } from
      removed.of_operations, .of_operations⟩

/-! The tables a local removal leaves, one by one. -/

theorem forgetSession_snapshot_iff :
    (database.forgetSession contact).conversationMls.lookup contact = none ↔
      (database.conversations.contains contact = false →
        database.conversationMls.lookup contact = none) := by
  unfold forgetSession
  cases database.conversations.contains contact <;> simp

theorem deleteDeliveryReceipts_cleared_iff :
    (∀ messageId row,
        (database.deleteDeliveryReceipts contact).deliveryReceipts.lookup
            messageId = some row →
          row.conversationId ≠ contact) ↔
      (database.conversations.contains contact = false →
        ∀ messageId row,
          database.deliveryReceipts.lookup messageId = some row →
            row.conversationId ≠ contact) := by
  unfold deleteDeliveryReceipts onReceipts
  cases database.conversations.contains contact with
  | false => simp [Option.filter_eq_some_iff]
  | true => simp +contextual [Option.filter_eq_some_iff]

theorem enqueueRelationshipRemoval_queued_iff :
    RemovalQueued contact (database.enqueueRelationshipRemoval removalId contact
        epoch preserve) ↔
      database.relationshipRemovals.lookup removalId = none ∨
        RemovalQueued contact database := by
  unfold enqueueRelationshipRemoval
  cases found : database.relationshipRemovals.lookup removalId with
  | some row =>
    have taken : database.relationshipRemovals.contains removalId = true :=
      Table.contains_iff.mpr ⟨row, found⟩
    simp only [Table.insertNew_of_contains taken, reduceCtorEq, false_or]
  | none =>
    simp only [true_or, iff_true]
    refine ⟨removalId, ⟨contact, epoch, preserve, .pending,
      0, 0⟩, ?_, rfl, .inl rfl⟩
    simp [Table.insertNew, Table.contains, found]

theorem locallyRemoved_removed_iff :
    Removed contact preserve (database.locallyRemoved contact removedAt
        preserve removalId epoch) ↔
      Unhindered contact preserve removalId database := by
  obtain ⟨messages, deliveries, removed, gone, undelivered, kept⟩ :=
    @locallyRemoved_eq database contact removedAt preserve removalId
      epoch
  rw [removed]
  constructor
  · rintro ⟨⟨snapshot, _, _, receipts⟩, queued, history⟩
    refine ⟨fun absent => ⟨forgetSession_snapshot_iff.mp snapshot absent,
      deleteDeliveryReceipts_cleared_iff.mp receipts absent, ?_⟩,
      enqueueRelationshipRemoval_queued_iff.mp queued⟩
    intro erased messageId row found
    exact history erased messageId row ((kept absent messageId).trans found)
  · rintro ⟨reached, vacant⟩
    refine ⟨⟨forgetSession_snapshot_iff.mpr fun absent => (reached absent).1,
      ?_, undelivered,
      deleteDeliveryReceipts_cleared_iff.mpr fun absent => (reached absent).2.1⟩,
      enqueueRelationshipRemoval_queued_iff.mpr vacant, ?_⟩
    · simp [forgetSession]
    · intro erased messageId row found
      cases present : database.conversations.contains contact with
      | true => exact gone erased present messageId row found
      | false =>
        exact (reached present).2.2 erased messageId row
          ((kept present messageId).symm.trans found)

/-- A removal of that epoch takes effect, or has already. -/
inductive Removable (contact : InstallationId) (preserveHistory : Bool)
    (removalId : String) (relationshipEpoch : Int) (database : Database) : Prop
  | outdated
      (older : database.staleRemoval contact relationshipEpoch = true)
      (removed : Removed contact preserveHistory database)
  | current
      (newer : database.staleRemoval contact relationshipEpoch = false)
      (unhindered : Unhindered contact preserveHistory removalId database)

theorem removeRelationshipWithId_removed_iff
    (done : database.removeRelationshipWithId contact removedAt preserve
      removalId epoch = .ok after) :
    Removed contact preserve after ↔
      Removable contact preserve removalId epoch
        database := by
  obtain ⟨_, rfl⟩ := removeRelationshipWithId_eq_ok.mp done
  cases stale : database.staleRemoval contact epoch with
  | true =>
    refine ⟨fun removed => .outdated stale removed, ?_⟩
    rintro (⟨_, removed⟩ | ⟨newer, _⟩)
    · exact removed
    · exact absurd (stale.symm.trans newer) nofun
  | false =>
    refine locallyRemoved_removed_iff.trans
      ⟨fun unhindered => .current stale unhindered, ?_⟩
    rintro (⟨older, _⟩ | ⟨_, unhindered⟩)
    · exact absurd (stale.symm.trans older) nofun
    · exact unhindered

theorem removable_operations_iff :
    Removable contact preserve removalId epoch
        { database with durableOperations := operations } ↔
      Removable contact preserve removalId epoch
        database := by
  constructor
  · rintro (⟨older, removed⟩ | ⟨newer, reached, vacant⟩)
    · exact .outdated older (removed_operations_iff.mp removed)
    · exact .current newer ⟨reached, vacant⟩
  · rintro (⟨older, removed⟩ | ⟨newer, reached, vacant⟩)
    · exact .outdated older removed.of_operations
    · exact .current newer ⟨reached, vacant⟩

theorem locallyRemoved_readReceipts :
    (database.locallyRemoved contact removedAt preserve removalId
      epoch).readReceiptOutbox = database.readReceiptOutbox := by
  obtain ⟨_, _, removed, _⟩ := @locallyRemoved_eq database contact removedAt
    preserve removalId epoch
  rw [removed]
  rfl

theorem removeRelationshipWithId_readReceipts
    (done : database.removeRelationshipWithId contact removedAt preserve
      removalId epoch = .ok after) :
    after.readReceiptOutbox = database.readReceiptOutbox := by
  obtain ⟨_, rfl⟩ := removeRelationshipWithId_eq_ok.mp done
  split
  · rfl
  · exact locallyRemoved_readReceipts

end

end Storage.Database

open Storage

namespace Runtime

theorem requireText_bind_ok
    (ran : (requireText text message >>= rest) runtime =
      (.ok value, after)) : rest () runtime = (.ok value, after) := by
  obtain ⟨_, middle, required, followed⟩ := bind_ok ran
  unfold requireText at required
  split at required
  · cases required
  · cases required
    exact followed

theorem operationById_ok
    (ran : operationById operationId runtime = (.ok found, after)) :
    found = runtime.database.durableOperations.lookup operationId ∧
      after = runtime.tick :=
  query_ok (requireText_bind_ok ran)

theorem write_bind_ok
    (ran : (write statement >>= rest) runtime = (.ok result, final)) :
    ∃ next, statement runtime.database = .ok next.database ∧
      rest () next = (.ok result, final) := by
  obtain ⟨_, next, wrote, followed⟩ := bind_ok ran
  obtain ⟨database, done, rfl⟩ := write_ok wrote
  exact ⟨_, done, followed⟩

theorem ofExcept_bind_ok
    (ran : (ofExcept computed >>= rest) runtime = (.ok result, final)) :
    ∃ value, computed = .ok value ∧ rest value runtime = (.ok result, final) := by
  cases computed with
  | error error => cases ran
  | ok value => exact ⟨value, rfl, ran⟩

variable {operation : DurableOperation}

theorem bindDescriptor_eq
    (done : operation.bindDescriptor descriptor = .ok bound) :
    bound = { operation with
        commandDescriptor := some (operation.commandDescriptor.getD descriptor) } ∧
      ∀ existing ∈ operation.commandDescriptor, existing = descriptor := by
  unfold DurableOperation.bindDescriptor at done
  cases held : operation.commandDescriptor with
  | none =>
    rw [held] at done
    cases done
    exact ⟨rfl, nofun⟩
  | some existing =>
    rw [held] at done
    dsimp only at done
    split at done
    · rename_i same
      cases done
      refine ⟨by rw [Option.getD_some, ← held], ?_⟩
      rintro _ ⟨⟩
      exact same
    · cases done

theorem bindDescriptor_ok
    (done : operation.bindDescriptor descriptor = .ok bound) :
    bound.operationId = operation.operationId ∧
      bound.operationType = operation.operationType ∧
      bound.entityId = operation.entityId ∧ bound.state = operation.state := by
  obtain ⟨rfl, _⟩ := bindDescriptor_eq done
  exact ⟨rfl, rfl, rfl, rfl⟩

theorem refuseTerminal_bind_ok
    (ran : (refuseTerminal operation message >>= rest) runtime =
      (.ok result, final)) :
    operation.state ≠ .cancelled ∧ operation.state ≠ .failedPermanent ∧
      rest () runtime = (.ok result, final) := by
  obtain ⟨_, middle, passed, followed⟩ := bind_ok ran
  unfold refuseTerminal at passed
  split at passed
  · cases passed
  · rename_i open'
    cases passed
    rw [not_or] at open'
    exact ⟨open'.1, open'.2, followed⟩

theorem requestRelationshipRemoval_ok {changed : Bool}
    (ran : requestRelationshipRemoval operationId descriptor contact
      preserve removalId removedAt runtime = (.ok changed, after)) :
    (after.database = runtime.database ∧ changed = false ∧
      ∃ held, runtime.database.durableOperations.lookup operationId = some held ∧
        held.state = .completed) ∨
    ∃ operation begun removed, changed = true ∧
      operation.operationType = .relationshipRemoval ∧
      operation.operationId =
        (runtime.database.durableOperations.lookup operationId).elim operationId
          DurableOperation.operationId ∧
      (∀ held, runtime.database.durableOperations.lookup operationId =
        some held → held.state ≠ .completed) ∧
      runtime.database.putOperation operation = .ok begun ∧
      begun.removeRelationshipWithId contact removedAt preserve removalId
        (Database.epochAfter
          (runtime.database.currentRelationshipEpoch contact)) =
        .ok removed ∧
      removed.putOperation (operation.finish .completed none removedAt) =
        .ok after.database := by
  replace ran := requireText_bind_ok ran
  replace ran := requireText_bind_ok ran
  replace ran := requireText_bind_ok ran
  obtain ⟨found, _, looked, ran⟩ := bind_ok ran
  obtain ⟨rfl, rfl⟩ := operationById_ok looked
  simp only [fail_bind] at ran
  split at ran
  · cases ran
  · rename_i belongs
    rw [not_or, not_ne_iff, not_ne_iff] at belongs
    obtain ⟨bound, binding, ran⟩ := ofExcept_bind_ok ran
    obtain ⟨named, typed, _, same⟩ := bindDescriptor_ok binding
    split at ran
    · rename_i completed
      cases ran
      refine .inl ⟨rfl, rfl, ?_⟩
      cases held : runtime.database.durableOperations.lookup operationId with
      | none =>
        rw [held] at same
        cases same.symm.trans completed
      | some operation =>
        rw [held] at same
        exact ⟨operation, rfl, same.symm.trans completed⟩
    · rename_i pending
      obtain ⟨_, _, ran⟩ := refuseTerminal_bind_ok ran
      obtain ⟨second, begun, ran⟩ := write_bind_ok ran
      obtain ⟨epoch, _, asked, ran⟩ := bind_ok ran
      obtain ⟨rfl, rfl⟩ := query_ok asked
      obtain ⟨third, removed, ran⟩ := write_bind_ok ran
      obtain ⟨fourth, completed, ran⟩ := write_bind_ok ran
      cases ran
      refine .inr ⟨bound.beginAttempt removedAt, _, _, rfl,
        typed.trans belongs.1, ?_, ?_, begun, ?_, completed⟩
      · refine named.trans ?_
        cases runtime.database.durableOperations.lookup operationId with
        | none => rfl
        | some held => rfl
      · intro held found ended
        rw [found] at same
        exact pending (same.trans ended)
      · have epoch : second.database.currentRelationshipEpoch contact =
            runtime.database.currentRelationshipEpoch contact := by
          rw [← Except.ok.inj begun]
          rfl
        rw [← epoch]
        exact removed

end Runtime

/-- A request that reports a new removal completed leaves nothing of the contact
exactly when the removal was not outdated by a tombstone; the read receipts it
never touches. -/
theorem requested_removal_takes_effect_iff
    {operationId descriptor : String} {contact : InstallationId}
    {preserveHistory changed : Bool} {removalId : String} {removedAt : Int}
    {runtime after : Runtime}
    (fresh : runtime.database.durableOperations.lookup operationId = none)
    (ran : Runtime.requestRelationshipRemoval operationId descriptor contact
      preserveHistory removalId removedAt runtime = (.ok changed, after)) :
    (Database.Removed contact preserveHistory after.database ↔
        Database.Removable contact preserveHistory removalId
          (Database.epochAfter
            (runtime.database.currentRelationshipEpoch contact))
          runtime.database) ∧
      (Database.ReadReceiptsCleared contact after.database ↔
        Database.ReadReceiptsCleared contact runtime.database) := by
  obtain ⟨_, _, _, held, _⟩ |
      ⟨_, _, removed, _, _, _, _, begun, applied, completed⟩ :=
    Runtime.requestRelationshipRemoval_ok ran
  · cases fresh.symm.trans held
  cases begun
  rw [← Except.ok.inj completed, Database.removed_operations_iff,
    Database.removeRelationshipWithId_removed_iff applied,
    Database.removable_operations_iff]
  refine ⟨.rfl, ?_⟩
  simp only [Database.ReadReceiptsCleared,
    Database.removeRelationshipWithId_readReceipts applied]

def removedByAlice (relationshipEpoch : Int) : Runtime where
  database := Storage.machine.run .empty (Storage.meetingAlice ++
    [.putConversationMlsSnapshot "alice" [1],
      .applyRemoteRelationshipRemoval "alice" 5 "hers" relationshipEpoch])
  session := .new
  host := .initial (.calm 7)

def removeAlice : Runtime.Call Bool :=
  Runtime.requestRelationshipRemoval "operation" "descriptor" "alice" true
    "ours" 7

theorem removal_after_an_early_one_takes_effect :
    Database.Removed "alice" true (removeAlice (removedByAlice 1)).2.database :=
  (requested_removal_takes_effect_iff
    (show (removedByAlice 1).database.durableOperations.lookup "operation" =
      none by decide +kernel)
    (show removeAlice (removedByAlice 1) =
      (.ok true, (removeAlice (removedByAlice 1)).2) from rfl)).1.mpr
    (.current (by decide +kernel)
      ⟨fun absent => absurd absent (by decide +kernel), .inl (by decide +kernel)⟩)

/-- An epoch beyond the next one holds the request off: it reports the removal
completed, and the snapshot is still there. -/
theorem removal_after_a_late_one_does_nothing :
    (removedByAlice 10).database.durableOperations.lookup "operation" = none ∧
      (removeAlice (removedByAlice 10)).1 = .ok true ∧
      ¬Database.Removed "alice" true
        (removeAlice (removedByAlice 10)).2.database := by
  refine ⟨by decide +kernel, rfl, fun removed => ?_⟩
  exact absurd removed.cleared.snapshot (by decide +kernel)

end Torchat
