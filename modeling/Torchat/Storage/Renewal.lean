import Torchat.Storage.Tombstones

namespace Torchat.Storage

open Foundation Database

/-! ## A removal belongs to one relationship -/

namespace Database

structure Undisturbed
    (contact : InstallationId) (before after : Database) : Prop where
  contactRow : after.contacts.lookup contact = before.contacts.lookup contact
  conversationRow : after.conversations.lookup contact =
    before.conversations.lookup contact
  pending : ∀ messageId row, before.messages.lookup messageId = some row →
    row.message.conversationId = contact → row.message.outgoing = true →
    MessageState.isPending row.message.state = true →
    after.messages.lookup messageId = some row
  tombstones : ∀ other, after.relationshipTombstones.lookup other =
    before.relationshipTombstones.lookup other

/-- Everything a removal by the contact would write is written. -/
structure CarriedOut
    (contact : InstallationId) (removedAt : Int) (removalId : String)
    (relationshipEpoch : Int) (database : Database) : Prop where
  tombstone : ∃ current,
    database.relationshipTombstones.lookup contact = some current ∧
      removedAt ≤ current.removedAt ∧ current.preserveHistory = true ∧
      current.relationshipEpoch = relationshipEpoch ∧
      current.removalId = removalId
  blocked : ∀ row, database.contacts.lookup contact = some row →
    row.blocked = true
  offline : ∀ row, database.conversations.lookup contact = some row →
    row.status = .offline
  settled : database.conversations.contains contact = true →
    ∀ messageId row, database.messages.lookup messageId = some row →
      row.message.conversationId = contact → row.message.outgoing = true →
      MessageState.isPending row.message.state = false

/-- When a removal by the contact comes to nothing: it is refused, the tombstone
is of a later relationship, or all is done already. -/
inductive Repelled (contact : InstallationId) (removedAt : Int)
    (removalId : String) (relationshipEpoch : Int) (database : Database) : Prop
  | refused (blank : trim contact = "" ∨ trim removalId = "")
  | stale (older : database.staleRemoval contact relationshipEpoch = true)
  | carriedOut
      (done : CarriedOut contact removedAt removalId relationshipEpoch database)

variable {contact : InstallationId} {database : Database}

theorem Undisturbed.refl : Undisturbed contact database database :=
  ⟨rfl, rfl, fun _ _ found _ _ _ => found, fun _ => rfl⟩

theorem tombstone_of_current
    (current : database.staleRemoval contact relationshipEpoch = false) :
    (database.tombstone contact removedAt preserve relationshipEpoch
      removalId).relationshipTombstones =
      database.relationshipTombstones.insert contact
        { removedAt :=
            (database.relationshipTombstones.lookup contact).elim removedAt
              fun row => max row.removedAt removedAt
          preserveHistory := preserve
          relationshipEpoch := relationshipEpoch
          removalId := removalId } := by
  unfold Database.tombstone
  cases found : database.relationshipTombstones.lookup contact with
  | none => rfl
  | some row =>
    have reached : row.relationshipEpoch ≤ relationshipEpoch := by
      simpa [staleRemoval, found] using current
    simp [reached]

theorem remotelyRemoved_tombstones_iff
    (current : database.staleRemoval contact relationshipEpoch = false) :
    (∀ other, (database.remotelyRemoved contact removedAt removalId
        relationshipEpoch).relationshipTombstones.lookup other =
        database.relationshipTombstones.lookup other) ↔
      ∃ current,
        database.relationshipTombstones.lookup contact = some current ∧
          removedAt ≤ current.removedAt ∧ current.preserveHistory = true ∧
          current.relationshipEpoch = relationshipEpoch ∧
          current.removalId = removalId := by
  simp only [remotelyRemoved_eq, tombstone_of_current current,
    Table.lookup_insert]
  constructor
  · intro same
    have own := same contact
    rw [if_pos rfl] at own
    refine ⟨_, own.symm, ?_, rfl, rfl, rfl⟩
    rw [← own]
    exact le_max_right _ _
  · rintro ⟨row, found, later, preserved, rfl, rfl⟩ other
    by_cases own : other = contact
    · subst own
      rw [if_pos rfl, found, Option.elim, max_eq_left later, ← preserved]
    · rw [if_neg own]

theorem remotelyRemoved_message
    (found : database.messages.lookup messageId = some row) :
    (database.remotelyRemoved contact removedAt removalId relationshipEpoch
      ).messages.lookup messageId =
      some (if database.conversations.contains contact &&
          row.message.conversationId = contact && row.message.outgoing &&
          MessageState.isPending row.message.state then
        { row with
          message :=
            { row.message with
              state := .failed
              nextAttemptAt := 0
              ackDeadline := none
              lastTransportError := some "relationship removed" } }
      else
        row) := by
  simp only [remotelyRemoved_eq, blocked_eq, failPendingMessages, onMessages,
    Table.lookup_updateWhere, found, Option.map_some]

theorem remotelyRemoved_undisturbed_iff
    (current : database.staleRemoval contact relationshipEpoch = false) :
    Undisturbed contact database
        (database.remotelyRemoved contact removedAt removalId
          relationshipEpoch) ↔
      CarriedOut contact removedAt removalId relationshipEpoch database := by
  have blocked : (database.remotelyRemoved contact removedAt removalId
      relationshipEpoch).contacts.lookup contact =
        database.contacts.lookup contact ↔
      ∀ row, database.contacts.lookup contact = some row →
        row.blocked = true := by
    refine Table.lookup_modify_eq_self_iff.trans ?_
    refine forall₂_congr fun row _ => ⟨fun same => ?_, fun same => ?_⟩
    · rw [← same]
    · rw [← same]
  have offline : (database.remotelyRemoved contact removedAt removalId
      relationshipEpoch).conversations.lookup contact =
        database.conversations.lookup contact ↔
      ∀ row, database.conversations.lookup contact = some row →
        row.status = .offline := by
    rw [remotelyRemoved_eq, blocked_eq]
    refine Table.lookup_modify_eq_self_iff.trans ?_
    refine forall₂_congr fun row _ => ⟨fun same => ?_, fun same => ?_⟩
    · rw [← same]
    · rw [← same]
  have settled : (∀ messageId row, database.messages.lookup messageId =
      some row → row.message.conversationId = contact →
        row.message.outgoing = true →
        MessageState.isPending row.message.state = true →
        (database.remotelyRemoved contact removedAt removalId
          relationshipEpoch).messages.lookup messageId = some row) ↔
      (database.conversations.contains contact = true →
        ∀ messageId row, database.messages.lookup messageId = some row →
          row.message.conversationId = contact → row.message.outgoing = true →
          MessageState.isPending row.message.state = false) := by
    constructor
    · intro kept present messageId row found own outgoing
      by_contra pending
      rw [Bool.not_eq_false] at pending
      have same := kept messageId row found own outgoing pending
      rw [remotelyRemoved_message found, present] at same
      simp only [own, outgoing, pending] at same
      rw [← Option.some.inj same] at pending
      cases pending
    · intro settled messageId row found own outgoing pending
      rw [remotelyRemoved_message found]
      cases present : database.conversations.contains contact with
      | false => rfl
      | true =>
        rw [settled present messageId row found own outgoing] at pending
        cases pending
  constructor
  · rintro ⟨contactRow, conversationRow, pending, tombstones⟩
    exact ⟨(remotelyRemoved_tombstones_iff current).mp tombstones,
      blocked.mp contactRow, offline.mp conversationRow, settled.mp pending⟩
  · rintro ⟨tombstone, unblocked, unoffline, unsettled⟩
    exact ⟨blocked.mpr unblocked, offline.mpr unoffline, settled.mpr unsettled,
      (remotelyRemoved_tombstones_iff current).mpr tombstone⟩

theorem applyRemoteRelationshipRemoval_undisturbed_iff :
    Undisturbed contact database
        (database.settle (database.applyRemoteRelationshipRemoval contact
          removedAt removalId relationshipEpoch)) ↔
      Repelled contact removedAt removalId relationshipEpoch database := by
  by_cases blank : trim contact = "" ∨ trim removalId = ""
  · have refused : database.settle (database.applyRemoteRelationshipRemoval
        contact removedAt removalId relationshipEpoch) = database := by
      simp [applyRemoteRelationshipRemoval, blank, settle]
    rw [refused]
    exact iff_of_true .refl (.refused blank)
  · rw [applyRemoteRelationshipRemoval_eq_ok.mpr ⟨blank, rfl⟩]
    cases older : database.staleRemoval contact relationshipEpoch with
    | true => exact iff_of_true .refl (.stale older)
    | false =>
      rw [if_neg (by simp), settle, remotelyRemoved_undisturbed_iff older]
      refine ⟨.carriedOut, fun repelled => ?_⟩
      cases repelled with
      | refused refused => exact absurd refused blank
      | stale stale => cases older.symm.trans stale
      | carriedOut done => exact done

/-- An epoch is on record: a tombstone bears it or a later one, or a boundary
lies beyond. -/
def Recorded
    (contact : InstallationId) (epoch : Int) (database : Database) : Prop :=
  (∃ row, database.relationshipTombstones.lookup contact = some row ∧
      epoch ≤ row.relationshipEpoch) ∨
    epochAfter epoch ≤ database.currentRelationshipEpoch contact

theorem epochAfter_mono (le : epoch ≤ later) :
    epochAfter epoch ≤ epochAfter later := by
  unfold epochAfter
  omega

theorem beginVerifiedRelationship_epoch
    (done : database.beginVerifiedRelationship contact boundaryAt = .ok after) :
    database.currentRelationshipEpoch contact ≤
        after.currentRelationshipEpoch contact ∧
      ∀ row, database.relationshipTombstones.lookup contact = some row →
        epochAfter row.relationshipEpoch ≤
          after.currentRelationshipEpoch contact := by
  cases done
  simp only [currentRelationshipEpoch, Table.lookup_insert, if_pos,
    Option.elim_some]
  cases database.relationshipBoundaries.lookup contact with
  | none =>
    constructor
    · simp only [Option.elim_none, epochAfter]
      omega
    · intro row found
      simp only [found, Option.elim]
      exact epochAfter_mono (le_max_right _ _)
  | some boundary =>
    constructor
    · exact le_max_left _ _
    · intro row found
      simp only [found, Option.elim]
      exact (epochAfter_mono (le_max_right _ _)).trans (le_max_right _ _)

end Database

namespace Call

open Database

def concernsRelationships : Call → Bool
  | removeRelationshipWithId .. | applyRemoteRelationshipRemoval ..
  | beginVerifiedRelationship .. => true
  | _ => false

section

variable (call : Call) (database : Database)

theorem perform_of_session (concerned : call.concernsStanding = true)
    (elsewhere : call.concernsRelationships = false) :
    (call.perform database).relationshipTombstones =
        database.relationshipTombstones ∧
      (call.perform database).relationshipBoundaries =
        database.relationshipBoundaries ∧
      (call.perform database).contactEndpointCapabilities =
        database.contactEndpointCapabilities := by
  let view (database : Database) :=
    (database.relationshipTombstones, database.relationshipBoundaries,
      database.contactEndpointCapabilities)
  suffices same : view (call.perform database) = view database by
    obtain ⟨tombstones, rest⟩ := Prod.mk.inj same
    exact ⟨tombstones, Prod.mk.inj rest⟩
  cases call
  case upsertSnapshot =>
    refine settle_view view fun _ done => ?_
    obtain ⟨_, _, rfl⟩ := upsertSnapshot_eq done
    rfl
  case putConversationMlsSnapshot =>
    refine settle_view view fun _ done => ?_
    obtain ⟨_, rfl⟩ | ⟨_, _, _, rfl⟩ := putConversationMlsSnapshot_eq done
    · rfl
    · rfl
  case persistOutboundEncryption =>
    refine settle_view view fun _ done => ?_
    obtain ⟨_, _, ⟨_, rfl⟩ | ⟨_, _, _, rfl⟩⟩ :=
      persistOutboundEncryption_eq done
    · rfl
    · rfl
  case persistOutboundEncryptionAndClaim =>
    refine settleReturning_view view fun _ _ done => ?_
    obtain rfl | ⟨_, _, _, _, rfl⟩ :=
      persistOutboundEncryptionAndClaim_eq done
    · rfl
    · rfl
  case persistReceiptEncryption =>
    refine settleReturning_view view fun _ _ done => ?_
    obtain ⟨_, rfl⟩ | ⟨_, _, _, _, rfl⟩ := persistReceiptEncryption_eq done
    · rfl
    · rfl
  case putContactPeerEndpoint =>
    refine settle_view view fun _ done => ?_
    obtain rfl | ⟨_, rfl⟩ := putContactPeerEndpoint_eq done
    · rfl
    · rfl
  case markPeerConnected =>
    refine settle_view view fun _ done => ?_
    obtain ⟨_, rfl⟩ := markPeerConnected_eq done
    rfl
  case removeRelationshipWithId => cases elsewhere
  case applyRemoteRelationshipRemoval => cases elsewhere
  case beginVerifiedRelationship => cases elsewhere
  all_goals cases concerned

theorem perform_relationships (elsewhere : call.concernsRelationships = false) :
    (call.perform database).relationshipTombstones =
        database.relationshipTombstones ∧
      (call.perform database).relationshipBoundaries =
        database.relationshipBoundaries := by
  cases concerned : call.concernsStanding with
  | false =>
    have same := perform_standing call database concerned
    exact ⟨congrArg (·.1) same, congrArg (·.2.1) same⟩
  | true =>
    obtain ⟨tombstones, boundaries, _⟩ :=
      perform_of_session call database concerned elsewhere
    exact ⟨tombstones, boundaries⟩

theorem perform_issued (elsewhere : call.concernsIssued = false) :
    (call.perform database).contactEndpointCapabilities =
      database.contactEndpointCapabilities := by
  cases concerned : call.concernsStanding with
  | false => exact (perform_elsewhere call database concerned elsewhere).2
  | true =>
    cases related : call.concernsRelationships with
    | false => exact (perform_of_session call database concerned related).2.2
    | true =>
      cases call
      case removeRelationshipWithId contact removedAt preserve
          removalId epoch =>
        refine settle_view contactEndpointCapabilities fun _ done => ?_
        obtain ⟨_, rfl⟩ := removeRelationshipWithId_eq_ok.mp done
        split
        · rfl
        · obtain ⟨_, _, removed, _⟩ := @locallyRemoved_eq database contact
            removedAt preserve removalId epoch
          rw [removed]
          rfl
      case applyRemoteRelationshipRemoval =>
        refine settle_view contactEndpointCapabilities fun _ done => ?_
        obtain ⟨_, rfl⟩ := applyRemoteRelationshipRemoval_eq_ok.mp done
        split
        · rfl
        · rfl
      case beginVerifiedRelationship => rfl
      all_goals cases related

end

end Call

namespace Database

section

variable {contact : InstallationId} {database : Database}

theorem Recorded.tombstone (recorded : Recorded contact epoch database) :
    Recorded contact epoch (database.tombstone other removedAt preserve
      relationshipEpoch removalId) := by
  rcases recorded with ⟨row, found, reached⟩ | beyond
  · left
    simp only [Database.tombstone, Table.lookup_insert]
    by_cases own : contact = other
    · subst own
      rw [if_pos rfl, found]
      exact ⟨_, rfl, reached.trans (le_max_left _ _)⟩
    · rw [if_neg own]
      exact ⟨row, found, reached⟩
  · exact .inr beyond

section

variable (recorded : Recorded contact epoch database)

include recorded

theorem Recorded.of_same
    (tombstones : after.relationshipTombstones =
      database.relationshipTombstones)
    (boundaries : after.relationshipBoundaries =
      database.relationshipBoundaries) : Recorded contact epoch after := by
  unfold Recorded currentRelationshipEpoch
  rw [tombstones, boundaries]
  exact recorded

theorem Recorded.verified
    (done : database.beginVerifiedRelationship contact boundaryAt = .ok after) :
    epochAfter epoch ≤ after.currentRelationshipEpoch contact := by
  obtain ⟨kept, lifted⟩ := beginVerifiedRelationship_epoch done
  rcases recorded with ⟨row, found, reached⟩ | beyond
  · exact (epochAfter_mono reached).trans (lifted row found)
  · exact beyond.trans kept

theorem Recorded.verified_perform (boundaryAt : Int) :
    epochAfter epoch ≤
      ((Call.beginVerifiedRelationship contact boundaryAt).perform database
        ).currentRelationshipEpoch contact :=
  recorded.verified rfl

theorem Recorded.beginVerifiedRelationship
    (done : database.beginVerifiedRelationship other boundaryAt = .ok after) :
    Recorded contact epoch after := by
  by_cases own : contact = other
  · subst own
    exact .inr (recorded.verified done)
  · cases done
    simpa [Recorded, currentRelationshipEpoch, own] using recorded

theorem Recorded.settle
    (stored : ∀ after, result = .ok after → Recorded contact epoch after) :
    Recorded contact epoch (database.settle result) := by
  cases result with
  | error error => exact recorded
  | ok after => exact stored after rfl

theorem Recorded.perform (call : Call) :
    Recorded contact epoch (call.perform database) := by
  cases concerned : call.concernsRelationships with
  | false =>
    obtain ⟨tombstones, boundaries⟩ :=
      Call.perform_relationships call database concerned
    exact recorded.of_same tombstones boundaries
  | true =>
    cases call
    case removeRelationshipWithId contact' removedAt preserve removalId
        epoch' =>
      refine recorded.settle fun after done => ?_
      obtain ⟨_, rfl⟩ := removeRelationshipWithId_eq_ok.mp done
      split
      · exact recorded
      · obtain ⟨_, _, removed, _⟩ := @locallyRemoved_eq database contact'
          removedAt preserve removalId epoch'
        rw [removed]
        exact recorded.tombstone.of_same rfl rfl
    case applyRemoteRelationshipRemoval =>
      refine recorded.settle fun after done => ?_
      obtain ⟨_, rfl⟩ := applyRemoteRelationshipRemoval_eq_ok.mp done
      split
      · exact recorded
      · rw [remotelyRemoved_eq]
        exact recorded.tombstone.of_same rfl rfl
    case beginVerifiedRelationship =>
      exact recorded.settle fun _ done =>
        recorded.beginVerifiedRelationship done
    all_goals cases concerned

end

theorem settle_relationshipBoundaries
    (same : ∀ after, result = .ok after →
      after.relationshipBoundaries = database.relationshipBoundaries) :
    (database.settle result).currentRelationshipEpoch contact =
      database.currentRelationshipEpoch contact := by
  unfold currentRelationshipEpoch
  rw [settle_view relationshipBoundaries same]

theorem epoch_le_perform (call : Call) :
    database.currentRelationshipEpoch contact ≤
      (call.perform database).currentRelationshipEpoch contact := by
  cases concerned : call.concernsRelationships with
  | false =>
    unfold currentRelationshipEpoch
    rw [(Call.perform_relationships call database concerned).2]
  | true =>
    cases call
    case removeRelationshipWithId contact' removedAt preserve removalId
        epoch' =>
      refine (settle_relationshipBoundaries fun after done => ?_).ge
      obtain ⟨_, rfl⟩ := removeRelationshipWithId_eq_ok.mp done
      split
      · rfl
      · obtain ⟨_, _, removed, _⟩ := @locallyRemoved_eq database contact'
          removedAt preserve removalId epoch'
        rw [removed]
        rfl
    case applyRemoteRelationshipRemoval =>
      refine (settle_relationshipBoundaries fun after done => ?_).ge
      obtain ⟨_, rfl⟩ := applyRemoteRelationshipRemoval_eq_ok.mp done
      split
      · rfl
      · rfl
    case beginVerifiedRelationship other boundaryAt =>
      by_cases own : contact = other
      · subst own
        exact (beginVerifiedRelationship_epoch rfl).1
      · refine le_of_eq ?_
        simp [Call.perform, beginVerifiedRelationship,
          settle, currentRelationshipEpoch, own]
    all_goals cases concerned

end

end Database

/-! The same along a run. -/

variable {contact : InstallationId}

theorem Database.Recorded.run (recorded : Recorded contact epoch start)
    (calls : List Call) : Recorded contact epoch (machine.run start calls) := by
  induction calls generalizing start with
  | nil => exact recorded
  | cons call rest induction => exact induction (recorded.perform call)

theorem Database.epoch_le_run (start : Database) (calls : List Call) :
    start.currentRelationshipEpoch contact ≤
      (machine.run start calls).currentRelationshipEpoch contact := by
  induction calls generalizing start with
  | nil => exact le_rfl
  | cons call rest induction =>
    exact (epoch_le_perform call).trans (induction _)

structure RemoteRemoval where
  removedAt : Int
  removalId : String
  relationshipEpoch : Int

namespace RemoteRemoval

def call (removal : RemoteRemoval) (contact : InstallationId) : Call :=
  .applyRemoteRelationshipRemoval contact removal.removedAt removal.removalId
    removal.relationshipEpoch

def Applies (removal : RemoteRemoval) (contact : InstallationId)
    (database : Database) : Prop :=
  ¬(trim contact = "" ∨ trim removal.removalId = "") ∧
    database.staleRemoval contact removal.relationshipEpoch = false

theorem Applies.recorded {removal : RemoteRemoval}
    (applies : removal.Applies contact database) :
    Recorded contact removal.relationshipEpoch
      ((removal.call contact).perform database) := by
  obtain ⟨named, current⟩ := applies
  have carriedOut : (removal.call contact).perform database =
      database.remotelyRemoved contact removal.removedAt removal.removalId
        removal.relationshipEpoch := by
    change database.settle (applyRemoteRelationshipRemoval ..) = _
    rw [applyRemoteRelationshipRemoval_eq_ok.mpr ⟨named, rfl⟩, current]
    rfl
  rw [carriedOut]
  left
  rw [remotelyRemoved_eq]
  rw [tombstone_of_current current, Table.lookup_insert, if_pos rfl]
  exact ⟨_, rfl, le_rfl⟩

end RemoteRemoval

structure Renewal (contact : InstallationId) where
  start : Database
  earlier : List Call
  removal : RemoteRemoval
  applied : removal.Applies contact (machine.run start earlier)
  between : List Call
  boundaryAt : Int
  later : List Call

namespace Renewal

def history (renewal : Renewal contact) : List Call :=
  renewal.earlier ++ renewal.removal.call contact :: renewal.between ++
    .beginVerifiedRelationship contact renewal.boundaryAt :: renewal.later

def database (renewal : Renewal contact) : Database :=
  machine.run renewal.start renewal.history

theorem epoch_le (renewal : Renewal contact) :
    epochAfter renewal.removal.relationshipEpoch ≤
      renewal.database.currentRelationshipEpoch contact := by
  have recorded := renewal.applied.recorded.run renewal.between
  have verified := recorded.verified_perform renewal.boundaryAt
  rw [database, history, List.append_assoc, machine.run_append, List.cons_append,
    machine.run_cons, machine.run_append, machine.run_cons, machine_next]
  exact verified.trans (epoch_le_run _ renewal.later)

end Renewal

/-- After a renewal, the same removal or an older one leaves the relationship
alone exactly when it is repelled; the boundary, which lies beyond it, is not
asked. -/
theorem repeated_removal_undisturbed_iff
    {contact : InstallationId} (renewal : Renewal contact)
    (again : RemoteRemoval)
    (old : again = renewal.removal ∨
      again.relationshipEpoch < renewal.removal.relationshipEpoch) :
    Database.epochAfter again.relationshipEpoch ≤
        renewal.database.currentRelationshipEpoch contact ∧
      (Database.Undisturbed contact renewal.database
          ((again.call contact).perform renewal.database) ↔
        Database.Repelled contact again.removedAt again.removalId
          again.relationshipEpoch renewal.database) := by
  have order : again.relationshipEpoch ≤ renewal.removal.relationshipEpoch := by
    rcases old with rfl | older
    · exact le_rfl
    · exact older.le
  exact ⟨(Database.epochAfter_mono order).trans renewal.epoch_le,
    Database.applyRemoteRelationshipRemoval_undisturbed_iff⟩

def renewedAlice (later : List Call) : Renewal "alice" where
  start := .empty
  earlier := meetingAlice
  removal := ⟨5, "removal", 1⟩
  applied := ⟨by decide +kernel, by decide +kernel⟩
  between := []
  boundaryAt := 6
  later := meetingAlice ++ later

/-- Once she is removed again, here or by a newer removal, the old one is
repelled. -/
theorem removal_after_a_newer_one_is_repelled :
    Database.Undisturbed "alice"
      (renewedAlice [.removeRelationshipWithId "alice" 7 true "newer" 3]
        ).database
      ((RemoteRemoval.call ⟨5, "removal", 1⟩ "alice").perform
        (renewedAlice [.removeRelationshipWithId "alice" 7 true "newer" 3]
          ).database) :=
  (repeated_removal_undisturbed_iff
    (renewedAlice [.removeRelationshipWithId "alice" 7 true "newer" 3])
    ⟨5, "removal", 1⟩ (.inl rfl)).2.mpr (.stale (by decide +kernel))

/-- The removal of the old relationship ends the new one. -/
theorem repeated_removal_ends_the_new_relationship :
    ¬Database.Undisturbed "alice" (renewedAlice []).database
      (((renewedAlice []).removal.call "alice").perform
        (renewedAlice []).database) := by
  intro undisturbed
  exact absurd undisturbed.contactRow (by decide +kernel)

end Torchat.Storage
