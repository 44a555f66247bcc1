import Torchat.Engine.Frames
import Torchat.Runtime.Ledger
import Torchat.Storage.Footprints

namespace Torchat

open Foundation Storage Table Function

/-! ## The books in the tables -/

def ChatMessage.entry (message : ChatMessage) : Ledger.Entry where
  conversationId := message.conversationId
  outgoing := message.outgoing
  state := message.state

namespace Storage.Database

def ledger (database : Database) : Ledger where
  messages messageId :=
    (database.messages.lookup messageId).map fun row => row.message.entry
  deliveries messageId :=
    (database.outboundDeliveries.lookup messageId).map
      OutboundDelivery.contactInstallationId
  operations := database.durableOperations.lookup
  conversations := database.conversations.contains

variable {before after : Database}

theorem ledger_message_none (absent : before.message messageId = none) :
    before.ledger.messages messageId = none := by
  simpa [message, ledger] using absent

theorem ledger_congr
    (messages : ∀ messageId,
      (after.messages.lookup messageId).map (fun row => row.message.entry) =
        (before.messages.lookup messageId).map fun row => row.message.entry)
    (deliveries : after.outboundDeliveries = before.outboundDeliveries)
    (operations : after.durableOperations = before.durableOperations)
    (conversations : after.conversations = before.conversations) :
    after.ledger = before.ledger := by
  simp only [ledger, messages, deliveries, operations, conversations]

theorem putMessage_ledger
    {message : ChatMessage} (done : before.putMessage message = .ok after) :
    before.ledger.conversations message.conversationId = true ∧
      after.ledger =
        { before.ledger with
          messages := update before.ledger.messages message.id
            (some message.entry) } := by
  obtain ⟨present, rfl⟩ := putMessage_eq done
  refine ⟨present, ?_⟩
  simp only [ledger, onMessages, Ledger.mk.injEq, and_true]
  funext messageId
  rw [lookup_insert, update_apply]
  split
  · rfl
  · rfl

theorem putConversation_ledger {conversation : ConversationSummary}
    (done : before.putConversation conversation = .ok after) :
    ∃ conversations, after.ledger =
        { before.ledger with conversations := conversations } ∧
      ∀ contact, before.ledger.conversations contact = true →
        conversations contact = true := by
  obtain ⟨_, rfl⟩ := putConversation_eq done
  refine ⟨_, rfl, fun contact present => ?_⟩
  obtain ⟨row, found⟩ := contains_iff.mp present
  by_cases same : contact = conversation.id
  · exact contains_iff.mpr ⟨conversation, by simp [same]⟩
  · exact contains_iff.mpr ⟨row, by simp [same, found]⟩

theorem putOperation_ledger (done : before.putOperation operation = .ok after) :
    after.ledger =
      { before.ledger with
        operations := update before.ledger.operations
          operation.operationId (some operation) } := by
  cases done
  simp only [ledger, Ledger.mk.injEq, and_true, true_and]
  funext key
  rw [lookup_insert, update_apply]

variable {contact : InstallationId}

theorem enqueueOutboundDelivery_ledger
    (done : before.enqueueOutboundDelivery messageId contact createdAtSecs =
      .ok after) :
    after.ledger =
      { before.ledger with
        deliveries := before.ledger.enlisted messageId contact } := by
  obtain ⟨_, rest⟩ := requireRow_bind_eq_ok.mp done
  obtain ⟨_, written⟩ := requireRow_bind_eq_ok.mp rest
  cases written
  simp only [ledger, onDeliveries, Ledger.enlisted, Ledger.mk.injEq, and_true,
    true_and]
  funext other
  rw [update_apply]
  cases found : before.outboundDeliveries.lookup messageId with
  | none =>
    rw [insertNew, contains, found]
    simp only [Option.isSome_none, Bool.false_eq_true, if_false,
      lookup_insert]
    split
    · rfl
    · rfl
  | some row =>
    rw [insertNew_of_contains (contains_iff.mpr ⟨row, found⟩)]
    split
    · rename_i same
      rw [same, found]
      rfl
    · rfl

theorem lookup_erase_map [DecidableEq κ] (table : Table κ ν) (key : κ)
    (view : ν → α) :
    (fun other => ((table.erase key).lookup other).map view) =
      update (fun other => (table.lookup other).map view) key none := by
  funext other
  rw [lookup_erase, update_apply]
  split
  · rfl
  · rfl

theorem completeOutboundDelivery_ledger
    (done : before.completeOutboundDelivery messageId = .ok after) :
    after.ledger =
      { before.ledger with
        deliveries := update before.ledger.deliveries messageId none } := by
  cases done
  simp only [ledger, onDeliveries, lookup_erase_map]

theorem deleteMessage_ledger
    (done : before.deleteMessage messageId = .ok after) :
    after.ledger =
      before.ledger.discard messageId before.ledger.operations := by
  cases done
  simp only [ledger, onMessages, onDeliveries, Ledger.discard, lookup_erase_map]

theorem lookup_modify_map
    {κ ν α : Type} [DecidableEq κ] {table : Table κ ν} {key other : κ}
    {change : ν → ν} {view : ν → α} (kept : ∀ row, view (change row) = view row) :
    ((table.modify key change).lookup other).map view =
      (table.lookup other).map view := by
  rw [lookup_modify]
  split
  · rw [Option.map_map]
    congr 1
    funext row
    exact kept row
  · rfl

theorem requeueOutboundDelivery_ledger {retryAt : Int} {error : String}
    (done : before.requeueOutboundDelivery messageId retryAt error =
      .ok after) :
    (∃ contact, before.ledger.deliveries messageId = some contact) ∧
      after.ledger = before.ledger := by
  unfold requeueOutboundDelivery at done
  split at done
  · rename_i present
    cases done
    obtain ⟨row, found⟩ := contains_iff.mp present
    refine ⟨⟨row.contactInstallationId, by simp [ledger, found]⟩, ?_⟩
    simp only [ledger, onDeliveries, Ledger.mk.injEq, and_true, true_and]
    funext other
    exact lookup_modify_map fun _ => rfl
  · cases done

theorem claimOutgoingAttempt_ledger {ackDeadline : Option Int}
    {lastTransportError : Option String} {claimed : Bool}
    (done : before.claimOutgoingAttempt messageId nextAttemptAt ackDeadline
      lastTransportError nowMs = .ok (claimed, after)) :
    after.ledger = before.ledger := by
  unfold claimOutgoingAttempt at done
  split at done
  · cases done
    exact ledger_congr (fun _ => lookup_modify_map fun _ => rfl) rfl rfl rfl
  · cases done
    rfl

theorem putConversationMlsSnapshot_ledger
    (done : before.putConversationMlsSnapshot contact snapshot =
      .ok after) : after.ledger = before.ledger := by
  obtain ⟨_, rfl⟩ | ⟨_, _, _, rfl⟩ := putConversationMlsSnapshot_eq done
  · rfl
  · rfl

theorem persistOutboundEncryption_ledger {wire : Sealed}
    {contact : InstallationId} {snapshot : Bytes}
    (done : before.persistOutboundEncryption messageId wire contact
      snapshot = .ok after) : after.ledger = before.ledger := by
  unfold persistOutboundEncryption at done
  split at done
  · rw [putConversationMlsSnapshot_ledger done]
    exact ledger_congr (fun _ => lookup_modify_map fun _ => rfl) rfl rfl rfl
  · cases done

theorem persistOutboundEncryptionAndClaim_ledger {wire : Sealed}
    {contact : InstallationId} {snapshot : Bytes}
    {ackDeadline : Option Int} {claimed : Bool}
    (done : before.persistOutboundEncryptionAndClaim messageId wire
      contact snapshot nextAttemptAt ackDeadline nowMs =
        .ok (claimed, after)) : after.ledger = before.ledger := by
  unfold persistOutboundEncryptionAndClaim at done
  split at done
  · obtain ⟨stored, written, answered⟩ := bind_eq_ok.mp done
    cases answered
    obtain ⟨_, version, rfl⟩ := upsertSnapshot_eq written
    exact ledger_congr (fun _ => lookup_modify_map fun _ => rfl) rfl rfl rfl
  · cases done
    rfl

theorem requeued_move
    (pending : ∀ messageId row, which messageId row = true →
      row.message.entry.pending = true)
    (written : after.ledger = (before.onMessages (·.updateWhere which
      fun _ row => row.requeued nextAttemptAt)).ledger) :
    Ledger.Move before.ledger after.ledger := by
  have moved : after.ledger =
      { before.ledger with
        messages := fun messageId =>
          (before.ledger.messages messageId).map fun entry =>
            if (before.messages.lookup messageId).any (which messageId) &&
                entry.pending then
              { entry with state := .queued }
            else
              entry } := by
    rw [written]
    simp only [ledger, onMessages, Ledger.mk.injEq, and_true]
    funext messageId
    rw [lookup_updateWhere]
    cases before.messages.lookup messageId with
    | none => rfl
    | some row =>
      simp only [Option.map_some, Option.any_some, Option.some.injEq]
      by_cases chosen : which messageId row = true
      · simp only [chosen, pending messageId row chosen, if_true,
          Bool.and_self]
        rfl
      · simp [chosen]
  rw [moved]
  exact .requeue _

theorem pending_of_sending {row : MessageRow}
    (chosen : (row.message.outgoing && row.message.state = .sending) = true) :
    row.message.entry.pending = true := by
  obtain ⟨outgoing, state⟩ := Bool.and_eq_true_iff.mp chosen
  have sending : row.message.entry.state = .sending := of_decide_eq_true state
  refine Bool.and_eq_true_iff.mpr ⟨outgoing, ?_⟩
  rw [sending]
  rfl

theorem requeueAfterDisconnect_move
    (done : before.requeueAfterDisconnect nowMs = .ok after) :
    Ledger.Move before.ledger after.ledger := by
  cases done
  refine requeued_move ?_ rfl
  intro messageId row chosen
  exact pending_of_sending chosen

theorem expediteMessages_move
    (done : before.expediteMessages contact = .ok after) :
    Ledger.Move before.ledger after.ledger := by
  cases done
  refine requeued_move ?_ rfl
  intro messageId row chosen
  simp only [Bool.and_eq_true] at chosen
  exact Bool.and_eq_true_iff.mpr ⟨chosen.1.2, chosen.2⟩

theorem updateWhere_map {κ ν α : Type} [DecidableEq κ] {table : Table κ ν}
    {key : κ} {which : κ → ν → Bool} {change : κ → ν → ν} {view : ν → α}
    (kept : ∀ key row, view (change key row) = view row) :
    ((table.updateWhere which change).lookup key).map view =
      (table.lookup key).map view := by
  rw [lookup_updateWhere, Option.map_map]
  congr 1
  funext row
  simp only [comp_apply]
  split
  · exact kept key row
  · rfl

theorem expediteDeliveries_ledger
    (done : before.expediteDeliveries contact = .ok after) :
    after.ledger = before.ledger := by
  cases done
  simp only [ledger, onDeliveries, Ledger.mk.injEq, and_true, true_and]
  funext messageId
  exact updateWhere_map fun _ _ => rfl

theorem requeuePeerDeliveries_move
    (done : before.requeuePeerDeliveries nowMs = .ok after) :
    Ledger.Move before.ledger after.ledger := by
  set queued := before.onDeliveries (·.updateWhere
    (fun _ row => row.state = .inFlight) fun _ row =>
      { row with state := .queued, nextAttemptAt := nowMs, ackDeadline := none })
    with deliveries
  have same : queued.ledger = before.ledger := by
    simp only [deliveries, ledger, onDeliveries, Ledger.mk.injEq, and_true,
      true_and]
    funext messageId
    exact updateWhere_map fun _ _ => rfl
  cases done
  rw [← same]
  refine requeued_move ?_ rfl
  intro messageId row chosen
  exact pending_of_sending (Bool.and_eq_true_iff.mp chosen).1

section

variable (before : Database) (contact : InstallationId)

theorem failPendingMessages_messages :
    (before.failPendingMessages contact).ledger.messages =
      (before.ledger.dismiss contact).messages := by
  funext messageId
  simp only [ledger, failPendingMessages, onMessages, Ledger.dismiss,
    lookup_updateWhere, Option.map_map]
  congr 1
  funext row
  simp only [comp_apply, Ledger.Entry.pending, ChatMessage.entry,
    Bool.and_assoc]
  split
  · rfl
  · rfl

theorem deleteOutboundDeliveries_deliveries :
    (before.deleteOutboundDeliveries contact).ledger.deliveries =
      (before.ledger.dismiss contact).deliveries := by
  funext messageId
  simp only [ledger, deleteOutboundDeliveries, onDeliveries, Ledger.dismiss,
    lookup_retain]
  cases before.outboundDeliveries.lookup messageId with
  | none => rfl
  | some row =>
    simp only [Option.filter_some, Option.map_some]
    split
    · rfl
    · rfl

theorem blocked_ledger :
    (before.blocked contact).ledger = before.ledger.dismiss contact := by
  have messages := failPendingMessages_messages before contact
  have deliveries := deleteOutboundDeliveries_deliveries before contact
  rw [blocked_eq]
  simp only [ledger] at messages deliveries ⊢
  simp only [messages, deliveries, setConversationOffline]
  simp only [Ledger.dismiss, Ledger.mk.injEq, true_and]
  funext other
  exact contains_modify ..

end

theorem deleteHistory_ledger (contact : InstallationId) :
    (before.deleteHistory contact).ledger = before.ledger.forget contact := by
  simp only [ledger, deleteHistory, onDeliveries, onMessages, Ledger.forget,
    Ledger.mk.injEq, and_true]
  constructor
  · funext messageId
    rw [lookup_retain]
    cases before.messages.lookup messageId with
    | none => rfl
    | some row =>
      simp only [Option.filter_some, Option.map_some, Ledger.Entry.within,
        ChatMessage.entry]
      split
      · rfl
      · rfl
  · funext messageId
    simp only [lookup_retain, Option.any_map]
    split
    · rename_i gone
      rw [Option.map_eq_none_iff, Option.filter_eq_none_iff]
      intro row _ kept
      rw [Bool.not_eq_true'] at kept
      exact Bool.false_ne_true (kept.symm.trans gone)
    · rename_i kept
      have held := Bool.eq_false_iff.mpr kept
      cases before.outboundDeliveries.lookup messageId with
      | none => rfl
      | some row =>
        rw [Option.filter_some, if_pos]
        rw [Bool.not_eq_true']
        exact held

theorem locallyRemoved_ledger :
    (before.locallyRemoved contact removedAt preserve removalId
        epoch).ledger =
      if preserve then before.ledger.dismiss contact
      else (before.ledger.dismiss contact).forget contact := by
  have blocked := blocked_ledger ((before.tombstone contact removedAt
    preserve epoch removalId).enqueueRelationshipRemoval
      removalId contact epoch preserve) contact
  have same : ((before.tombstone contact removedAt preserve
      epoch removalId).enqueueRelationshipRemoval removalId contact
        epoch preserve).ledger = before.ledger := rfl
  rw [same] at blocked
  cases preserve with
  | true => exact blocked
  | false =>
    rw [← blocked, ← deleteHistory_ledger]
    rfl

end Storage.Database

end Torchat
