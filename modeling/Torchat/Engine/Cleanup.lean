import Torchat.Engine.Quiet
import Torchat.Engine.Reach
import Torchat.Runtime.Removal

namespace Torchat

open Foundation Storage Table Actor

namespace Storage.Database

/-- As after a local removal: nothing of the session with the contact. -/
structure Bare (contact : InstallationId) (database : Database) : Prop
    extends Cleared contact database where
  updates : ∀ key row, database.endpointUpdateOutbox.lookup key = some row →
    key.1 ≠ contact

/-- Nothing is stored that a removal by the contact would pass over. -/
structure Detached (contact : InstallationId) (database : Database) : Prop where
  snapshot : database.conversationMls.lookup contact = none
  endpoint : database.contactPeerEndpoints.lookup contact = none
  updates : ∀ key row, database.endpointUpdateOutbox.lookup key = some row →
    key.1 ≠ contact
  receipts : database.conversations.contains contact = false →
    ∀ messageId row, database.deliveryReceipts.lookup messageId = some row →
      row.conversationId ≠ contact

section

variable {contact : InstallationId} {removedAt : Int} {removalId : String}
  {epoch : Int}

theorem remotelyRemoved_bare_iff :
    Bare contact (before.remotelyRemoved contact removedAt removalId
        epoch) ↔
      Detached contact before := by
  rw [remotelyRemoved_eq, blocked_eq]
  constructor
  · rintro ⟨⟨snapshot, endpoint, _, receipts⟩, updates⟩
    exact ⟨snapshot, endpoint, updates,
      deleteDeliveryReceipts_cleared_iff.mp receipts⟩
  · rintro ⟨snapshot, endpoint, updates, receipts⟩
    refine ⟨⟨snapshot, endpoint, ?_,
      deleteDeliveryReceipts_cleared_iff.mpr receipts⟩, updates⟩
    intro messageId row found
    simp only [deleteOutboundDeliveries, onDeliveries, lookup_retain,
      Option.filter_eq_some_iff, decide_eq_true_eq] at found
    exact found.2

def Steady
    (contact : InstallationId) (housed : Bool) (before after : Database) : Prop :=
  before.conversations.contains contact = housed →
    after.conversations.contains contact = housed ∧
      (Bare contact after ↔ Bare contact before)

theorem Steady.of_rows
    (conversations : after.conversations = before.conversations)
    (snapshot : before.conversations.contains contact = housed →
      (after.conversationMls.lookup contact = none ↔
        before.conversationMls.lookup contact = none))
    (endpoints : after.contactPeerEndpoints = before.contactPeerEndpoints)
    (updates : after.endpointUpdateOutbox = before.endpointUpdateOutbox)
    (deliveries :
      (∀ messageId row, after.outboundDeliveries.lookup messageId = some row →
        row.contactInstallationId ≠ contact) ↔
      ∀ messageId row, before.outboundDeliveries.lookup messageId = some row →
        row.contactInstallationId ≠ contact)
    (receipts :
      (∀ messageId row, after.deliveryReceipts.lookup messageId = some row →
        row.conversationId ≠ contact) ↔
      ∀ messageId row, before.deliveryReceipts.lookup messageId = some row →
        row.conversationId ≠ contact) : Steady contact housed before after := by
  refine fun present => ⟨by rw [conversations]; exact present, ?_⟩
  constructor
  · rintro ⟨⟨bare, endpoint, delivered, received⟩, updated⟩
    rw [endpoints] at endpoint
    rw [updates] at updated
    exact ⟨⟨(snapshot present).mp bare, endpoint, deliveries.mp delivered,
      receipts.mp received⟩, updated⟩
  · rintro ⟨⟨bare, endpoint, delivered, received⟩, updated⟩
    rw [← endpoints] at endpoint
    rw [← updates] at updated
    exact ⟨⟨(snapshot present).mpr bare, endpoint, deliveries.mpr delivered,
      receipts.mpr received⟩, updated⟩

instance Steady.booked : Booked (Steady contact housed) where
  refl _ present := ⟨present, Iff.rfl⟩
  trans first second present :=
    ⟨(second (first present).1).1,
      (second (first present).1).2.trans (first present).2⟩
  booked _ _ _ _ :=
    .of_rows rfl (fun _ => Iff.rfl) rfl rfl Iff.rfl Iff.rfl

instance Steady.receipting : Receipting (Steady contact housed) where
  issued _ _ _ _ := .execute fun _ _ done => by
    obtain ⟨_, rfl⟩ := putContactEndpointCapability_eq done
    exact .of_rows rfl (fun _ => Iff.rfl) rfl rfl Iff.rfl Iff.rfl
  claimed _ _ _ _ := .executeReturning fun _ _ _ done => by
    simp only [claimOutboundDelivery] at done
    split at done
    · cases done
      exact .of_rows rfl (fun _ => Iff.rfl) rfl rfl
        (forall_modify_iff fun _ => Iff.rfl) Iff.rfl
    · cases done
      exact Frame.refl _
  claimedReceipt _ _ _ _ := .executeReturning fun _ _ _ done => by
    obtain rfl | ⟨_, rfl⟩ := claimReceiptAttempt_eq done
    · exact Frame.refl _
    · exact .of_rows rfl (fun _ => Iff.rfl) rfl rfl Iff.rfl
        (forall_modify_iff fun _ => Iff.rfl)
  requeuedReceipt _ _ _ := .execute fun _ _ done => by
    cases done
    exact .of_rows rfl (fun _ => Iff.rfl) rfl rfl Iff.rfl
      (forall_modify_iff fun _ => Iff.rfl)

theorem persistReceiptEncryption_steady
    (apart : conversationId ≠ contact ∨ housed = false) (messageId : Uuid)
    (wire : Sealed) (snapshot : Bytes) (nextAttemptAt : Int)
    (lastError : Option String) (nowMs : Int) :
    (executeReturning (persistReceiptEncryption messageId wire
      conversationId snapshot nextAttemptAt lastError nowMs)).Keeps
      (Steady contact housed) :=
  .executeReturning fun _ _ _ done => by
    obtain ⟨_, rfl⟩ | ⟨_, present, _, _, rfl⟩ := persistReceiptEncryption_eq done
    · exact Frame.refl _
    · refine .of_rows rfl (fun absent => ?_) rfl rfl Iff.rfl
        (forall_modify_iff fun _ => Iff.rfl)
      have other : contact ≠ conversationId := by
        rintro rfl
        rcases apart with apart | rfl
        · exact apart rfl
        · exact absurd (present.symm.trans absent) nofun
      simp [other]

end

end Storage.Database

def Primitives.Restorable (P : Primitives) : Prop :=
  ∀ group, ∃ snapshot restored,
    P.snapshot group = .ok snapshot ∧ P.restore snapshot = .ok restored

instance Storage.Database.Anything.receipting :
    Database.Receipting Database.Anything where
  booked _ _ _ _ := trivial
  issued := inferInstance
  claimed := inferInstance
  claimedReceipt := inferInstance
  requeuedReceipt := inferInstance

namespace Actor

variable {P : Primitives}

def Aside (before after : Actor P) : Prop :=
  after.conversations = before.conversations

instance Aside.framed : Framed (Aside (P := P)) Database.Anything where
  toFrame := Program.Frame.of_eq conversations
  data _ _ _ := rfl
  called _ _ _ _ := rfl

instance Aside.outward : Outward (Aside (P := P)) Database.Anything where
  noted _ _ _ := rfl
  handed _ _ := rfl

def Holds (contact : InstallationId) (actor : Actor P) : Prop :=
  actor.conversations.contains contact = true

theorem Aside.upholds {program : Call P α} (kept : program.Keeps Aside)
    (contact : InstallationId) : program.Upholds (Holds contact) :=
  .of_keeps kept fun {_ _} (same : _ = _) held => by
    rw [Holds, same]
    exact held

theorem takeConversation_cases
    (ran : takeConversation contact missing actor = (outcome, after)) :
    (after = actor ∧ outcome = .err missing) ∨
      ∃ conversation, actor.conversations.lookup contact = some conversation ∧
        outcome = .ok conversation ∧
        after = onConversations (·.erase contact) actor := by
  unfold takeConversation at ran
  rw [run_bind_ok (run_read _ _)] at ran
  cases found : actor.conversations.lookup contact with
  | none =>
    rw [found] at ran
    cases ran
    exact .inl ⟨rfl, rfl⟩
  | some conversation =>
    rw [found] at ran
    cases ran
    exact .inr ⟨conversation, rfl, rfl, rfl⟩

theorem holds_replaced (held : Holds contact actor)
    (same : next.conversations = actor.conversations.erase sender) :
    Holds contact (onConversations (·.insert sender conversation) next) := by
  unfold Holds onConversations contains at *
  simp only [same, lookup_insert, lookup_erase]
  split
  · rfl
  · exact held

section

variable (restorable : P.Restorable) (contact : InstallationId)

include restorable

theorem encryptKeeping_upholds (sender : InstallationId) (missing : EngineError)
    (restoreFailed : String → EngineError) (application : ApplicationPayload)
    (persist : Sealed → Bytes → Call P Unit)
    [∀ wire snapshot, (persist wire snapshot).Keeps (Aside (P := P))] :
    (encryptKeeping sender missing restoreFailed application persist).Upholds
      (Holds contact) := by
  refine ⟨fun actor held finished => ?_⟩
  rcases ran : encryptKeeping sender missing restoreFailed application persist
    actor with ⟨outcome, final⟩
  rw [ran] at finished
  rcases bind_cases ran with
    ⟨conversation, taken, took, ran⟩ | ⟨_, took, _⟩ | ⟨_, crashed⟩
  · obtain ⟨_, failed⟩ | ⟨_, _, found, rfl⟩ := takeConversation_cases took
    · cases failed
    obtain ⟨snapshot, restored, saved, back⟩ := restorable conversation
    rw [run_bind_ok (run_check saved _ _)] at ran
    have kept : (encryptPayload sender conversation application persist).Keeps
        (Aside (P := P)) := inferInstance
    have same := kept.run (onConversations (·.erase sender) actor)
    rcases attempt_bind_cases ran with
      ⟨result, next, encrypted, ran⟩ | ⟨error, next, encrypted, ran⟩ |
        ⟨_, crashed⟩
    · rw [encrypted] at same
      cases ran
      exact holds_replaced held same
    · rw [encrypted] at same
      dsimp only at ran
      rw [run_bind_ok (run_check back _ _)] at ran
      cases ran
      exact holds_replaced held same
    · exact absurd crashed finished
  · obtain ⟨rfl, _⟩ | ⟨_, _, failed, _⟩ := takeConversation_cases took
    · exact held
    · cases failed
  · exact absurd crashed finished

theorem encryptReceipt_upholds (effect : Database.ReceiptSendEffect) :
    (encryptReceipt (P := P) effect).Upholds (Holds contact) := by
  refine .bind (Aside.upholds inferInstance contact) fun _ => ?_
  refine .bind (Aside.upholds inferInstance contact) fun stored => ?_
  refine .bind (Aside.upholds inferInstance contact) fun _ => ?_
  cases stored.wireCiphertext with
  | none =>
    exact .bind (encryptKeeping_upholds restorable contact _ _ _ _ _)
      fun _ => inferInstance
  | some wire => exact Aside.upholds inferInstance contact

theorem flushPendingReceiptEffects_upholds :
    (flushPendingReceiptEffects (P := P)).Upholds (Holds contact) := by
  refine .bind (Aside.upholds inferInstance contact) fun _ => ?_
  refine .forEach fun effect _ => ?_
  exact .bind (encryptReceipt_upholds restorable contact effect)
    fun _ => Aside.upholds inferInstance contact

end

end Actor

theorem Runtime.preparePendingReceiptEffects_stored
    (ran : preparePendingReceiptEffects runtime = (.ok effects, after))
    (member : effect ∈ effects) :
    ∃ row, runtime.database.deliveryReceipts.lookup effect.messageId =
        some row ∧ row.conversationId = effect.conversationId := by
  obtain ⟨now, _, told, ran⟩ := bind_ok ran
  obtain ⟨listed, _, asked, ran⟩ := bind_ok ran
  have same : _ = _ := congrArg Prod.snd told
  subst same
  obtain ⟨rfl, rfl⟩ := query_ok asked
  cases mapped : (Database.pendingReceipts now
      (unixepochMs runtime).2.database).mapM validateReceiptEffect with
  | error error =>
    rw [mapped] at ran
    cases ran
  | ok results =>
    rw [mapped] at ran
    cases ran
    obtain ⟨found, listed, valid⟩ := exists_of_mem_mapM mapped member
    have same : found = effect := by
      unfold validateReceiptEffect at valid
      split at valid
      · cases valid
      · split at valid
        · cases valid
        · cases valid
          rfl
    subst same
    obtain ⟨⟨messageId, row⟩, kept, rfl⟩ := List.mem_map.mp listed
    have stored := lookup_eq_some_iff.mpr kept
    rw [lookup_retain, Option.filter_eq_some_iff] at stored
    exact ⟨row, stored.1, rfl⟩

namespace Actor

theorem flushPendingReceiptEffects_steady {actor : Actor P}
    (unreceipted : actor.database.conversations.contains contact = true →
      ∀ messageId row,
        actor.database.deliveryReceipts.lookup messageId = some row →
          row.conversationId ≠ contact) :
    Stored (Database.Steady contact
        (actor.database.conversations.contains contact)) actor
      (flushPendingReceiptEffects actor).2 := by
  generalize housing : actor.database.conversations.contains contact = housed
    at unreceipted ⊢
  have prepared : (transact (P := P) Runtime.preparePendingReceiptEffects).Keeps
      (Stored (Database.Steady contact housed)) := inferInstance
  refine bind_end (Stored (Database.Steady contact housed) actor)
    (prepared.run actor) fun effects next ran => ?_
  have started := prepared.run actor
  rw [ran] at started
  have stored : ∀ effect ∈ effects, ∃ row,
      actor.database.deliveryReceipts.lookup effect.messageId = some row ∧
        row.conversationId = effect.conversationId := by
    obtain ⟨failed, _⟩ | ⟨value, runtime, _, _, operated, _, _, answered⟩ :=
      transact_cases ran
    · exact absurd rfl (failed effects)
    · obtain rfl := answered effects rfl
      intro effect member
      exact Runtime.preparePendingReceiptEffects_stored operated member
  have sent : (forEach effects fun effect =>
      deliverSendEffect (P := P) (.receipt effect)).Keeps
      (Stored (Database.Steady contact housed)) := by
    refine .forEach fun effect member => ?_
    have apart : effect.conversationId ≠ contact ∨ housed = false := by
      obtain ⟨row, found, same⟩ := stored effect member
      cases housed with
      | false => exact .inr rfl
      | true =>
        rw [← same]
        exact .inl (unreceipted rfl _ row found)
    have persisted := Database.persistReceiptEncryption_steady apart
      effect.messageId
    simp only [deliverSendEffect]
    infer_instance
  exact Frame.trans started (sent.run next)

end Actor

/-! ## Handling a removal by the contact -/

structure Storage.Database.Shed
    (contact : InstallationId) (before after : Database) : Prop where
  bare : Bare contact after ↔ Detached contact before
  housed : after.conversations.contains contact =
    before.conversations.contains contact
  unreceipted : before.conversations.contains contact = true →
    ∀ messageId row, after.deliveryReceipts.lookup messageId = some row →
      row.conversationId ≠ contact

theorem Storage.Database.Shed.of_remotelyRemoved {contact : InstallationId}
    (removedAt : Int) (removalId : String) (epoch : Int)
    (written : ∃ acks received ghost revision revisions commands, after =
      { before.remotelyRemoved contact removedAt removalId epoch with
        relationshipRemovalAcks := acks
        receivedEnvelopes := received
        ghost := ghost
        globalRevision := revision
        conversationRevisions := revisions
        processedCommands := commands }) : Shed contact before after := by
  obtain ⟨_, _, _, _, _, _, rfl⟩ := written
  have bare := @remotelyRemoved_bare_iff contact removedAt removalId
    epoch before
  rw [remotelyRemoved_eq, blocked_eq] at bare ⊢
  refine ⟨Iff.trans ⟨?_, ?_⟩ bare, ?_, fun present => ?_⟩
  · rintro ⟨⟨snapshot, endpoint, deliveries, receipts⟩, updates⟩
    exact ⟨⟨snapshot, endpoint, deliveries, receipts⟩, updates⟩
  · rintro ⟨⟨snapshot, endpoint, deliveries, receipts⟩, updates⟩
    exact ⟨⟨snapshot, endpoint, deliveries, receipts⟩, updates⟩
  · exact contains_modify _ _ _ _
  · refine deleteDeliveryReceipts_cleared_iff.mpr fun absent => ?_
    exact absurd (present.symm.trans absent) nofun

theorem Runtime.acceptRelationshipRemoved_ok
    (ran : acceptRelationshipRemoved arrival removedAt removalId
      epoch answer runtime = (.ok (), after)) :
    ∃ removed acks received ghost,
      runtime.database.applyRemoteRelationshipRemoval arrival.sender removedAt
        removalId epoch = .ok removed ∧
      after.database =
        { removed with
          relationshipRemovalAcks := acks
          receivedEnvelopes := received
          ghost := ghost } := by
  obtain ⟨_, _, removing, ran⟩ := bind_ok ran
  replace removing := requireText_bind_ok removing
  replace removing := requireText_bind_ok removing
  obtain ⟨_, _, applying, told⟩ := bind_ok removing
  obtain ⟨database, applied, rfl⟩ := write_ok applying
  cases told
  obtain ⟨_, _, queuing, ran⟩ := bind_ok ran
  obtain ⟨_, queued, rfl⟩ := write_ok queuing
  cases queued
  obtain ⟨_, _, storing, ran⟩ := bind_ok ran
  obtain ⟨_, stored, rfl⟩ := write_ok storing
  obtain ⟨_, rfl⟩ := Database.putReceivedEnvelope_eq stored
  cases ran
  exact ⟨database, _, _, _, applied, rfl⟩

namespace Actor

structure Undone (before after : Actor P) : Prop where
  database : after.database = before.database
  conversations : after.conversations = before.conversations

theorem bind_undone {program : Call P α}
    [still : program.Keeps Still] [aside : program.Keeps Aside]
    (ran : (program >>= rest) actor = (outcome, after)) :
    (Undone actor after ∧ ∀ value, outcome ≠ .ok value) ∨
      ∃ value next, program actor = (.ok value, next) ∧ Undone actor next ∧
        rest value next = (outcome, after) := by
  have undone : Undone actor (program actor).2 :=
    ⟨still.run actor, aside.run actor⟩
  rcases bind_cases ran with
    ⟨value, next, first, second⟩ | ⟨error, first, rfl⟩ | ⟨first, rfl⟩
  · rw [first] at undone
    exact .inr ⟨value, next, first, undone, second⟩
  · rw [first] at undone
    exact .inl ⟨undone, nofun⟩
  · rw [first] at undone
    exact .inl ⟨undone, nofun⟩

section

variable {after : Actor P}

structure Obeyed (sender : InstallationId) (succeeded : Prop)
    (before after : Actor P) : Prop where
  conversations : after.conversations = before.conversations
  database : (after.database = before.database ∧ ¬succeeded) ∨
    Database.Shed sender before.database after.database

theorem Undone.obeyed (undone : Undone actor after) (failed : ¬succeeded) :
    Obeyed sender succeeded actor after :=
  ⟨undone.conversations, .inl ⟨undone.database, failed⟩⟩

theorem acceptRemoval_obeyed (arrival : Arrival)
    (current : actor.database.staleRemoval arrival.sender
      (epoch.getD 0) = false)
    (ran : acceptRemoval arrival arrival.messageId removedAt epoch
      removalId actor = (outcome, after)) :
    Obeyed arrival.sender (outcome = .ok ()) actor after := by
  simp only [acceptRemoval, ne_eq, not_true_eq_false, if_false] at ran
  obtain ⟨undone, failed⟩ | ⟨now, ticked, _, undone, ran⟩ := bind_undone ran
  · exact undone.obeyed (failed ())
  obtain ⟨undone', failed⟩ | ⟨ack, encoded, _, undone', ran⟩ := bind_undone ran
  · exact Undone.obeyed ⟨undone'.database.trans undone.database,
      undone'.conversations.trans undone.conversations⟩ (failed ())
  have database : encoded.database = actor.database :=
    undone'.database.trans undone.database
  have conversations : encoded.conversations = actor.conversations :=
    undone'.conversations.trans undone.conversations
  obtain ⟨failed, _, _, rfl⟩ |
    ⟨_, runtime, _, _, operated, ⟨_, _, _, rfl⟩, rfl, _⟩ := transact_cases ran
  · exact ⟨conversations, .inl ⟨database, failed ()⟩⟩
  · obtain ⟨removed, _, _, _, applied, written⟩ :=
      Runtime.acceptRelationshipRemoved_ok operated
    have begun : encoded.begun.database = actor.database := database
    rw [begun] at applied
    obtain ⟨_, rfl⟩ := Database.applyRemoteRelationshipRemoval_eq_ok.mp applied
    simp only [current, Bool.false_eq_true, if_false] at written
    refine ⟨conversations, .inr (.of_remotelyRemoved removedAt
      (removalId.getD arrival.messageId).text (epoch.getD 0) ?_)⟩
    rw [written]
    exact ⟨_, _, _, _, _, _, rfl⟩

theorem openEnvelope_obeyed
    (decrypted : P.decrypt conversation ciphertext = .ok (plaintext, advanced))
    (decoded : P.decodeApplication plaintext = .ok (.relationshipRemoved
      messageId removedAt preserveHistory epoch removalId))
    (current : actor.database.staleRemoval sender (epoch.getD 0) =
      false)
    (ran : openEnvelope sender messageId ciphertext conversation actor =
      (outcome, after)) :
    Obeyed sender (∃ value, outcome = .ok value) actor after := by
  unfold openEnvelope at ran
  rw [run_bind_ok (run_check decrypted _ _)] at ran
  dsimp only at ran
  rw [run_bind_ok (run_check decoded _ _)] at ran
  obtain ⟨undone, failed⟩ | ⟨snapshot, saved, _, undone, ran⟩ := bind_undone ran
  · exact undone.obeyed fun ⟨value, same⟩ => failed value same
  obtain ⟨undone', failed⟩ | ⟨now, ticked, _, undone', ran⟩ := bind_undone ran
  · exact Undone.obeyed ⟨undone'.database.trans undone.database,
      undone'.conversations.trans undone.conversations⟩
      fun ⟨value, same⟩ => failed value same
  have database := undone'.database.trans undone.database
  have conversations := undone'.conversations.trans undone.conversations
  have ended : Obeyed sender (∃ value, outcome = .ok value) ticked after := by
    rw [← database] at current
    let arrival : Arrival :=
      ⟨sender, messageId, P.sha256 ciphertext, now, snapshot⟩
    rcases bind_cases ran with
      ⟨_, next, accepted, answered⟩ | ⟨error, accepted, rfl⟩ | ⟨accepted, rfl⟩
    · have obeyed := acceptRemoval_obeyed arrival current accepted
      cases answered
      refine ⟨obeyed.conversations, .inr ?_⟩
      rcases obeyed.database with ⟨_, failed⟩ | shed
      · exact absurd rfl failed
      · exact shed
    · have obeyed := acceptRemoval_obeyed arrival current accepted
      exact ⟨obeyed.conversations, obeyed.database.imp_left
        fun kept => ⟨kept.1, nofun⟩⟩
    · have obeyed := acceptRemoval_obeyed arrival current accepted
      exact ⟨obeyed.conversations, obeyed.database.imp_left
        fun kept => ⟨kept.1, nofun⟩⟩
  refine ⟨ended.conversations.trans conversations, ?_⟩
  rw [← database]
  exact ended.database

theorem resumed_after_removal (restorable : P.Restorable)
    {start opened : Actor P}
    (shed : Database.Shed sender start.database opened.database)
    (ran : (do
      keepConversation sender group
      ignoring flushPendingReceiptEffects :
      Call P Unit) opened = (outcome, after)) (finished : outcome ≠ .crash) :
    Holds sender after ∧
      (Database.Bare sender after.database ↔
        Database.Detached sender start.database) := by
  let kept := onConversations (·.insert sender group) opened
  have resumed : ignoring flushPendingReceiptEffects kept = (outcome, after) :=
    ran
  constructor
  · have flushed := flushPendingReceiptEffects_upholds restorable sender
    have upheld : (ignoring (P := P) flushPendingReceiptEffects).Upholds
        (Holds sender) := by
      unfold ignoring
      infer_instance
    have held := upheld.run kept (by simp [Holds, kept, onConversations,
      contains])
    rw [resumed] at held
    exact held finished
  · have steady := flushPendingReceiptEffects_steady
      (show kept.database.conversations.contains sender = true → _ from
        fun present => shed.unreceipted (shed.housed.symm.trans present))
    have same : (ignoring (P := P) flushPendingReceiptEffects kept).2 =
        (flushPendingReceiptEffects kept).2 := by
      unfold ignoring
      rw [bind_pure_end]
      rfl
    rw [resumed] at same
    rw [← same] at steady
    exact (steady rfl).2.trans shed.bare

end

end Actor

/-- An applied removal never takes the conversation out of memory, and leaves
the database bare only where it had little to clear. -/
theorem remote_removal_leaves_the_session
    {P : Primitives} (restorable : P.Restorable) {actor after : Actor P}
    {sender : InstallationId} {messageId : Uuid} {ciphertext : Bytes}
    {conversation advanced : P.Group} {plaintext : Bytes} {removedAt : Int}
    {preserveHistory : Bool} {relationshipEpoch : Option Int}
    {removalId : Option Uuid} {outcome : Outcome EngineError Unit}
    (unknown : actor.database.receivedEnvelopes.lookup (sender, messageId) =
      none)
    (held : actor.conversations.lookup sender = some conversation)
    (decrypted : P.decrypt conversation ciphertext = .ok (plaintext, advanced))
    (decoded : P.decodeApplication plaintext = .ok (.relationshipRemoved
      messageId removedAt preserveHistory relationshipEpoch removalId))
    (current : actor.database.staleRemoval sender (relationshipEpoch.getD 0) =
      false)
    (ran : Actor.handleApplicationEnvelope sender messageId ciphertext actor =
      (outcome, after))
    (finished : outcome ≠ .crash)
    (committed : after.database.receivedEnvelopes.contains (sender, messageId) =
      true) :
    after.conversations.contains sender = true ∧
      (Database.Bare sender after.database ↔
        Database.Detached sender actor.database) := by
  have changed : after.database ≠ actor.database := by
    intro same
    rw [same, Table.contains, unknown] at committed
    cases committed
  obtain ⟨undone, _⟩ | ⟨existing, next, asked, undone, ran⟩ :=
    Actor.bind_undone ran
  · exact absurd undone.database changed
  obtain ⟨rfl, _⟩ := Actor.query_ok asked
  rw [unknown] at ran
  dsimp only at ran
  rw [run_bind_ok (run_read _ _), undone.conversations, held]
    at ran
  dsimp only at ran
  rw [run_bind_ok (run_modify _ _)] at ran
  obtain ⟨snapshot, restored, saved, back⟩ := restorable conversation
  rw [run_bind_ok (Actor.run_check saved _ _)] at ran
  have starting : (Actor.onConversations (·.erase sender) next).database =
      actor.database := undone.database
  rw [← starting] at current
  rcases attempt_bind_cases ran with
    ⟨group, opened, succeeded, ran⟩ | ⟨error, opened, failed, ran⟩ |
      ⟨_, crashed⟩
  · have obeyed := Actor.openEnvelope_obeyed decrypted decoded current succeeded
    rcases obeyed.database with ⟨_, failed⟩ | shed
    · exact absurd ⟨group, rfl⟩ failed
    · rw [starting] at shed
      exact Actor.resumed_after_removal restorable shed ran finished
  · have obeyed := Actor.openEnvelope_obeyed decrypted decoded current failed
    dsimp only at ran
    rw [run_bind_ok (Actor.run_check back _ _)] at ran
    cases ran
    rcases obeyed.database with ⟨same, _⟩ | shed
    · exact absurd (same.trans starting) changed
    · rw [starting] at shed
      exact ⟨by simp [Actor.onConversations, Table.contains], shed.bare⟩
  · exact absurd crashed finished

def Primitives.parting : Primitives :=
  { Primitives.plain "me" with
    decodeApplication := fun _ =>
      .ok (.relationshipRemoved 0 5 true (some 1) none) }

theorem Primitives.parting_restorable : Primitives.parting.Restorable :=
  fun group => ⟨group, group, rfl, rfl⟩

def inTouchWithAlice : Actor .parting :=
  Actor.assemble .parting
    (Storage.machine.run .empty
      (Storage.meetingAlice ++ [.putConversationMlsSnapshot "alice" []]))
    (Table.empty.insert "alice" []) false none 0 (.initial (.calm 7000))

def leftByAlice : Outcome EngineError Unit × Actor .parting :=
  Actor.handleApplicationEnvelope "alice" 0 [] inTouchWithAlice

theorem leftByAlice_ok : leftByAlice.1 = .ok () := by decide +kernel

theorem leftByAlice_ran :
    handleApplicationEnvelope "alice" 0 [] inTouchWithAlice =
      (.ok (), leftByAlice.2) := by
  exact (Prod.eta leftByAlice).symm

theorem alice_is_still_in_memory :
    leftByAlice.2.conversations.contains "alice" = true ∧
      (Database.Bare "alice" leftByAlice.2.database ↔
        Database.Detached "alice" inTouchWithAlice.database) := by
  have unknown : inTouchWithAlice.database.receivedEnvelopes.lookup
      ("alice", 0) = none := by decide +kernel
  have held : inTouchWithAlice.conversations.lookup "alice" = some [] := rfl
  have decrypted : Primitives.parting.decrypt [] [] = .ok ([], [3]) := rfl
  have current : inTouchWithAlice.database.staleRemoval "alice" 1 = false := by
    decide +kernel
  have committed : leftByAlice.2.database.receivedEnvelopes.contains
      ("alice", 0) = true := by decide +kernel
  exact remote_removal_leaves_the_session Primitives.parting_restorable unknown
    held decrypted rfl current leftByAlice_ran nofun committed

/-- Tombstone and acknowledgement are written, the snapshot and the conversation
are still there. -/
theorem removal_leaves_the_snapshot_of_alice :
    leftByAlice.1 = .ok () ∧
      leftByAlice.2.database.relationshipTombstones.contains "alice" = true ∧
      ¬(Database.Bare "alice" leftByAlice.2.database ∧
        leftByAlice.2.conversations.contains "alice" = false) := by
  refine ⟨leftByAlice_ok, by decide +kernel, fun ⟨bare, _⟩ => ?_⟩
  exact absurd bare.snapshot (by decide +kernel)

end Torchat
