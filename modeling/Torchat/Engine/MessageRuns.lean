import Torchat.Engine.LedgerMoves

namespace Torchat

open Foundation Storage

namespace Messaging

/-- What is run on the tables of messages: the first ones are transactions, the
last ones single statements that the engine makes outside of one. -/
inductive Input (P : Primitives)
  | send
      (contact : InstallationId) (conversation : P.Group)
      (context : IdempotencyCommitContext) (conversationId : InstallationId)
      (body : String) (replyToMessageId : Option Uuid)
      (nowMs nextAttemptAt : Int)
  | queue
      (operationId descriptor : String) (conversationId : InstallationId)
      (text : String) (replyToMessageId : Option Uuid) (nowMs : Int)
  | retry (operationId descriptor : String) (messageId : Uuid) (nowMs : Int)
  | preparePending (nowMs : Int)
  | prepareSends
  | outcome
      (messageId : Uuid) (result : MessageTransportOutcome)
      (retryAt : Option Int) (errorDetail : Option String) (nowMs : Int)
  | receive
      (arrival : Arrival) (body : String) (replyTo : Option MessageReply)
      (envelopeId : Uuid)
  | delete (messageId : Uuid) (nowMs : Int)
  | deliveryReceipt (arrival : Arrival) (messageId : Uuid)
  | readReceipt (arrival : Arrival) (messageIds : List Uuid)
  | removal
      (operationId descriptor : String) (contact : InstallationId)
      (preserveHistory : Bool) (removalId : String) (removedAt : Int)
  | remoteRemoval
      (arrival : Arrival) (removedAt : Int) (removalId : String)
      (relationshipEpoch : Int) (ack : Bytes)
  | claim
      (messageId : Uuid) (nextAttemptAt : Int) (ackDeadline : Option Int)
      (lastTransportError : Option String) (nowMs : Int)
  | encrypt
      (messageId : Uuid) (wire : Sealed) (conversationId : InstallationId)
      (snapshot : Bytes) (nextAttemptAt : Int) (ackDeadline : Option Int)
      (nowMs : Int)
  | disconnect (nowMs : Int)
  | requeue (nowMs : Int)
  | expediteDeliveries (contact : InstallationId)
  | expedite (contact : InstallationId)

def Input.program : Input P → Runtime.Call Unit
  | send contact conversation context conversationId body replyToMessageId nowMs
      nextAttemptAt => do
      let _ ← Runtime.sendNewMessage P contact conversation context
        conversationId body replyToMessageId nowMs nextAttemptAt
  | queue operationId descriptor conversationId text replyToMessageId nowMs => do
      let _ ← Runtime.featureQueueMessageDelivery operationId descriptor
        conversationId text replyToMessageId nowMs
  | retry operationId descriptor messageId nowMs => do
      let _ ← Runtime.featureRetryMessage operationId descriptor messageId nowMs
  | preparePending nowMs => do
      let _ ← Runtime.featurePreparePendingMessageDeliveries nowMs
  | prepareSends => do
      let _ ← Runtime.preparePendingSendEffects
  | outcome messageId result retryAt errorDetail nowMs =>
    Runtime.featureApplyMessageDeliveryOutcome messageId result retryAt
      errorDetail nowMs
  | receive arrival body replyTo envelopeId =>
    Runtime.acceptMessage arrival body replyTo envelopeId
  | delete messageId nowMs =>
    Runtime.featureDeleteMessageDelivery messageId nowMs
  | deliveryReceipt arrival messageId =>
    Runtime.acceptDeliveryReceipt arrival messageId
  | readReceipt arrival messageIds =>
    Runtime.acceptReadReceipt arrival messageIds
  | removal operationId descriptor contact preserveHistory removalId removedAt =>
    Runtime.removeRelationship operationId descriptor contact preserveHistory
      removalId removedAt
  | remoteRemoval arrival removedAt removalId relationshipEpoch ack =>
    Runtime.acceptRelationshipRemoved arrival removedAt removalId
      relationshipEpoch ack
  | claim messageId nextAttemptAt ackDeadline lastTransportError nowMs => do
      let _ ← Runtime.writeReturning (Database.claimOutgoingAttempt messageId
        nextAttemptAt ackDeadline lastTransportError nowMs)
  | encrypt messageId wire conversationId snapshot nextAttemptAt ackDeadline
      nowMs => do
      let _ ← Runtime.writeReturning (Database.persistOutboundEncryptionAndClaim
        messageId wire conversationId snapshot nextAttemptAt ackDeadline nowMs)
  | disconnect nowMs => Runtime.write (Database.requeueAfterDisconnect nowMs)
  | requeue nowMs => Runtime.write (Database.requeuePeerDeliveries nowMs)
  | expediteDeliveries contact =>
    Runtime.write (Database.expediteDeliveries contact)
  | expedite contact => Runtime.write (Database.expediteMessages contact)

structure Attempt (P : Primitives) where
  input : Input P
  session : RuntimeSession
  host : Host
  commits : Bool

def Attempt.commit (attempt : Attempt P) (database : Database) : Database :=
  match attempt.input.program ⟨database, attempt.session, attempt.host⟩ with
  | (.ok (), runtime) => if attempt.commits then runtime.database else database
  | (.err _, _) => database
  | (.crash, _) => database

def machine (P : Primitives) (start : Database) :
    Machine Database (Attempt P) where
  init := start
  enabled database attempt :=
    ∀ turn, database.messages.lookup (attempt.host.world.uuid turn) = none
  next database attempt := attempt.commit database

inductive Step (P : Primitives) : Input P → Ledger → Ledger → Prop
  | moved {input : Input P} {before after : Ledger}
      (moves : Relation.ReflTransGen Ledger.Move before after) :
      Step P input before after
  | acknowledged {arrival : Arrival} {messageId : Uuid} {before after : Ledger}
      (acknowledged : Ledger.Acknowledged messageId before after) :
      Step P (.deliveryReceipt arrival messageId) before after
  | received {arrival : Arrival} {body : String}
      {replyTo : Option MessageReply} {envelopeId : Uuid}
      {before after : Ledger}
      (received : Ledger.Received arrival.messageId before after) :
      Step P (.receive arrival body replyTo envelopeId) before after
  | deleted {messageId : Uuid} {nowMs : Int} {before : Ledger}
      {operations : Ledger.Operations}
      (finished : Ledger.Finished messageId before.operations operations) :
      Step P (.delete messageId nowMs) before
        (before.discard messageId operations)
  | dismissed {arrival : Arrival} {removedAt : Int} {removalId : String}
      {relationshipEpoch : Int} {ack : Bytes} {before : Ledger} :
      Step P (.remoteRemoval arrival removedAt removalId relationshipEpoch ack)
        before (before.dismiss arrival.sender)
  | removed {operationId descriptor : String} {contact : InstallationId}
      {preserveHistory : Bool} {removalId : String} {removedAt : Int}
      {before : Ledger} {begun completed : Ledger.Operations}
      (beginning : Ledger.Elsewhere before.operations begun)
      (completing : Ledger.Elsewhere begun completed) :
      Step P (.removal operationId descriptor contact preserveHistory removalId
          removedAt) before
        { (if preserveHistory then before.dismiss contact
          else (before.dismiss contact).forget contact : Ledger) with
          operations := completed }

theorem Step.unchanged (ledger : Ledger) : Step P input ledger ledger :=
  .moved .refl

open Torchat.Runtime in
theorem Input.step
    (fresh : ∀ turn, runtime.database.ledger.messages
      (runtime.host.world.uuid turn) = none)
    (ran : input.program runtime = (.ok (), final)) :
    Step P input runtime.database.ledger final.database.ledger := by
  cases input with
  | send =>
    obtain ⟨_, next, sending, ended⟩ := bind_ok ran
    cases ended
    exact .moved (sendNewMessage_moves fresh sending)
  | queue =>
    obtain ⟨_, next, queueing, ended⟩ := bind_ok ran
    cases ended
    exact .moved (featureQueueMessageDelivery_moves fresh queueing)
  | retry =>
    obtain ⟨_, next, retrying, ended⟩ := bind_ok ran
    cases ended
    exact .moved (featureRetryMessage_moves retrying)
  | preparePending =>
    obtain ⟨_, next, preparing, ended⟩ := bind_ok ran
    cases ended
    exact .moved (featurePreparePendingMessageDeliveries_moves preparing)
  | prepareSends =>
    obtain ⟨_, next, preparing, ended⟩ := bind_ok ran
    cases ended
    exact .moved (preparePendingSendEffects_moves preparing)
  | outcome =>
    exact .moved (.single (featureApplyMessageDeliveryOutcome_moves ran))
  | receive => exact .received (acceptMessage_received ran)
  | delete =>
    obtain ⟨operations, finished, written⟩ :=
      featureDeleteMessageDelivery_ledger ran
    rw [written]
    exact .deleted finished
  | deliveryReceipt =>
    exact .acknowledged (acceptDeliveryReceipt_acknowledged ran)
  | readReceipt => exact .moved (acceptReadReceipt_moved ran)
  | removal operationId descriptor contact preserve =>
    obtain ⟨changed, next, requesting, told⟩ := bind_ok ran
    have same : final.database = next.database := by
      cases changed with
      | false =>
        cases told
        rfl
      | true => exact within_end Untouched told
    rw [same]
    rcases requestRelationshipRemoval_ledger requesting with
      unchanged | ⟨begun, removed, completed, beginning, stale | carried,
        completing, written⟩
    · rw [unchanged]
      exact .unchanged _
    · rw [written]
      rw [stale] at completing ⊢
      exact .moved (.tail (.single (.operate beginning)) (.operate completing))
    · rw [written]
      cases preserve with
      | true | false =>
        rw [carried] at completing ⊢
        exact .removed beginning completing
  | remoteRemoval =>
    rcases acceptRelationshipRemoved_dismissed ran with same | dismissed
    · rw [same]
      exact .unchanged _
    · rw [dismissed]
      exact .dismissed
  | claim | encrypt =>
    unfold Input.program at ran
    have same : Database.SameBooks runtime.database final.database :=
      within_end Database.SameBooks ran
    exact .moved same.moved
  | disconnect =>
    obtain ⟨database, written, rfl⟩ := write_ok ran
    exact .moved (.single (Database.requeueAfterDisconnect_move written))
  | requeue =>
    obtain ⟨database, written, rfl⟩ := write_ok ran
    exact .moved (.single (Database.requeuePeerDeliveries_move written))
  | expediteDeliveries =>
    obtain ⟨database, written, rfl⟩ := write_ok ran
    rw [Database.expediteDeliveries_ledger written]
    exact .unchanged _
  | expedite =>
    obtain ⟨database, written, rfl⟩ := write_ok ran
    exact .moved (.single (Database.expediteMessages_move written))

theorem Attempt.step (enabled : (machine P start).enabled database attempt) :
    Step P attempt.input database.ledger (attempt.commit database).ledger := by
  unfold Attempt.commit
  split
  · rename_i runtime ran
    split
    · refine Input.step (fun turn => ?_) ran
      simp only [Database.ledger, enabled turn, Option.map_none]
    · exact .unchanged _
  · exact .unchanged _
  · exact .unchanged _

theorem advances_of_moves
    (moves : Relation.ReflTransGen Ledger.Move before after) :
    before.Advances after := by
  induction moves with
  | refl => exact .refl _
  | tail _ moved induction => exact induction.trans moved.advances

theorem Step.retreats (step : Step P input before after) :
    before.Retreats after := by
  cases step with
  | moved moves => exact (advances_of_moves moves).retreats
  | acknowledged acknowledged => exact acknowledged.advances.retreats
  | received received => exact received.advances.retreats
  | deleted => exact Ledger.discard_retreats _ _
  | dismissed => exact (Ledger.dismiss_advances _).retreats
  | @removed _ _ contact preserve _ _ before _ _ _ _ =>
    have dismissed : before.Advances (before.dismiss contact) :=
      Ledger.dismiss_advances contact
    cases preserve with
    | true => exact dismissed.retreats
    | false => exact dismissed.then_retreats (Ledger.forget_retreats contact)

theorem run_follows (admitted : (machine P start).Admits database attempts)
    (stored : database.ledger.messages messageId = some entry) :
    (∃ earlier later, attempts = earlier ++ later ∧
      ((machine P start).run database earlier).ledger.messages messageId =
        none) ∨
    ∃ last, ((machine P start).run database attempts).ledger.messages messageId =
      some last ∧ last.Follows entry := by
  induction attempts generalizing database entry with
  | nil => exact .inr ⟨entry, stored, .refl entry⟩
  | cons attempt rest induction =>
    rcases (Attempt.step admitted.1).retreats messageId entry stored with
      gone | ⟨next, kept, followed⟩
    · exact .inl ⟨[attempt], rest, rfl, gone⟩
    · rcases induction admitted.2 kept with
        ⟨earlier, later, rfl, gone⟩ | ⟨last, found, follows⟩
      · exact .inl ⟨attempt :: earlier, later, rfl, gone⟩
      · exact .inr ⟨last, found, follows.trans followed⟩

/-- Over any run of these inputs, repeated, failing or not committed as they may
be, a message that is not deleted on the way ends in a state that follows its
first one. -/
theorem message_states_never_go_back
    {start : Database} {attempts : List (Attempt P)} {messageId : Uuid}
    {row : MessageRow}
    (admitted : (machine P start).Admits start attempts)
    (stored : start.messages.lookup messageId = some row) :
    (∃ earlier later, attempts = earlier ++ later ∧
      ((machine P start).run start earlier).messages.lookup messageId = none) ∨
    ∃ last, ((machine P start).run start attempts).messages.lookup messageId =
        some last ∧
      last.message.outgoing = row.message.outgoing ∧
      (row.message.outgoing = false →
        last.message.state = row.message.state) ∧
      (row.message.state = .delivered →
        last.message.state = .delivered ∨ last.message.state = .read) ∧
      (row.message.state = .read → last.message.state = .read) := by
  have entered : start.ledger.messages messageId = some row.message.entry := by
    simp only [Database.ledger, stored, Option.map_some]
  rcases run_follows admitted entered with
    ⟨earlier, later, split, gone⟩ | ⟨entry, found, follows⟩
  · exact .inl ⟨earlier, later, split, Option.map_eq_none_iff.mp gone⟩
  · obtain ⟨last, kept, rfl⟩ := Option.map_eq_some_iff.mp found
    exact .inr ⟨last, kept, follows.outgoing, follows.incoming,
      follows.delivered, follows.read⟩

def conversing : Database := Storage.machine.run .empty Storage.meetingAlice

def calmly (messageId : Uuid) (input : Input (.plain "bob")) :
    Attempt (.plain "bob") where
  input := input
  session := .new
  host := .initial { World.calm 7000 with uuid := fun _ => messageId }
  commits := true

def hello : Attempt (.plain "bob") :=
  calmly 5 (.queue "operation" "descriptor" "alice" "hello" none 7000)

def fromAlice (messageId : Uuid) : Arrival := ⟨"alice", messageId, [1], 7, [2]⟩

theorem calmly_enabled (free : database.messages.lookup messageId = none) :
    (machine (.plain "bob") start).enabled database (calmly messageId input) :=
  fun _ => free

def arrived : Database :=
  (machine (.plain "bob") conversing).run conversing
    [hello, calmly 6 (.outcome 5 .delivered none none 7000)]

def late : List (Attempt (.plain "bob")) :=
  [calmly 6 (.disconnect 8000),
    calmly 6 (.outcome 5 .peerUnavailable none none 8000),
    calmly 6 (.retry "again" "descriptor" 5 8000),
    calmly 6 (.readReceipt (fromAlice 9) [5])]

def arrivedRow : MessageRow :=
  ⟨⟨5, "alice", true, "hello", none, .delivered, 7000, 0, none, 0, none, none⟩,
    none⟩

theorem late_inputs_leave_it_arrived :
    (∃ earlier later, late = earlier ++ later ∧
      ((machine (.plain "bob") arrived).run arrived earlier).messages.lookup 5 =
        none) ∨
    ∃ last, ((machine (.plain "bob") arrived).run arrived late).messages.lookup
        5 = some last ∧
      last.message.outgoing = arrivedRow.message.outgoing ∧
      (arrivedRow.message.outgoing = false →
        last.message.state = arrivedRow.message.state) ∧
      (arrivedRow.message.state = .delivered →
        last.message.state = .delivered ∨ last.message.state = .read) ∧
      (arrivedRow.message.state = .read → last.message.state = .read) :=
  message_states_never_go_back
    ⟨calmly_enabled (by decide +kernel), calmly_enabled (by decide +kernel),
      calmly_enabled (by decide +kernel), calmly_enabled (by decide +kernel),
      trivial⟩
    (by decide +kernel)

/-! ## Messages that are lost -/

/-- The deletion of a message on this device, or a removal that also deletes the
history of the contact. -/
def Input.Erases (messageId : Uuid) (contact : InstallationId) :
    Input P → Prop
  | delete deleted _ => deleted = messageId
  | removal _ _ removed preserveHistory _ _ =>
    removed = contact ∧ preserveHistory = false
  | _ => False

theorem Step.erases_of_lost (step : Step P input before after)
    (stored : before.messages messageId = some entry)
    (gone : after.messages messageId = none) :
    input.Erases messageId entry.conversationId := by
  have never (advanced : before.Advances after) : False := by
    obtain ⟨later, kept, _⟩ := advanced messageId entry stored
    rw [gone] at kept
    cases kept
  cases step with
  | moved moves => exact (never (advances_of_moves moves)).elim
  | acknowledged acknowledged => exact (never acknowledged.advances).elim
  | received received => exact (never received.advances).elim
  | @deleted deleted _ _ operations _ =>
    by_contra other
    rw [Ledger.discard_messages.mpr ⟨Ne.symm other, stored⟩] at gone
    cases gone
  | dismissed => exact (never (Ledger.dismiss_advances _)).elim
  | @removed _ _ contact preserve _ _ _ _ _ _ _ =>
    cases preserve with
    | true => exact (never (Ledger.dismiss_advances contact)).elim
    | false =>
      -- a dismissed message stays in its conversation
      have inside : entry.conversationId = contact := by
        by_contra elsewhere
        simp [Ledger.forget, Ledger.dismiss, Ledger.Entry.within, stored,
          elsewhere] at gone
      exact ⟨inside.symm, rfl⟩

theorem run_erases (admitted : (machine P start).Admits database attempts)
    (stored : database.ledger.messages messageId = some entry)
    (gone : ((machine P start).run database attempts).ledger.messages
      messageId = none) :
    ∃ earlier attempt later last, attempts = earlier ++ attempt :: later ∧
      ((machine P start).run database earlier).ledger.messages messageId =
        some last ∧
      ((machine P start).run database (earlier ++ [attempt])).ledger.messages
        messageId = none ∧
      attempt.input.Erases messageId last.conversationId := by
  induction attempts generalizing database entry with
  | nil => cases stored.symm.trans gone
  | cons attempt rest induction =>
    cases next : (attempt.commit database).ledger.messages messageId with
    | none =>
      exact ⟨[], attempt, rest, entry, rfl, stored, next,
        (Attempt.step admitted.1).erases_of_lost stored next⟩
    | some kept =>
      obtain ⟨earlier, eraser, later, last, rfl, found, lost, erases⟩ :=
        induction admitted.2 next gone
      exact ⟨attempt :: earlier, eraser, later, last, rfl, found, lost, erases⟩

/-- No retry, reconnection, receipt, outcome or removal by the peer deletes a
message: the step that does is its deletion on this device, or this side's
removal of the message's contact with its history. -/
theorem messages_are_lost_only_by_erasing
    {start : Database} {attempts : List (Attempt P)} {messageId : Uuid}
    {row : MessageRow}
    (admitted : (machine P start).Admits start attempts)
    (stored : start.messages.lookup messageId = some row)
    (gone : ((machine P start).run start attempts).messages.lookup messageId =
      none) :
    ∃ earlier attempt later last, attempts = earlier ++ attempt :: later ∧
      ((machine P start).run start earlier).messages.lookup messageId =
        some last ∧
      ((machine P start).run start (earlier ++ [attempt])).messages.lookup
        messageId = none ∧
      attempt.input.Erases messageId last.message.conversationId := by
  have entered : start.ledger.messages messageId = some row.message.entry := by
    simp only [Database.ledger, stored, Option.map_some]
  obtain ⟨earlier, attempt, later, entry, split, found, lost, erases⟩ :=
    run_erases admitted entered (Option.map_eq_none_iff.mpr gone)
  obtain ⟨last, kept, rfl⟩ := Option.map_eq_some_iff.mp found
  exact ⟨earlier, attempt, later, last, split, kept,
    Option.map_eq_none_iff.mp lost, erases⟩

def erasing : List (Attempt (.plain "bob")) :=
  [calmly 6 (.disconnect 8000),
    calmly 6 (.removal "removal" "descriptor" "alice" false "id" 8000)]

theorem arrived_message_is_lost_by_erasing :
    ∃ earlier attempt later last, erasing = earlier ++ attempt :: later ∧
      ((machine (.plain "bob") arrived).run arrived earlier).messages.lookup 5 =
        some last ∧
      ((machine (.plain "bob") arrived).run arrived
        (earlier ++ [attempt])).messages.lookup 5 = none ∧
      attempt.input.Erases 5 last.message.conversationId :=
  messages_are_lost_only_by_erasing
    ⟨calmly_enabled (by decide +kernel), calmly_enabled (by decide +kernel),
      trivial⟩
    (show arrived.messages.lookup 5 = some arrivedRow by decide +kernel)
    (by decide +kernel)

/-! ## Messages, deliveries and operations agree -/

structure Blank (database : Database) : Prop where
  messages : database.messages = .empty
  deliveries : database.outboundDeliveries = .empty
  operations : database.durableOperations = .empty

theorem Blank.balanced (blank : Blank database) : database.ledger.Balanced := by
  have messages (messageId : Uuid) : database.ledger.messages messageId = none := by
    simp [Database.ledger, blank.messages]
  have deliveries (messageId : Uuid) :
      database.ledger.deliveries messageId = none := by
    simp [Database.ledger, blank.deliveries]
  have operations (key : String) : database.ledger.operations key = none := by
    simp [Database.ledger, blank.operations]
  refine ⟨⟨?_, ?_⟩, ?_, ?_, ?_, ?_⟩
  · intro key operation found
    rw [operations] at found
    cases found
  · intro messageId first second one other found
    rw [operations] at found
    cases found
  · intro messageId entry found
    rw [messages] at found
    cases found
  · intro messageId contact found
    rw [deliveries] at found
    cases found
  · intro messageId entry found
    rw [messages] at found
    cases found
  · intro messageId entry found
    rw [messages] at found
    cases found

def Undecided (database : Database) (messageId : Uuid) : Prop :=
  ∃ operationId operation,
    database.durableOperations.lookup operationId = some operation ∧
    operation.operationType = .messageDelivery ∧
    operation.entityId = messageId.text ∧
    operation.state.isTerminal = false

def Idle (database : Database) (contact : InstallationId) : Prop :=
  ∀ messageId row, database.messages.lookup messageId = some row →
    row.message.conversationId = contact → row.message.outgoing = true →
    MessageState.isPending row.message.state = true →
    ¬ Undecided database messageId

/-- The inputs that leave the three tables in step: a delivery receipt comes for
a message that is no longer being sent, a removal that keeps the history for a
contact no message waits for, a new message under an id without an undecided
delivery. -/
def InStep (database : Database) (attempt : Attempt P) : Prop :=
  match attempt.input with
  | .deliveryReceipt _ messageId =>
    ∀ row, database.messages.lookup messageId = some row →
      row.message.state ≠ .sending
  | .receive arrival _ _ _ => ¬ Undecided database arrival.messageId
  | .removal _ _ contact preserveHistory _ _ =>
    preserveHistory = true → Idle database contact
  | .remoteRemoval arrival _ _ _ _ => Idle database arrival.sender
  | _ => True

theorem open_iff_undecided :
    Ledger.Operations.Open database.ledger.operations messageId ↔
      Undecided database messageId := by
  constructor
  · rintro ⟨key, operation, found, ⟨typed, named⟩, running⟩
    exact ⟨key, operation, found, typed, named, running⟩
  · rintro ⟨key, operation, found, typed, named, running⟩
    exact ⟨key, operation, found, ⟨typed, named⟩, running⟩

theorem Idle.closed
    (idle : Idle database contact) {operations : Ledger.Operations}
    (fewer : ∀ messageId, operations.Open messageId →
      Ledger.Operations.Open database.ledger.operations messageId) :
    ∀ messageId entry, database.ledger.messages messageId = some entry →
      entry.conversationId = contact → entry.pending = true →
      ¬ operations.Open messageId := by
  intro messageId entry found conversation pending opened
  obtain ⟨row, stored, rfl⟩ := Option.map_eq_some_iff.mp found
  obtain ⟨outgoing, awaits⟩ := Bool.and_eq_true_iff.mp pending
  exact idle messageId row stored conversation outgoing awaits
    (open_iff_undecided.mp (fewer messageId opened))

theorem Attempt.balanced (enabled : (machine P start).enabled database attempt)
    (inStep : InStep database attempt) (balanced : database.ledger.Balanced) :
    (attempt.commit database).ledger.Balanced := by
  have step := Attempt.step enabled
  obtain ⟨input, session, host, commits⟩ := attempt
  revert step
  generalize ((Attempt.mk input session host commits).commit database).ledger =
    after
  intro step
  cases step with
  | moved moves =>
    induction moves with
    | refl => exact balanced
    | tail _ moved induction => exact induction.move moved
  | acknowledged acknowledged =>
    refine balanced.acknowledged acknowledged fun entry found => ?_
    obtain ⟨row, stored, rfl⟩ := Option.map_eq_some_iff.mp found
    exact inStep row stored
  | received received =>
    exact balanced.received received fun opened =>
      inStep (open_iff_undecided.mp opened)
  | deleted finished => exact balanced.discard finished
  | dismissed =>
    exact balanced.dismiss (Idle.closed inStep fun _ opened => opened)
  | @removed _ _ contact preserve _ _ _ begun completed beginning
      completing =>
      have started := balanced.move (.operate beginning)
      cases preserve with
      | true =>
        have dismissed := started.dismiss
          (Idle.closed (inStep rfl) fun _ opened =>
            beginning.open_of_open opened)
        exact dismissed.move (.operate completing)
      | false =>
        exact (started.forget contact).move (.operate completing)

/-- In a run whose inputs all come in step, an outgoing message is queued or
being sent exactly when its delivery is queued, and the operations of one that
is not have come to their end. -/
theorem tables_agree_in_step
    {start database : Database} (blank : Blank start)
    (reached : ((machine P start).restrict InStep).Reachable database)
    {messageId : Uuid} {row : MessageRow}
    (stored : database.messages.lookup messageId = some row) :
    (row.message.outgoing = true →
      (MessageState.isPending row.message.state = true ↔
        database.outboundDeliveries.contains messageId = true)) ∧
    (MessageState.isPending row.message.state = false →
      ¬ Undecided database messageId) := by
  have balanced : database.ledger.Balanced :=
    reached.invariant (fun database => database.ledger.Balanced) blank.balanced
      fun state attempt held enabled => Attempt.balanced enabled.1 enabled.2 held
  have found : database.ledger.messages messageId = some row.message.entry := by
    simp only [Database.ledger, stored, Option.map_some]
  refine ⟨fun outgoing => ⟨fun pending => ?_, fun owed => ?_⟩, fun done => ?_⟩
  · obtain ⟨contact, owed⟩ := balanced.queued found
      (Bool.and_eq_true_iff.mpr ⟨outgoing, pending⟩)
    obtain ⟨delivery, queued, _⟩ := Option.map_eq_some_iff.mp owed
    exact Table.contains_iff.mpr ⟨delivery, queued⟩
  · obtain ⟨delivery, queued⟩ := Table.contains_iff.mp owed
    have listed : database.ledger.deliveries messageId =
        some delivery.contactInstallationId := by
      simp only [Database.ledger, queued, Option.map_some]
    obtain ⟨entry, same, _, pending⟩ := balanced.owed listed
    cases found.symm.trans same
    exact (Bool.and_eq_true_iff.mp pending).2
  · rw [← open_iff_undecided]
    refine balanced.settled found ?_
    simp only [Ledger.Entry.pending, ChatMessage.entry, done, Bool.and_false]

def underway : Database :=
  (machine (.plain "bob") conversing).run conversing [hello]

def helloOperation : DurableOperation :=
  (DurableOperation.pending "operation" .messageDelivery (5 : Uuid).text 7000
    "descriptor").beginAttempt 7000

theorem conversing_blank : Blank conversing := ⟨rfl, rfl, rfl⟩

theorem arrived_tables_agree :
    Undecided underway 5 ∧
      (arrivedRow.message.outgoing = true →
        (MessageState.isPending arrivedRow.message.state = true ↔
          arrived.outboundDeliveries.contains 5 = true)) ∧
      (MessageState.isPending arrivedRow.message.state = false →
        ¬ Undecided arrived 5) := by
  have reached : ((machine (.plain "bob") conversing).restrict
      InStep).Reachable arrived :=
    Machine.Reachable.run .init
      [hello, calmly 6 (.outcome 5 .delivered none none 7000)]
      ⟨⟨calmly_enabled (by decide +kernel), trivial⟩,
        ⟨calmly_enabled (by decide +kernel), trivial⟩, trivial⟩
  refine ⟨⟨"operation", helloOperation, by decide +kernel, rfl, rfl, rfl⟩, ?_⟩
  exact tables_agree_in_step conversing_blank reached (by decide +kernel)

def receipted : Database :=
  (machine (.plain "bob") conversing).run conversing
    [hello, calmly 6 (.deliveryReceipt (fromAlice 9) 5)]

/-- The message is delivered then, its delivery still queued and its operation
still running. -/
theorem receipt_overtakes_the_transport :
    Blank conversing ∧
      (machine (.plain "bob") conversing).Reachable receipted ∧
      (∃ row, receipted.messages.lookup 5 = some row ∧
        row.message.outgoing = true ∧ row.message.state = .delivered) ∧
      receipted.outboundDeliveries.contains 5 = true ∧
      Undecided receipted 5 := by
  have reached : (machine (.plain "bob") conversing).Reachable receipted :=
    Machine.Reachable.run .init
      [hello, calmly 6 (.deliveryReceipt (fromAlice 9) 5)]
      ⟨calmly_enabled (by decide +kernel), calmly_enabled (by decide +kernel),
        trivial⟩
  refine ⟨conversing_blank, reached, ?_, by decide +kernel,
    ⟨"operation", helloOperation, by decide +kernel, rfl, rfl, rfl⟩⟩
  exact ⟨⟨⟨5, "alice", true, "hello", none, .delivered, 7000, 0, none, 7000, none,
    none⟩, none⟩, by decide +kernel, rfl, rfl⟩

end Messaging

end Torchat
