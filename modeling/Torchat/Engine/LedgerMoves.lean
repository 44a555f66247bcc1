import Torchat.Engine.LedgerTables
import Torchat.Runtime.Removal

namespace Torchat

open Foundation Storage Function

def Storage.Database.openDelivery
    (messageId : Uuid) (database : Database) : Option DurableOperation :=
  database.pendingOperations.find? fun operation =>
    operation.operationType = .messageDelivery &&
      operation.entityId = messageId.text && !operation.state.isTerminal

/-- A message goes where the outcome of its transport takes it. -/
def Ledger.Turned (messageId : Uuid) (outcome : MessageTransportOutcome)
    (before after : Ledger) : Prop :=
  ∃ entry state, before.messages messageId = some entry ∧
    entry.outgoing = true ∧
    messageStateAfterTransportOutcome entry.state outcome = some state ∧
    after = { before with messages := before.mark messageId entry state }

theorem Ledger.mark_same {ledger : Ledger} {message : ChatMessage}
    (stored : ledger.messages message.id = some message.entry)
    (same : state = message.state) :
    ledger.mark message.id message.entry state = ledger.messages := by
  subst same
  exact update_eq_self_iff.mpr stored.symm

namespace Runtime

abbrev Untouched (before after : Database) : Prop := after = before

instance Untouched.frame : Frame Untouched := .of_eq id

variable {program : Call α}

theorem within_ok (stored : Database → Database → Prop)
    [program.Keeps (Within stored)]
    (ran : (program >>= rest) runtime = (.ok result, final)) :
    ∃ value next, program runtime = (.ok value, next) ∧
      Within stored runtime next ∧ rest value next = (.ok result, final) :=
  kept_ok (Within stored) ran

theorem within_end (stored : Database → Database → Prop)
    [program.Keeps (Within stored)]
    (ran : program runtime = (.ok value, final)) :
    stored runtime.database final.database :=
  (kept_end ran : Within stored runtime final).data

theorem Within.world (within : Within stored runtime next) :
    next.host.world = runtime.host.world := by
  obtain ⟨calls, _, called⟩ := within.host
  rw [called]

/-! ## Operations -/

section

variable {nowMs : Int}

theorem openDelivery_cases (database : Database) (messageId : Uuid) :
    (database.openDelivery messageId = none ∧
      ¬ Ledger.Operations.Open database.ledger.operations messageId) ∨
    ∃ key operation, database.openDelivery messageId = some operation ∧
      database.ledger.operations key = some operation ∧
      operation.Delivers messageId ∧ operation.state.isTerminal = false := by
  cases found : database.openDelivery messageId with
  | none =>
    refine .inl ⟨rfl, ?_⟩
    rintro ⟨key, operation, stored, delivers, running⟩
    have open' : (database.durableOperations.retain fun _ operation =>
        !operation.state.isTerminal).lookup key = some operation := by
      rw [Table.lookup_retain]
      exact Option.filter_eq_some_iff.mpr ⟨stored, by simp [running]⟩
    have refused := List.find?_eq_none.mp found operation
      (Table.mem_values open')
    simp [delivers.1, delivers.2, running] at refused
  | some operation =>
    have chosen := List.find?_some found
    obtain ⟨key, stored⟩ :=
      Table.exists_of_mem_values (List.mem_of_find?_eq_some found)
    rw [Table.lookup_retain] at stored
    simp only [Bool.and_eq_true, decide_eq_true_eq, Bool.not_eq_true'] at chosen
    exact .inr ⟨key, operation, rfl, (Option.filter_eq_some_iff.mp stored).1,
      chosen.1, chosen.2⟩

theorem activeMessageDelivery_ok
    (ran : activeMessageDelivery messageId runtime = (.ok active, next)) :
    active = runtime.database.openDelivery messageId := by
  obtain ⟨pending, middle, asked, found⟩ := bind_ok ran
  obtain ⟨rfl, rfl⟩ := query_ok asked
  cases found
  rfl

theorem ensureMessageEntity_ok
    (done : ensureMessageEntity operation messageId = .ok ()) :
    operation.Delivers messageId := by
  unfold ensureMessageEntity at done
  split at done
  · rename_i delivers
    exact delivers
  · cases done

theorem persistOperation_ledger
    (ran : persistOperation operation runtime = (.ok value, next)) :
    next.database.ledger =
      { runtime.database.ledger with
        operations := update runtime.database.ledger.operations
          operation.operationId (some operation) } := by
  obtain ⟨database, written, rfl⟩ := write_ok ran
  exact Database.putOperation_ledger written

variable {state : OperationState}

theorem isTerminal_of_ne (completed : state ≠ .completed)
    (cancelled : state ≠ .cancelled) (failed : state ≠ .failedPermanent) :
    state.isTerminal = false := by
  cases state with
  | completed => exact absurd rfl completed
  | cancelled => exact absurd rfl cancelled
  | failedPermanent => exact absurd rfl failed
  | _ => rfl

theorem beginMessageDelivery_ok
    (ran : beginMessageDelivery requestedId messageId descriptor nowMs runtime =
      (.ok value, final)) :
    ∃ operation bound,
      ((runtime.database.durableOperations.lookup requestedId).or
        (runtime.database.openDelivery messageId)).getD (.pending requestedId
          .messageDelivery messageId.text nowMs descriptor) = operation ∧
      operation.Delivers messageId ∧
      bound = { operation with
        commandDescriptor := some (operation.commandDescriptor.getD descriptor)
        } ∧
      ((runtime.database.durableOperations.lookup requestedId).isSome →
        ∀ existing ∈ operation.commandDescriptor, existing = descriptor) ∧
      (bound.state = .completed ∧ final.database = runtime.database ∨
        bound.state.isTerminal = false ∧
        runtime.database.putOperation (bound.beginAttempt nowMs) =
          .ok final.database) := by
  replace ran := requireText_bind_ok ran
  obtain ⟨requested, next, looked, same, ran⟩ := within_ok Untouched ran
  obtain ⟨rfl, _⟩ := operationById_ok looked
  obtain ⟨active, later, searched, unchanged, ran⟩ := within_ok Untouched ran
  cases activeMessageDelivery_ok searched
  have current : later.database = runtime.database :=
    unchanged.data.trans same.data
  rw [same.data] at ran
  obtain ⟨_, ensured, ran⟩ := ofExcept_bind_ok ran
  have delivers := ensureMessageEntity_ok ensured
  generalize (Option.or _ _).getD (DurableOperation.pending ..) = operation
    at ran delivers ⊢
  have attempted : ∃ bound : DurableOperation,
      bound = { operation with
        commandDescriptor := some (operation.commandDescriptor.getD descriptor)
        } ∧
      ((runtime.database.durableOperations.lookup requestedId).isSome →
        ∀ existing ∈ operation.commandDescriptor, existing = descriptor) ∧
      (if bound.state = OperationState.completed then pure ()
        else do
          refuseTerminal bound "message delivery operation is already terminal"
          persistOperation (bound.beginAttempt nowMs)) later =
        (.ok value, final) := by
    split at ran
    · obtain ⟨bound, binding, ran⟩ := ofExcept_bind_ok ran
      obtain ⟨same, own⟩ := bindDescriptor_eq binding
      exact ⟨bound, same, fun _ => own, ran⟩
    · rename_i free
      simp only [Bool.or_eq_true, not_or, Option.isNone_iff_eq_none] at free
      obtain ⟨existing, held⟩ := Option.ne_none_iff_exists'.mp free.2
      refine ⟨operation, ?_, fun found => absurd found free.1, ran⟩
      rw [held, Option.getD_some, ← held]
  obtain ⟨bound, same, own, ran⟩ := attempted
  refine ⟨operation, bound, rfl, delivers, same, own, ?_⟩
  split at ran
  · rename_i completed
    cases ran
    exact .inl ⟨completed, current⟩
  · rename_i unfinished
    obtain ⟨uncancelled, unfailed, ran⟩ := refuseTerminal_bind_ok ran
    obtain ⟨database, written, rfl⟩ := write_ok ran
    rw [current] at written
    exact .inr ⟨isTerminal_of_ne unfinished uncancelled unfailed, written⟩

theorem beginMessageDelivery_ledger
    (ran : beginMessageDelivery requestedId messageId descriptor nowMs runtime =
      (.ok value, final)) :
    ∃ operations,
      Ledger.Worked messageId runtime.database.ledger.operations operations ∧
      final.database.ledger =
        { runtime.database.ledger with operations := operations } := by
  obtain ⟨operation, bound, chosen, delivers, same, _,
    ⟨_, unchanged⟩ | ⟨running, written⟩⟩ := beginMessageDelivery_ok ran
  · exact ⟨_, .unchanged, by rw [unchanged]⟩
  · refine ⟨_, ?_, Database.putOperation_ledger written⟩
    generalize attempt : bound.beginAttempt nowMs = after
    obtain ⟨identified, delivered⟩ : after.operationId = operation.operationId ∧
        after.Delivers messageId := by
      rw [← attempt, same]
      exact ⟨rfl, delivers⟩
    have continued {key : String}
        (found : runtime.database.ledger.operations key = some operation) :
        Ledger.Worked messageId runtime.database.ledger.operations
          (update runtime.database.ledger.operations
            after.operationId (some after)) :=
      .continued found delivers (by rw [same] at running; exact running)
        identified delivered
    cases found : runtime.database.durableOperations.lookup requestedId with
    | some before =>
      rw [found] at chosen
      cases chosen
      exact continued found
    | none =>
      rw [found] at chosen
      rcases openDelivery_cases runtime.database messageId with
        ⟨idle, closed⟩ | ⟨key, before, active, stored, _⟩
      · rw [idle] at chosen
        refine .started ?_ closed delivered
        rw [identified, ← chosen]
        exact found
      · rw [active] at chosen
        cases chosen
        exact continued stored

theorem updateMessageDelivery_ledger
    (ran : updateMessageDelivery messageId change runtime = (.ok value, final)) :
    (¬ Ledger.Operations.Open runtime.database.ledger.operations messageId ∧
      final.database.ledger = runtime.database.ledger) ∨
    ∃ key before,
      runtime.database.ledger.operations key = some before ∧
      before.Delivers messageId ∧ before.state.isTerminal = false ∧
      final.database.ledger =
        { runtime.database.ledger with
          operations := update runtime.database.ledger.operations
            (change before).operationId (some (change before)) } := by
  obtain ⟨active, next, searched, same, ran⟩ := within_ok Untouched ran
  cases activeMessageDelivery_ok searched
  rcases openDelivery_cases runtime.database messageId with
    ⟨none, idle⟩ | ⟨key, before, found, stored, delivers, running⟩
  · rw [none] at ran
    cases ran
    exact .inl ⟨idle, by rw [same.data]⟩
  · rw [found] at ran
    have written := persistOperation_ledger ran
    rw [same.data] at written
    exact .inr ⟨key, before, stored, delivers, running, written⟩

theorem finishMessageDelivery_ledger (ended : state.isTerminal = true)
    (ran : updateMessageDelivery messageId (.finish state errorCode nowMs)
      runtime = (.ok value, final)) :
    ∃ operations,
      Ledger.Finished messageId runtime.database.ledger.operations operations ∧
      final.database.ledger =
        { runtime.database.ledger with operations := operations } := by
  rcases updateMessageDelivery_ledger ran with
    ⟨idle, same⟩ | ⟨key, before, stored, delivers, running, written⟩
  · exact ⟨_, .idle idle, same⟩
  · refine ⟨_, ?_, written⟩
    exact .finished stored delivers running rfl ended

theorem retryMessageDelivery_ledger
    (ran : retryMessageDelivery messageId retryAt errorCode nowMs runtime =
      (.ok value, final)) :
    ∃ operations,
      Ledger.Worked messageId runtime.database.ledger.operations operations ∧
      final.database.ledger =
        { runtime.database.ledger with operations := operations } := by
  rcases updateMessageDelivery_ledger ran with
    ⟨_, same⟩ | ⟨key, before, stored, delivers, running, written⟩
  · exact ⟨_, .unchanged, same⟩
  · refine ⟨_, ?_, written⟩
    exact .continued stored delivers running rfl delivers

end

/-! ## Messages on their way out -/

section

variable {nowMs : Int}

theorem enqueueSend_ledger
    (ran : enqueueSend operationId descriptor effect transitions nowMs runtime =
      (.ok value, final)) :
    ∃ operations,
      Ledger.Worked effect.messageId runtime.database.ledger.operations
        operations ∧
      final.database.ledger =
        { runtime.database.ledger with
          deliveries := runtime.database.ledger.enlisted effect.messageId
            effect.recipientInstallationId
          operations := operations } := by
  obtain ⟨_, next, begun, ran⟩ := bind_ok ran
  obtain ⟨operations, worked, started⟩ := beginMessageDelivery_ledger begun
  obtain ⟨later, enqueued, ran⟩ := write_bind_ok ran
  have listed := Database.enqueueOutboundDelivery_ledger enqueued
  have ended := within_end Untouched ran
  refine ⟨operations, worked, ?_⟩
  rw [ended, listed, started]
  rfl

theorem deliveryContact_ok
    (ran : deliveryContact conversation runtime = (.ok contact, final)) :
    contact.installationId = conversation.id := by
  simp only [deliveryContact, fail_bind] at ran
  split at ran
  · cases ran
  · obtain ⟨found, next, asked, ran⟩ := bind_ok ran
    obtain ⟨rfl, rfl⟩ := query_ok asked
    obtain ⟨stored, later, present, ran⟩ := bind_ok ran
    have value := required_value present
    split at ran
    · cases ran
    · split at ran
      · cases ran
      · cases ran
        obtain ⟨row, _, rfl⟩ := Option.map_eq_some_iff.mp value
        rfl

theorem enterSending_ledger
    (stored : runtime.database.ledger.messages message.id = some message.entry)
    (ran : enterSending message runtime = (.ok (sent, transitions), final)) :
    MessageState.isPending message.state = true ∧
      sent = { message with state := .sending } ∧
      final.database.ledger =
        { runtime.database.ledger with
          messages := runtime.database.ledger.mark message.id message.entry
            .sending } := by
  unfold enterSending at ran
  cases prepared : messageStateOnSendPrepare message.state with
  | none => simp [prepared] at ran
  | some state =>
    simp only [prepared] at ran
    have pending : MessageState.isPending message.state = true ∧
        state = .sending := by
      revert prepared
      cases message.state <;>
        simp [messageStateOnSendPrepare, MessageState.isPending, eq_comm]
    obtain ⟨pending, rfl⟩ := pending
    refine ⟨pending, ?_⟩
    split at ran
    · rename_i same
      cases ran
      exact ⟨by rw [same], by rw [Ledger.mark_same stored same]⟩
    · obtain ⟨next, written, ran⟩ := write_bind_ok ran
      cases ran
      exact ⟨rfl, (Database.putMessage_ledger written).2⟩

theorem prepareExisting_ledger
    (stored : runtime.database.ledger.messages message.id = some message.entry)
    (ran : prepareExisting message manualRetry runtime =
      (.ok (effect, transitions), final)) :
    MessageState.isPending message.state = true ∧
      effect.messageId = message.id ∧
      effect.recipientInstallationId = message.conversationId ∧
      final.database.ledger =
        { runtime.database.ledger with
          messages := runtime.database.ledger.mark message.id message.entry
            .sending } := by
  simp only [prepareExisting, fail_bind] at ran
  obtain ⟨found, first, asked, ran⟩ := bind_ok ran
  obtain ⟨rfl, rfl⟩ := query_ok asked
  obtain ⟨conversation, second, present, here, ran⟩ := within_ok Untouched ran
  have named := Database.conversation_id (required_value present)
  obtain ⟨contact, third, met, there, ran⟩ := within_ok Untouched ran
  have recipient := (deliveryContact_ok met).trans named
  have same : third.database = runtime.database := there.data.trans here.data
  obtain ⟨⟨sent, moves⟩, fourth, entered, ran⟩ := bind_ok ran
  rw [← same] at stored
  obtain ⟨pending, rfl, written⟩ := enterSending_ledger stored entered
  rw [same] at written
  split at ran
  · cases ran
  · cases ran
    exact ⟨pending, rfl, recipient, written⟩

theorem outgoingRequired_ledger
    (ran : outgoingRequired messageId incoming runtime = (.ok message, next)) :
    message.id = messageId ∧ message.entry.outgoing = true ∧
      runtime.database.ledger.messages messageId = some message.entry := by
  obtain ⟨row, stored, outgoing, rfl⟩ := outgoingRequired_value ran
  refine ⟨rfl, outgoing, ?_⟩
  simp only [Database.ledger, stored, Option.map_some]
  rfl

theorem retryMessage_ledger
    (ran : retryMessage messageId nowMs runtime =
      (.ok (effect, transitions), final)) :
    ∃ entry, runtime.database.ledger.messages messageId = some entry ∧
      entry.outgoing = true ∧
      (entry.state = .failed ∨ entry.state = .queued) ∧
      effect.messageId = messageId ∧
      effect.recipientInstallationId = entry.conversationId ∧
      final.database.ledger =
        { runtime.database.ledger with
          messages := runtime.database.ledger.mark messageId entry
            .sending } := by
  obtain ⟨message, first, asked, here, rest⟩ := within_ok Untouched ran
  obtain ⟨rfl, outgoing, stored⟩ := outgoingRequired_ledger asked
  split at rest
  · cases rest
  · rename_i eligible
    obtain ⟨second, written, rest⟩ := write_bind_ok rest
    obtain ⟨_, queued⟩ := Database.putMessage_ledger written
    rw [here.data] at queued
    obtain ⟨⟨prepared, moves⟩, third, preparing, ended⟩ := bind_ok rest
    cases ended
    obtain ⟨_, named, recipient, sending⟩ := prepareExisting_ledger
      (by rw [queued]; exact update_self ..) preparing
    refine ⟨message.entry, stored, outgoing, ?_, named, recipient, ?_⟩
    · simp only [ne_eq, not_and_or, not_not] at eligible
      exact eligible
    · rw [sending, queued]
      simp only [Ledger.mark, update_idem]
      rfl

theorem queueMessage_ledger
    (ran : queueMessage conversationId text replyToMessageId nowMs runtime =
      (.ok (effect, transitions), final)) :
    ∃ turn entry conversations,
      effect.messageId = runtime.host.world.uuid turn ∧
      effect.recipientInstallationId = entry.conversationId ∧
      entry.pending = true ∧
      runtime.database.ledger.conversations entry.conversationId = true ∧
      (∀ contact, runtime.database.ledger.conversations contact = true →
        conversations contact = true) ∧
      final.database.ledger =
        { runtime.database.ledger with
          messages := update runtime.database.ledger.messages
            effect.messageId (some entry)
          conversations := conversations } := by
  replace ran := requireText_bind_ok ran
  obtain ⟨reply, first, _, one, ran⟩ := within_ok Untouched ran
  obtain ⟨found, second, asked, two, ran⟩ := within_ok Untouched ran
  have lookedUp := (query_ok asked).1
  obtain ⟨conversation, third, present, three, ran⟩ := within_ok Untouched ran
  have named := Database.conversation_id (lookedUp ▸ required_value present)
  obtain ⟨contact, fourth, met, four, ran⟩ := within_ok Untouched ran
  have recipient := (deliveryContact_ok met).trans named
  have start : Within Untouched runtime fourth := Frame.trans
    (Frame.trans one two) (Frame.trans three four)
  obtain ⟨drawn, fifth, drawing, five, ran⟩ := within_ok Untouched ran
  have origin : drawn = runtime.host.world.uuid fourth.host.calls := by
    rw [← start.world]
    cases drawing
    rfl
  have current : fifth.database = runtime.database := five.data.trans start.data
  obtain ⟨sixth, stored, ran⟩ := write_bind_ok ran
  obtain ⟨filed, queued⟩ := Database.putMessage_ledger stored
  obtain ⟨seventh, conversed, ran⟩ := write_bind_ok ran
  obtain ⟨conversations, talked, kept⟩ := Database.putConversation_ledger conversed
  rw [queued] at talked kept
  rw [current] at talked kept filed
  obtain ⟨⟨sent, moves⟩, eighth, entered, ran⟩ := bind_ok ran
  obtain ⟨_, rfl, sending⟩ := enterSending_ledger
    (by rw [talked]; exact update_self ..) entered
  cases ran
  refine ⟨fourth.host.calls, ⟨conversationId, true, .sending⟩, conversations,
    origin, recipient, rfl, filed, kept, ?_⟩
  rw [sending, talked]
  simp only [Ledger.mark, update_idem]
  rfl

end

/-! ## The transactions -/

section

open Relation

variable {nowMs : Int}

theorem featureQueueMessageDelivery_moves
    (fresh : ∀ turn, runtime.database.ledger.messages
      (runtime.host.world.uuid turn) = none)
    (ran : featureQueueMessageDelivery operationId descriptor conversationId text
      replyToMessageId nowMs runtime = (.ok effect, final)) :
    ReflTransGen Ledger.Move runtime.database.ledger final.database.ledger := by
  obtain ⟨⟨queued, transitions⟩, first, queueing, ran⟩ := bind_ok ran
  obtain ⟨turn, entry, conversations, drawn, recipient, pending, filed, kept,
    written⟩ := queueMessage_ledger queueing
  obtain ⟨_, second, enqueueing, ran⟩ := bind_ok ran
  obtain ⟨operations, worked, enqueued⟩ := enqueueSend_ledger enqueueing
  obtain ⟨_, third, _, told, ran⟩ := within_ok Untouched ran
  cases ran
  rw [written] at worked enqueued
  refine .tail (.single (.converse kept)) ?_
  rw [told.data, enqueued, recipient]
  refine .queue ?_ pending (kept _ filed) worked
  rw [drawn]
  exact fresh turn

theorem featureRetryMessage_moves
    (ran : featureRetryMessage operationId descriptor messageId nowMs runtime =
      (.ok effect, final)) :
    ReflTransGen Ledger.Move runtime.database.ledger final.database.ledger := by
  obtain ⟨⟨prepared, transitions⟩, first, preparing, ran⟩ := bind_ok ran
  obtain ⟨entry, found, outgoing, again, named, recipient, written⟩ :=
    retryMessage_ledger preparing
  obtain ⟨_, second, enqueueing, ran⟩ := bind_ok ran
  obtain ⟨operations, worked, enqueued⟩ := enqueueSend_ledger enqueueing
  cases ran
  rw [written, named] at worked enqueued
  rw [enqueued, recipient]
  exact .single (.resend found outgoing again worked)

theorem preparePending_moves (distinct : (messages.map ChatMessage.id).Nodup)
    (stored : ∀ message ∈ messages, message.outgoing = true ∧
      runtime.database.ledger.messages message.id = some message.entry)
    (ran : preparePending messages runtime = (.ok pending, final)) :
    ReflTransGen Ledger.Move runtime.database.ledger final.database.ledger ∧
      (∀ other, other ∉ messages.map ChatMessage.id →
        final.database.ledger.messages other =
          runtime.database.ledger.messages other) ∧
      ∀ prepared ∈ pending, ∃ entry,
        final.database.ledger.messages prepared.1.messageId = some entry ∧
        entry.pending = true ∧
        prepared.1.recipientInstallationId = entry.conversationId := by
  induction messages generalizing runtime pending with
  | nil =>
    cases ran
    exact ⟨.refl, fun _ _ => rfl, nofun⟩
  | cons message rest induction =>
    obtain ⟨⟨effect, transitions⟩, first, preparing, ran⟩ := bind_ok ran
    obtain ⟨others, second, preparingRest, ran⟩ := bind_ok ran
    cases ran
    obtain ⟨outgoing, found⟩ := stored message (.head _)
    obtain ⟨awaits, named, recipient, written⟩ :=
      prepareExisting_ledger found preparing
    rw [List.map_cons, List.nodup_cons] at distinct
    have elsewhere (other : Uuid) (different : other ≠ message.id) :
        first.database.ledger.messages other =
          runtime.database.ledger.messages other := by
      rw [written]
      exact update_of_ne different ..
    obtain ⟨moved, apart, ready⟩ := induction distinct.2 (fun later member => by
        obtain ⟨outgoing, found⟩ := stored later (.tail _ member)
        refine ⟨outgoing, (elsewhere later.id ?_).trans found⟩
        rintro same
        exact distinct.1 (same ▸ List.mem_map_of_mem member))
      preparingRest
    have sent : Ledger.Move runtime.database.ledger first.database.ledger := by
      rw [written]
      exact .send found (Bool.and_eq_true_iff.mpr ⟨outgoing, awaits⟩)
    refine ⟨.head sent moved, fun other absent => ?_, ?_⟩
    · rw [List.map_cons, List.mem_cons, not_or] at absent
      exact (apart other absent.2).trans (elsewhere other absent.1)
    · intro prepared member
      rcases List.mem_cons.mp member with rfl | later
      · refine ⟨{ message.entry with state := .sending }, ?_, ?_, recipient⟩
        · rw [named, apart message.id distinct.1, written]
          exact update_self ..
        · exact Bool.and_eq_true_iff.mpr ⟨outgoing, rfl⟩
      · exact ready prepared later

theorem enqueueSends_moves
    {pending : List (MessageSendEffect × List MessageState)}
    (ready : ∀ prepared ∈ pending, ∃ entry,
      runtime.database.ledger.messages prepared.1.messageId = some entry ∧
      entry.pending = true ∧
      prepared.1.recipientInstallationId = entry.conversationId)
    (ran : (forEach pending fun (effect, transitions) =>
      enqueueSend (deliveryId effect.messageId)
        (deliveryCommand effect.messageId) effect transitions nowMs)
          runtime = (.ok value, final)) :
    ReflTransGen Ledger.Move runtime.database.ledger final.database.ledger := by
  induction pending generalizing runtime with
  | nil =>
    cases ran
    exact .refl
  | cons prepared rest induction =>
    obtain ⟨_, first, enqueueing, ran⟩ := bind_ok ran
    obtain ⟨operations, worked, enqueued⟩ := enqueueSend_ledger enqueueing
    obtain ⟨entry, found, awaits, recipient⟩ := ready prepared (.head _)
    have moved : Ledger.Move runtime.database.ledger first.database.ledger := by
      rw [enqueued, recipient]
      exact .enlist found awaits worked
    refine .head moved (induction (fun later member => ?_) ran)
    rw [enqueued]
    exact ready later (.tail _ member)

theorem pendingMessages_stored
    {database : Database} (listed : message ∈ database.pendingMessages now) :
    database.ledger.messages message.id = some message.entry := by
  obtain ⟨⟨key, row⟩, member, rfl⟩ := List.mem_map.mp listed
  have found := Table.lookup_eq_some_iff.mpr member
  rw [Table.lookup_retain] at found
  have stored := (Option.filter_eq_some_iff.mp found).1
  simp only [Database.ledger, stored, Option.map_some]
  rfl

theorem pendingMessages_distinct (database : Database) (now : Int) :
    (((database.pendingMessages now).filter ChatMessage.outgoing).map
      ChatMessage.id).Nodup := by
  have listed : (database.pendingMessages now).map ChatMessage.id =
      (database.messages.retain fun _ row =>
        MessageState.isPending row.message.state &&
          row.message.nextAttemptAt ≤ now).keys := by
    rw [Database.pendingMessages, List.map_map]
    rfl
  have distinct : ((database.pendingMessages now).map ChatMessage.id).Nodup := by
    rw [listed]
    exact Table.distinct _
  exact distinct.sublist (List.filter_sublist.map _)

theorem featurePreparePendingMessageDeliveries_moves
    (ran : featurePreparePendingMessageDeliveries nowMs runtime =
      (.ok effects, final)) :
    ReflTransGen Ledger.Move runtime.database.ledger final.database.ledger := by
  obtain ⟨now, first, _, one, ran⟩ := within_ok Untouched ran
  obtain ⟨messages, second, asked, two, ran⟩ := within_ok Untouched ran
  have listed := (query_ok asked).1
  have start : second.database = runtime.database := two.data.trans one.data
  obtain ⟨pending, third, preparing, ran⟩ := bind_ok ran
  obtain ⟨prepared, _, ready⟩ := preparePending_moves
    (by rw [listed]; exact pendingMessages_distinct _ now)
    (fun message member => by
      obtain ⟨inside, outgoing⟩ := List.mem_filter.mp member
      rw [listed, ← two.data] at inside
      exact ⟨outgoing, pendingMessages_stored inside⟩)
    preparing
  obtain ⟨_, fourth, enqueueing, ran⟩ := bind_ok ran
  cases ran
  have enqueued := enqueueSends_moves ready enqueueing
  rw [start] at prepared
  exact prepared.trans enqueued

theorem prepareMessageSends_moves
    (ran : prepareMessageSends messageIds runtime = (.ok effects, final)) :
    ReflTransGen Ledger.Move runtime.database.ledger final.database.ledger := by
  induction messageIds generalizing runtime effects with
  | nil =>
    cases ran
    exact .refl
  | cons messageId rest induction =>
    obtain ⟨effect, first, preparing, ran⟩ := bind_ok ran
    obtain ⟨others, second, preparingRest, ended⟩ := bind_ok ran
    cases ended
    refine .trans ?_ (induction preparingRest)
    obtain ⟨message, third, asked, one, preparing⟩ :=
      within_ok Untouched preparing
    obtain ⟨rfl, outgoing, stored⟩ := outgoingRequired_ledger asked
    obtain ⟨⟨sent, transitions⟩, fourth, prepared, published⟩ :=
      bind_ok preparing
    rw [← one.data] at stored
    obtain ⟨awaits, _, _, written⟩ := prepareExisting_ledger stored prepared
    obtain ⟨_, fifth, _, told, ended⟩ := within_ok Untouched published
    cases ended
    rw [told.data, written, ← one.data]
    exact .single (.send stored (Bool.and_eq_true_iff.mpr ⟨outgoing, awaits⟩))

theorem preparePendingSendEffects_moves
    (ran : preparePendingSendEffects runtime = (.ok effects, final)) :
    ReflTransGen Ledger.Move runtime.database.ledger final.database.ledger := by
  obtain ⟨now, first, _, one, ran⟩ := within_ok Untouched ran
  obtain ⟨messages, second, _, two, ran⟩ := within_ok Untouched ran
  have start : second.database = runtime.database := two.data.trans one.data
  obtain ⟨sends, third, preparing, ran⟩ := bind_ok ran
  have moved := prepareMessageSends_moves preparing
  have same := within_end Untouched ran
  rw [same, ← start]
  exact moved

theorem applyOutcome_ledger
    (ran : applyOutcome messageId outcome retryAt errorDetail runtime =
      (.ok result, final)) :
    Ledger.Turned messageId outcome runtime.database.ledger
      final.database.ledger := by
  obtain ⟨message, first, asked, here, rest⟩ := within_ok Untouched ran
  obtain ⟨rfl, outgoing, stored⟩ := outgoingRequired_ledger asked
  cases next : messageStateAfterTransportOutcome message.state outcome with
  | none => simp [next] at rest
  | some state =>
    simp only [next] at rest
    refine ⟨message.entry, state, stored, outgoing, next, ?_⟩
    split at rest
    · rename_i same
      cases rest
      rw [Ledger.mark_same stored same, here.data]
    · obtain ⟨second, written, ended⟩ := write_bind_ok rest
      cases ended
      obtain ⟨_, put⟩ := Database.putMessage_ledger written
      rw [put, here.data]
      cases state <;> rfl

def Retries (outcome : MessageTransportOutcome) : Prop :=
  outcome = .peerUnavailable ∨ outcome = .retryableFailure

theorem Retries.queued (retries : Retries outcome)
    (next : messageStateAfterTransportOutcome current outcome = some state) :
    state = .queued ∧ current ≠ .delivered ∧ current ≠ .read := by
  rcases retries with rfl | rfl
  · cases current <;> cases next <;> decide
  · cases current <;> cases next <;> decide

theorem settled_of_not_retries (settles : ¬ Retries outcome)
    (next : messageStateAfterTransportOutcome current outcome = some state) :
    MessageState.isPending state = false := by
  cases outcome with
  | peerUnavailable => exact absurd (.inl rfl) settles
  | retryableFailure => exact absurd (.inr rfl) settles
  | _ => cases current <;> cases next <;> rfl

def announceOutcome (messageId : Uuid) (outcome : MessageTransportOutcome)
    (retryAt : Option Int) (errorDetail : Option String) : Call Unit := do
  let (message, moved) ← applyOutcome messageId outcome retryAt errorDetail
  if moved then
    messageStateChanged message.id message.conversationId (some message.state)

theorem announceOutcome_ledger
    (ran : announceOutcome messageId outcome retryAt errorDetail runtime =
      (.ok value, final)) :
    Ledger.Turned messageId outcome runtime.database.ledger
      final.database.ledger := by
  obtain ⟨⟨message, moved⟩, first, applied, ran⟩ := bind_ok ran
  obtain ⟨entry, state, stored, outgoing, next, written⟩ :=
    applyOutcome_ledger applied
  have same := within_end Untouched ran
  exact ⟨entry, state, stored, outgoing, next, by rw [same, written]⟩

variable {retryAt errorDetail}

theorem postpone_moves (retries : Retries outcome)
    (ran : (do
      write (Database.requeueOutboundDelivery messageId attemptAt error)
      retryMessageDelivery messageId attemptAt errorCode nowMs
      announceOutcome messageId outcome retryAt errorDetail) runtime =
        (.ok value, final)) :
    Ledger.Move runtime.database.ledger final.database.ledger := by
  obtain ⟨first, requeueing, ran⟩ := write_bind_ok ran
  obtain ⟨owed, requeued⟩ :=
    Database.requeueOutboundDelivery_ledger requeueing
  obtain ⟨_, second, retrying, ran⟩ := bind_ok ran
  obtain ⟨operations, worked, retried⟩ := retryMessageDelivery_ledger retrying
  obtain ⟨entry, state, stored, outgoing, next, written⟩ :=
    announceOutcome_ledger ran
  obtain ⟨rfl, undelivered⟩ := retries.queued next
  rw [requeued] at worked retried
  rw [retried] at stored written
  rw [written]
  exact .postpone stored outgoing undelivered owed worked

theorem settle_moves
    (terminal : ended.isTerminal = true) (settles : ¬ Retries outcome)
    (ran : (do
      write (Database.completeOutboundDelivery messageId)
      updateMessageDelivery messageId (.finish ended errorCode nowMs)
      announceOutcome messageId outcome retryAt errorDetail) runtime =
        (.ok value, final)) :
    Ledger.Move runtime.database.ledger final.database.ledger := by
  obtain ⟨first, completing, ran⟩ := write_bind_ok ran
  have completed := Database.completeOutboundDelivery_ledger completing
  obtain ⟨_, second, finishing, ran⟩ := bind_ok ran
  obtain ⟨operations, finished, closed⟩ :=
    finishMessageDelivery_ledger terminal finishing
  obtain ⟨entry, state, stored, outgoing, next, written⟩ :=
    announceOutcome_ledger ran
  rw [completed] at finished closed
  rw [closed] at stored written
  rw [written]
  exact .settle stored outgoing next (settled_of_not_retries settles next)
    finished

theorem featureApplyMessageDeliveryOutcome_moves
    (ran : featureApplyMessageDeliveryOutcome messageId outcome retryAt
      errorDetail nowMs runtime = (.ok value, final)) :
    Ledger.Move runtime.database.ledger final.database.ledger := by
  cases outcome with
  | peerUnavailable => exact postpone_moves (.inl rfl) ran
  | retryableFailure => exact postpone_moves (.inr rfl) ran
  | permanentFailure | peerAuthenticationFailed | peerRejected | delivered
  | peerPersisted | peerDelivered =>
    exact settle_moves rfl (by simp [Retries]) ran

end

end Runtime

def Storage.Database.SameBooks (before after : Database) : Prop :=
  after.ledger = before.ledger

namespace Storage.Database.SameBooks

instance frame : Frame SameBooks := .of_eq ledger

instance putConversationMlsSnapshot :
    (execute (Database.putConversationMlsSnapshot conversationId
      snapshot)).Keeps SameBooks :=
  .execute fun _ _ done => putConversationMlsSnapshot_ledger done

instance putReceivedEnvelope :
    (execute (Database.putReceivedEnvelope sender messageId
      envelope)).Keeps SameBooks := by
  refine .execute fun before after done => ?_
  obtain ⟨_, rfl⟩ := putReceivedEnvelope_eq done
  rfl

instance putDeliveryReceipt :
    (execute (Database.putDeliveryReceipt messageId receipt)).Keeps
      SameBooks := by
  refine .execute fun before after done => ?_
  cases done
  rfl

instance putRelationshipRemovalAck (removalId : String)
    (contact : InstallationId) (epoch : Int) (payload : Bytes) :
    (execute (Database.putRelationshipRemovalAck removalId contact
      epoch payload)).Keeps SameBooks := by
  refine .execute fun before after done => ?_
  cases done
  rfl

instance persistOutboundEncryption :
    (execute (Database.persistOutboundEncryption messageId wire
      conversationId snapshot)).Keeps SameBooks :=
  .execute fun _ _ done => persistOutboundEncryption_ledger done

instance claimOutgoingAttempt :
    (executeReturning (Database.claimOutgoingAttempt messageId
      nextAttemptAt ackDeadline lastTransportError nowMs)).Keeps SameBooks :=
  .executeReturning fun _ _ _ done => claimOutgoingAttempt_ledger done

instance persistOutboundEncryptionAndClaim :
    (executeReturning (Database.persistOutboundEncryptionAndClaim
      messageId wire conversationId snapshot nextAttemptAt ackDeadline
      nowMs)).Keeps SameBooks :=
  .executeReturning fun _ _ _ done =>
    persistOutboundEncryptionAndClaim_ledger done

end Storage.Database.SameBooks

namespace Runtime

open Database (SameBooks)

instance : (Program.modify (Database.recordApplied sender messageId) :
      Program Database RuntimeError Unit).Keeps SameBooks :=
  .modify fun _ => rfl

theorem applyMessageTransportOutcome_ledger
    (ran : applyMessageTransportOutcome messageId outcome runtime =
      (.ok value, final)) :
    Ledger.Turned messageId outcome runtime.database.ledger
      final.database.ledger := by
  obtain ⟨message, first, asked, here, rest⟩ := within_ok Untouched ran
  obtain ⟨rfl, outgoing, stored⟩ := outgoingRequired_ledger asked
  cases next : messageStateAfterTransportOutcome message.state outcome with
  | none => simp [next] at rest
  | some state =>
    simp only [next] at rest
    refine ⟨message.entry, state, stored, outgoing, next, ?_⟩
    split at rest
    · rename_i same
      cases rest
      rw [Ledger.mark_same stored same, here.data]
    · obtain ⟨second, written, ended⟩ := write_bind_ok rest
      obtain ⟨_, put⟩ := Database.putMessage_ledger written
      have same := within_end Untouched ended
      rw [same, put, here.data]
      rfl

theorem featureDeleteMessageDelivery_ledger {nowMs : Int}
    (ran : featureDeleteMessageDelivery messageId nowMs runtime =
      (.ok value, final)) :
    ∃ operations,
      Ledger.Finished messageId runtime.database.ledger.operations operations ∧
      final.database.ledger =
        runtime.database.ledger.discard messageId operations := by
  obtain ⟨message, first, _, here, ran⟩ := within_ok Untouched ran
  obtain ⟨second, deleted, ran⟩ := write_bind_ok ran
  have gone := Database.deleteMessage_ledger deleted
  obtain ⟨_, third, finishing, ran⟩ := bind_ok ran
  obtain ⟨operations, finished, ended⟩ :=
    finishMessageDelivery_ledger rfl finishing
  obtain ⟨fourth, completed, ran⟩ := write_bind_ok ran
  have owed := Database.completeOutboundDelivery_ledger completed
  have same := within_end Untouched ran
  rw [gone, here.data] at finished ended
  refine ⟨operations, finished, ?_⟩
  rw [same, owed, ended]
  simp only [Ledger.discard, update_idem]

theorem acceptDeliveryReceipt_acknowledged
    (ran : acceptDeliveryReceipt arrival messageId runtime = (.ok value, final)) :
    Ledger.Acknowledged messageId runtime.database.ledger
      final.database.ledger := by
  obtain ⟨_, first, applied, ran⟩ := bind_ok ran
  obtain ⟨entry, state, stored, outgoing, next, written⟩ :=
    applyMessageTransportOutcome_ledger applied
  have same : final.database.ledger = first.database.ledger :=
    within_end SameBooks ran
  rw [same, written]
  exact .moved stored outgoing next

theorem receiveMessageReply_received
    (ran : receiveMessageReply conversationId body messageId reply runtime =
      (.ok value, final)) :
    Ledger.Received messageId runtime.database.ledger final.database.ledger := by
  replace ran := requireText_bind_ok ran
  obtain ⟨found, first, asked, one, rest⟩ := within_ok Untouched ran
  obtain ⟨value, _⟩ := query_ok asked
  cases found with
  | some existing =>
    have same := within_end Untouched rest
    rw [same, one.data]
    exact .unchanged
  | none =>
    have free := Database.ledger_message_none value.symm
    obtain ⟨existing, second, _, two, rest⟩ := within_ok Untouched rest
    obtain ⟨session, third, _, three, rest⟩ := within_ok Untouched rest
    obtain ⟨createdAt, fourth, _, four, rest⟩ := within_ok Untouched rest
    have current : fourth.database = runtime.database := by
      rw [four.data, three.data, two.data, one.data]
    obtain ⟨fifth, storing, rest⟩ := write_bind_ok rest
    obtain ⟨filed, stored⟩ := Database.putMessage_ledger storing
    obtain ⟨sixth, conversing, rest⟩ := write_bind_ok rest
    obtain ⟨conversations, talked, kept⟩ :=
      Database.putConversation_ledger conversing
    have same := within_end Untouched rest
    rw [stored, current] at talked kept
    rw [current] at filed
    rw [same, talked]
    exact .stored free rfl filed kept

set_option synthInstance.maxSize 256 in
theorem acceptMessage_received {replyTo : Option MessageReply}
    (ran : acceptMessage arrival body replyTo envelopeId runtime =
      (.ok value, final)) :
    Ledger.Received arrival.messageId runtime.database.ledger
      final.database.ledger := by
  obtain ⟨accepts, first, _, one, rest⟩ := within_ok Untouched ran
  cases accepts with
  | false =>
    simp only [Bool.false_eq_true, if_false] at rest
    have same : final.database.ledger = first.database.ledger :=
      within_end SameBooks rest
    rw [same, one.data]
    exact .unchanged
  | true =>
    simp only [if_true] at rest
    obtain ⟨_, second, receiving, rest⟩ := bind_ok rest
    have received := receiveMessageReply_received receiving
    have same : final.database.ledger = second.database.ledger :=
      within_end SameBooks rest
    rw [same, ← one.data]
    exact received

end Runtime

def Storage.Database.Moved (before after : Database) : Prop :=
  Relation.ReflTransGen Ledger.Move before.ledger after.ledger

instance Storage.Database.Moved.frame : Frame Database.Moved where
  refl _ := .refl
  trans := .trans

theorem Storage.Database.SameBooks.moved
    (same : Database.SameBooks before after) : Database.Moved before after := by
  unfold Database.Moved
  rw [same]

namespace Runtime

open Database (SameBooks Moved)

instance : (applyMessageRead messageId).Keeps (Within Moved) := by
  refine ⟨fun start => ?_⟩
  refine .after_read (Frame.refl start) inferInstance
    fun message runtime asked called => ?_
  obtain ⟨rfl, outgoing, stored⟩ := outgoingRequired_ledger asked
  split
  · exact called.within
  · split
    · exact called.within
    · rename_i arrived
      refine .followed (.of_write called fun after written => ?_)
        fun _ => inferInstance
      obtain ⟨_, put⟩ := Database.putMessage_ledger written
      refine .single ?_
      rw [put]
      refine .read stored outgoing ?_
      simp only [ne_eq, not_and_or, not_not] at arrived
      exact arrived

theorem acceptReadReceipt_moved
    (ran : acceptReadReceipt arrival messageIds runtime = (.ok value, final)) :
    Moved runtime.database final.database := by
  obtain ⟨_, first, _, moved, rest⟩ := within_ok Moved ran
  have same : SameBooks first.database final.database :=
    within_end SameBooks rest
  exact Relation.ReflTransGen.trans moved.data same.moved

theorem acceptRelationshipRemoved_dismissed {ack : Bytes}
    (ran : acceptRelationshipRemoved arrival removedAt removalId
      epoch ack runtime = (.ok value, final)) :
    final.database.ledger = runtime.database.ledger ∨
      final.database.ledger = runtime.database.ledger.dismiss arrival.sender := by
  obtain ⟨_, first, removing, rest⟩ := bind_ok ran
  have same : SameBooks first.database final.database :=
    within_end SameBooks rest
  replace removing := requireText_bind_ok removing
  replace removing := requireText_bind_ok removing
  obtain ⟨second, written, told⟩ := write_bind_ok removing
  have unchanged := within_end Untouched told
  obtain ⟨_, removed⟩ :=
    Database.applyRemoteRelationshipRemoval_eq_ok.mp written
  rw [same, unchanged, removed]
  split
  · exact .inl rfl
  · exact .inr (Database.blocked_ledger _ _)

theorem requestRelationshipRemoval_ledger
    {contact : InstallationId} {changed : Bool}
    (ran : requestRelationshipRemoval operationId descriptor contact
      preserveHistory removalId removedAt runtime = (.ok changed, final)) :
    final.database.ledger = runtime.database.ledger ∨
    ∃ begun removed completed,
      Ledger.Elsewhere runtime.database.ledger.operations begun ∧
      (removed = { runtime.database.ledger with operations := begun } ∨
        removed = (if preserveHistory then
          ({ runtime.database.ledger with operations := begun } :
            Ledger).dismiss contact
        else
          (({ runtime.database.ledger with operations := begun } :
            Ledger).dismiss contact).forget contact)) ∧
      Ledger.Elsewhere removed.operations completed ∧
      final.database.ledger = { removed with operations := completed } := by
  obtain ⟨same, _⟩ | ⟨operation, _, _, _, typed, _, _, begun, removing,
    completing⟩ := requestRelationshipRemoval_ok ran
  · exact .inl (by rw [same])
  · have began := Database.putOperation_ledger begun
    have completed := Database.putOperation_ledger completing
    obtain ⟨_, removed⟩ := Database.removeRelationshipWithId_eq_ok.mp removing
    have other : operation.operationType ≠ .messageDelivery := by
      rw [typed]
      decide
    refine .inr ⟨_, _, _, .put other, ?_, ?_, completed⟩
    · rw [removed]
      split
      · exact .inl began
      · rw [Database.locallyRemoved_ledger, began]
        exact .inr rfl
    · exact .put other

theorem sendNewMessage_moves
    {P : Primitives} {contact conversationId : InstallationId}
    {conversation : P.Group} {context : IdempotencyCommitContext} {body : String}
    {replyToMessageId : Option Uuid} {nowMs nextAttemptAt : Int}
    {result : MessageSendEffect × Sealed × P.Group}
    (fresh : ∀ turn, runtime.database.ledger.messages
      (runtime.host.world.uuid turn) = none)
    (ran : sendNewMessage P contact conversation context conversationId body
      replyToMessageId nowMs nextAttemptAt runtime = (.ok result, final)) :
    Moved runtime.database final.database := by
  obtain ⟨effect, first, queueing, ran⟩ := bind_ok ran
  have queued := featureQueueMessageDelivery_moves fresh queueing
  refine Relation.ReflTransGen.trans queued (SameBooks.moved ?_)
  obtain ⟨found, second, _, two, ran⟩ := within_ok Untouched ran
  cases found with
  | none => cases ran
  | some stored =>
    obtain ⟨plaintext, _, ran⟩ := ofExcept_bind_ok ran
    obtain ⟨⟨ciphertext, advanced⟩, _, ran⟩ := ofExcept_bind_ok ran
    obtain ⟨_, third, noted, ran⟩ := bind_ok ran
    have same : third.database = second.database := by
      cases noted
      rfl
    obtain ⟨payload, _, ran⟩ := ofExcept_bind_ok ran
    obtain ⟨snapshot, _, ran⟩ := ofExcept_bind_ok ran
    have rest : SameBooks third.database final.database :=
      within_end SameBooks ran
    rw [same, two.data] at rest
    exact rest

end Runtime

end Torchat
