import Torchat.Engine.MessageRuns
import Torchat.Engine.Quiet
import Torchat.Storage.MessageRows

namespace Torchat

open Foundation Storage Frame
open Database (Alters Beside Disturbs Touches)

/-! ## What a transaction names -/

variable {database : Database}

namespace Runtime

variable {runtime : Runtime}

def names (runtime : Runtime) : List InstallationId :=
  runtime.session.pendingEvents.filterMap RuntimeEvent.conversation

structure Owing
    (owed : Set InstallationId) (before after : Runtime) : Prop where
  named : before.names ⊆ after.names
  told : ∀ contact, Database.Alters contact before.database after.database →
    contact ∈ after.names ∨ contact ∈ owed
  revisions : after.database.revisions = before.database.revisions

theorem Owing.refl (owed : Set InstallationId) (runtime : Runtime) :
    Owing owed runtime runtime :=
  ⟨List.Subset.refl _, fun _ ⟨_, differs, _⟩ => absurd rfl differs, rfl⟩

theorem Owing.trans (one : Owing owed first second)
    (two : Owing more second third) : Owing (owed ∪ more) first third where
  named := List.Subset.trans one.named two.named
  told contact alters := by
    rcases alters.cases second.database with earlier | later
    · rcases one.told contact earlier with named | owes
      · exact .inl (two.named named)
      · exact .inr (.inl owes)
    · exact (two.told contact later).imp_right .inr
  revisions := two.revisions.trans one.revisions

theorem Owing.mono (owing : Owing owed first second) (covers : owed ⊆ more) :
    Owing more first second :=
  ⟨owing.named, fun contact alters =>
    (owing.told contact alters).imp_right fun owes => covers owes,
    owing.revisions⟩

theorem Owing.paid
    (owing : Owing owed first second) (paid : ∀ contact ∈ owed,
      contact ∈ second.names) : Owing ∅ first second :=
  ⟨owing.named, fun contact alters =>
    .inl ((owing.told contact alters).elim id (paid contact)),
    owing.revisions⟩

abbrev Told : Runtime → Runtime → Prop := Owing ∅

instance Told.frame : Frame Told where
  refl := .refl ∅
  trans one two := by
    have both := one.trans two
    rwa [Set.empty_union] at both

structure Aside (before after : Runtime) : Prop where
  named : before.names ⊆ after.names
  beside : Database.Beside before.database after.database

instance Aside.storing : Storing Aside Beside where
  refl _ := ⟨List.Subset.refl _, rfl⟩
  trans one two := ⟨List.Subset.trans one.named two.named,
    trans one.beside two.beside⟩
  called := by
    rintro _ _ ⟨_, _, rfl⟩
    exact ⟨List.Subset.refl _, rfl⟩
  data _ _ beside := ⟨List.Subset.refl _, beside⟩

instance Aside.framed : Framed Aside := Aside.storing.toFramed

instance Aside.frame : Frame Aside := Aside.storing.toFrame

theorem Aside.messages (aside : Aside first second) :
    second.database.messages = first.database.messages :=
  aside.beside.messages

theorem Aside.told (aside : Aside first second) : Told first second :=
  ⟨aside.named, fun _ alters => absurd alters aside.beside.unaltered,
    aside.beside.revisions⟩

theorem names_pushEvent {session : RuntimeSession} :
    contact ∈ (session.pushEvent event).pendingEvents.filterMap
        RuntimeEvent.conversation ↔
      contact ∈ session.pendingEvents.filterMap RuntimeEvent.conversation ∨
        event.conversation = some contact := by
  simp only [List.mem_filterMap, mem_pendingEvents_pushEvent]
  constructor
  · rintro ⟨pending, old | rfl, named⟩
    · exact .inl ⟨pending, old, named⟩
    · exact .inr named
  · rintro (⟨pending, old, named⟩ | named)
    · exact ⟨pending, .inl old, named⟩
    · exact ⟨event, .inr rfl, named⟩

instance Aside.speaking : Speaking Aside where
  spoken _ _ := ⟨fun _ named => names_pushEvent.mpr (.inl named), rfl⟩

instance : (persistOperation operation).Keeps Aside := by
  unfold persistOperation
  infer_instance

instance (requestedId : String) (messageId : Uuid) (descriptor : String)
    (nowMs : Int) :
    (beginMessageDelivery requestedId messageId descriptor nowMs).Keeps
      Aside := by
  refine .next fun _ => .next fun _ => ?_
  infer_instance

instance updateMessageDelivery_aside :
    (updateMessageDelivery messageId change).Keeps Aside := by
  refine .next fun active => ?_
  cases active with
  | none | some => infer_instance

instance (messageId : Uuid) (nowMs : Int) :
    (completeMessageDelivery messageId nowMs).Keeps Aside :=
  updateMessageDelivery_aside

instance (messageId : Uuid) (retryAt : Int) (errorCode : RuntimeErrorCode)
    (nowMs : Int) :
    (retryMessageDelivery messageId retryAt errorCode nowMs).Keeps Aside :=
  updateMessageDelivery_aside

instance (messageId : Uuid) (errorCode : RuntimeErrorCode) (nowMs : Int) :
    (failMessageDelivery messageId errorCode nowMs).Keeps Aside :=
  updateMessageDelivery_aside

section

variable {program : Call α}

theorem Owing.aside (owing : Owing owed first second)
    (aside : Aside second third) : Owing owed first third := by
  have both := owing.trans aside.told
  rwa [Set.union_empty] at both

theorem Aside.owing (aside : Aside first second)
    (owing : Owing owed second third) : Owing owed first third := by
  have both := aside.told.trans owing
  rwa [Set.empty_union] at both

theorem own_aside (own : Database.Own messageId contact first.database)
    (aside : Aside first second) :
    Database.Own messageId contact second.database := by
  intro row held
  rw [aside.messages] at held
  exact own row held

theorem owing_of_touches
    (touches : Touches messageId contact runtime.database
      database) (own : Database.Own messageId contact runtime.database) :
    Owing {contact} runtime { runtime.tick with database := database } :=
  ⟨List.Subset.refl _, fun _ alters => .inr (touches.alters own alters),
    touches.revisions⟩

theorem putMessage_owing (ran : putMessage message runtime = (.ok value, final))
    (own : Database.Own message.id message.conversationId runtime.database) :
    Owing {message.conversationId} runtime final := by
  obtain ⟨database, done, rfl⟩ := write_ok ran
  exact owing_of_touches (Database.putMessage_touches done) own

def Placed (messageId : Uuid) (conversationId : InstallationId)
    (database : Database) : Prop :=
  ∃ row ∈ database.messages.lookup messageId,
    row.message.conversationId = conversationId

theorem Placed.own (placed : Placed messageId contact database) :
    Database.Own messageId contact database := by
  obtain ⟨stored, found, rfl⟩ := placed
  intro row held
  cases found.symm.trans held
  rfl

def Steady (before after : Database) : Prop :=
  ∀ messageId conversationId, Placed messageId conversationId before →
    Placed messageId conversationId after

instance Steady.frame : Frame Steady where
  refl _ _ _ := id
  trans one two messageId contact placed :=
    two messageId contact (one messageId contact placed)

theorem Aside.steady
    (aside : Aside first second) : Steady first.database second.database := by
  rintro messageId contact ⟨row, held, own⟩
  rw [← aside.messages] at held
  exact ⟨row, held, own⟩

theorem putMessage_placed
    (ran : putMessage message runtime = (.ok value, final)) :
    Placed message.id message.conversationId final.database := by
  obtain ⟨database, done, rfl⟩ := write_ok ran
  obtain ⟨wire, lookup⟩ := Database.putMessage_lookup done
  refine ⟨⟨message, wire⟩, ?_, rfl⟩
  exact (lookup message.id).trans (if_pos rfl)

theorem putMessage_steady
    (ran : putMessage message runtime = (.ok value, final))
    (own : Database.Own message.id message.conversationId runtime.database) :
    Steady runtime.database final.database := by
  have placed := putMessage_placed ran
  obtain ⟨database, done, rfl⟩ := write_ok ran
  obtain ⟨wire, lookup⟩ := Database.putMessage_lookup done
  rintro messageId _ ⟨row, held, rfl⟩
  by_cases same : messageId = message.id
  · subst same
    rw [own row held]
    exact placed
  · exact ⟨row, (lookup messageId).trans ((if_neg same).trans held), rfl⟩

theorem messageStateChanged_names {state : Option MessageState}
    (ran : messageStateChanged messageId contact state runtime =
      (.ok value, final)) : contact ∈ final.names := by
  cases ran
  exact names_pushEvent.mpr (.inr rfl)

theorem Owing.settled
    (owing : Owing {contact} first second) (aside : Aside second third)
    (named : contact ∈ third.names) : Told first third :=
  (owing.aside aside).paid (by rintro _ ⟨⟩; exact named)

theorem message_own (found : database.message messageId = some message) :
    Database.Own messageId message.conversationId database := by
  obtain ⟨stored, held, rfl⟩ := Option.map_eq_some_iff.mp found
  intro row same
  cases held.symm.trans same
  rfl

def due (conversationId : InstallationId) (transitions : List MessageState) :
    Set InstallationId :=
  { contact | contact = conversationId ∧ transitions ≠ [] }

theorem enterSending_owing
    (own : Database.Own message.id message.conversationId runtime.database)
    (ran : enterSending message runtime = (.ok (entered, transitions), final)) :
    Owing (due message.conversationId transitions) runtime final ∧
      Steady runtime.database final.database ∧ entered.id = message.id ∧
      entered.conversationId = message.conversationId := by
  unfold enterSending at ran
  cases prepared : messageStateOnSendPrepare message.state with
  | none =>
    simp only [prepared] at ran
    cases ran
  | some state =>
    simp only [prepared] at ran
    split at ran
    · cases ran
      exact ⟨.refl _ _, refl _, rfl, rfl⟩
    · obtain ⟨_, next, put, ended⟩ := bind_ok ran
      cases ended
      refine ⟨(putMessage_owing put own).mono ?_, putMessage_steady put own,
        rfl, rfl⟩
      rintro contact rfl
      exact ⟨rfl, nofun⟩

theorem prepareExisting_owing
    (ran : prepareExisting message manualRetry runtime =
      (.ok (effect, transitions), final))
    (own : Database.Own message.id message.conversationId runtime.database) :
    Owing (due effect.conversationId transitions) runtime final ∧
      Steady runtime.database final.database ∧
      effect.conversationId = message.conversationId := by
  obtain ⟨found, first, _, one, ran⟩ := kept_ok Aside ran
  obtain ⟨conversation, second, _, two, ran⟩ := kept_ok Aside ran
  obtain ⟨recipient, third, _, three, ran⟩ := kept_ok Aside ran
  obtain ⟨⟨entered, moves⟩, fourth, entering, ran⟩ := bind_ok ran
  have aside : Aside runtime third :=
    trans one (trans two three)
  have still := own_aside own aside
  obtain ⟨owing, steady, _, conv⟩ := enterSending_owing still entering
  simp only [fail_bind] at ran
  split at ran
  · cases ran
  · cases ran
    refine ⟨?_, trans aside.steady steady, conv⟩
    rw [messageEffect, conv]
    exact aside.owing owing

theorem publishMessageTransitions_names (some : transitions ≠ [])
    (ran : publishMessageTransitions messageId contact transitions
      runtime = (.ok value, final)) : contact ∈ final.names := by
  cases transitions with
  | nil => exact absurd rfl some
  | cons state rest =>
    obtain ⟨_, next, pushed, ran⟩ := bind_ok ran
    have rest : publishMessageTransitions messageId contact rest next =
        (.ok value, final) := ran
    have aside : Aside next final := kept_end rest
    exact aside.named (messageStateChanged_names pushed)

variable {nowMs : Int}

theorem enqueueSend_pays
    (ran : enqueueSend operationId descriptor effect transitions nowMs runtime =
      (.ok value, final)) :
    Aside runtime final ∧ ∀ contact ∈ due effect.conversationId transitions,
      contact ∈ final.names := by
  obtain ⟨_, first, _, one, ran⟩ := kept_ok Aside ran
  obtain ⟨_, second, _, two, ran⟩ := kept_ok Aside ran
  refine ⟨trans one (trans two (kept_end ran)), ?_⟩
  rintro contact ⟨rfl, moved⟩
  exact publishMessageTransitions_names moved ran

theorem outgoingRequired_own
    (ran : outgoingRequired messageId incoming runtime = (.ok message, final)) :
    Aside runtime final ∧
      Database.Own message.id message.conversationId final.database := by
  have aside : Aside runtime final := kept_end ran
  refine ⟨aside, ?_⟩
  obtain ⟨row, stored, _, rfl⟩ := outgoingRequired_value ran
  intro held found
  rw [aside.messages] at found
  cases stored.symm.trans found
  rfl

theorem retryMessage_owing
    (ran : retryMessage messageId nowMs runtime =
      (.ok (effect, transitions), final)) :
    Owing (due effect.conversationId transitions) runtime final := by
  obtain ⟨message, first, asked, ran⟩ := bind_ok ran
  obtain ⟨one, own⟩ := outgoingRequired_own asked
  simp only [fail_bind] at ran
  split at ran
  · cases ran
  · obtain ⟨_, second, put, ran⟩ := bind_ok ran
    obtain ⟨⟨prepared, moves⟩, third, preparing, ran⟩ := bind_ok ran
    cases ran
    obtain ⟨prepares, _, same⟩ :=
      prepareExisting_owing preparing (putMessage_placed put).own
    refine (one.owing ((putMessage_owing put own).trans prepares)).mono ?_
    rintro contact (rfl | ⟨rfl, _⟩)
    · exact ⟨same.symm, nofun⟩
    · exact ⟨rfl, nofun⟩

theorem featureRetryMessage_told
    (ran : featureRetryMessage operationId descriptor messageId nowMs runtime =
      (.ok effect, final)) : Told runtime final := by
  obtain ⟨⟨prepared, transitions⟩, first, retried, ran⟩ := bind_ok ran
  obtain ⟨_, second, enqueued, ran⟩ := bind_ok ran
  cases ran
  obtain ⟨aside, paid⟩ := enqueueSend_pays enqueued
  exact ((retryMessage_owing retried).aside aside).paid paid

/-! Sends of all that is pending. -/

def dues (pending : List (MessageSendEffect × List MessageState)) :
    Set InstallationId :=
  { contact | ∃ prepared ∈ pending,
    contact ∈ due prepared.1.conversationId prepared.2 }

theorem preparePending_owing
    (placed : ∀ message ∈ messages,
      Placed message.id message.conversationId runtime.database)
    (ran : preparePending messages runtime = (.ok pending, final)) :
    Owing (dues pending) runtime final := by
  induction messages generalizing runtime pending with
  | nil =>
    cases ran
    exact .refl _ _
  | cons message rest induction =>
    obtain ⟨⟨effect, transitions⟩, first, preparing, ran⟩ :=
      bind_ok ran
    obtain ⟨others, second, preparingRest, ran⟩ := bind_ok ran
    cases ran
    obtain ⟨owing, steady, _⟩ :=
      prepareExisting_owing preparing (placed message (.head _)).own
    have later := induction (fun message member =>
      steady _ _ (placed message (.tail _ member))) preparingRest
    refine (owing.trans later).mono ?_
    rintro contact (own | ⟨prepared, member, other⟩)
    · exact ⟨(effect, transitions), .head _, own⟩
    · exact ⟨prepared, .tail _ member, other⟩

theorem enqueueSends_pays
    (ran : (forEach pending fun (effect, transitions) =>
      enqueueSend (deliveryId effect.messageId)
        (deliveryCommand effect.messageId) effect transitions nowMs)
          runtime = (.ok value, final)) :
    Aside runtime final ∧ ∀ contact ∈ dues pending, contact ∈ final.names := by
  induction pending generalizing runtime with
  | nil =>
    cases ran
    exact ⟨refl _, fun _ ⟨_, member, _⟩ => nomatch member⟩
  | cons prepared rest induction =>
    obtain ⟨_, next, enqueued, ran⟩ := bind_ok ran
    obtain ⟨one, paid⟩ := enqueueSend_pays enqueued
    obtain ⟨two, others⟩ := induction ran
    refine ⟨trans one two, ?_⟩
    rintro contact ⟨owner, member, owes⟩
    rcases List.mem_cons.mp member with rfl | later
    · exact two.named (paid contact owes)
    · exact others contact ⟨owner, later, owes⟩

theorem pendingMessages_placed
    (listed : message ∈ database.pendingMessages now) :
    Placed message.id message.conversationId database := by
  obtain ⟨⟨key, row⟩, member, rfl⟩ := List.mem_map.mp listed
  have found := Table.lookup_eq_some_iff.mpr member
  rw [Table.lookup_retain] at found
  exact ⟨row, (Option.filter_eq_some_iff.mp found).1, rfl⟩

theorem featurePreparePendingMessageDeliveries_told
    (ran : featurePreparePendingMessageDeliveries nowMs runtime =
      (.ok effects, final)) : Told runtime final := by
  obtain ⟨now, first, _, one, ran⟩ := kept_ok Aside ran
  obtain ⟨messages, second, asked, two, ran⟩ := kept_ok Aside ran
  obtain ⟨rfl, rfl⟩ := query_ok asked
  obtain ⟨pending, third, preparing, ran⟩ := bind_ok ran
  obtain ⟨_, fourth, enqueueing, ran⟩ := bind_ok ran
  cases ran
  have placed : ∀ message ∈ (first.database.pendingMessages now).filter
      ChatMessage.outgoing,
      Placed message.id message.conversationId first.tick.database :=
    fun message member => pendingMessages_placed (List.mem_filter.mp member).1
  have owing := preparePending_owing placed preparing
  obtain ⟨aside, paid⟩ := enqueueSends_pays enqueueing
  have start : Aside runtime first.tick := trans one two
  exact ((start.owing owing).aside aside).paid paid

theorem prepareMessageSend_told
    (ran : prepareMessageSend messageId runtime = (.ok effect, final)) :
    Told runtime final := by
  obtain ⟨message, first, asked, ran⟩ := bind_ok ran
  obtain ⟨one, own⟩ := outgoingRequired_own asked
  obtain ⟨⟨prepared, transitions⟩, second, preparing, ran⟩ :=
    bind_ok ran
  obtain ⟨owing, _⟩ := prepareExisting_owing preparing own
  obtain ⟨_, third, publishing, ran⟩ := bind_ok ran
  cases ran
  refine ((one.owing owing).aside (kept_end publishing)).paid ?_
  rintro contact ⟨rfl, moved⟩
  exact publishMessageTransitions_names moved publishing

theorem prepareMessageSends_told
    (ran : prepareMessageSends messageIds runtime = (.ok effects, final)) :
    Told runtime final := by
  induction messageIds generalizing runtime effects with
  | nil =>
    cases ran
    exact .refl _ _
  | cons messageId rest induction =>
    obtain ⟨effect, first, prepared, ran⟩ := bind_ok ran
    obtain ⟨others, second, preparing, ran⟩ := bind_ok ran
    cases ran
    exact trans (prepareMessageSend_told prepared) (induction preparing)

theorem preparePendingSendEffects_told
    (ran : preparePendingSendEffects runtime = (.ok effects, final)) :
    Told runtime final := by
  obtain ⟨now, first, _, one, ran⟩ := kept_ok Aside ran
  obtain ⟨messages, second, _, two, ran⟩ := kept_ok Aside ran
  obtain ⟨sends, third, preparing, ran⟩ := bind_ok ran
  have rest : Aside third final := kept_end ran
  have start : Aside runtime second := trans one two
  exact (start.owing (prepareMessageSends_told preparing)).aside rest

theorem applyOutcome_told
    (ran : applyOutcome messageId outcome retryAt errorDetail runtime =
      (.ok (settled, moved), final)) :
    Owing { contact | contact = settled.conversationId ∧ moved } runtime
      final := by
  obtain ⟨message, first, asked, ran⟩ := bind_ok ran
  obtain ⟨one, own⟩ := outgoingRequired_own asked
  cases after : messageStateAfterTransportOutcome message.state outcome with
  | none =>
    simp only [after] at ran
    cases ran
  | some state =>
    simp only [after] at ran
    split at ran
    · cases ran
      exact one.owing (.refl _ _)
    · obtain ⟨_, second, put, ran⟩ := bind_ok ran
      cases ran
      have same :
          (message.settled state retryAt errorDetail).id = message.id ∧
          (message.settled state retryAt errorDetail).conversationId =
            message.conversationId := by
        unfold ChatMessage.settled
        split <;> exact ⟨rfl, rfl⟩
      refine (one.owing (putMessage_owing put ?_)).mono ?_
      · rw [same.1, same.2]
        exact own
      · rintro contact rfl
        exact ⟨rfl, rfl⟩

theorem announceOutcome_told {retryAt errorDetail}
    (ran : announceOutcome messageId outcome retryAt errorDetail runtime =
      (.ok value, final)) : Told runtime final := by
  obtain ⟨⟨message, moved⟩, next, applied, ran⟩ := bind_ok ran
  have owing := applyOutcome_told applied
  cases moved with
  | false =>
    cases ran
    refine owing.paid ?_
    rintro contact ⟨_, ⟨⟩⟩
  | true =>
    have pushed : messageStateChanged message.id message.conversationId
        (some message.state) next = (.ok value, final) := ran
    refine (owing.aside (kept_end pushed)).paid ?_
    rintro contact ⟨rfl, _⟩
    exact messageStateChanged_names pushed

theorem featureApplyMessageDeliveryOutcome_told
    (ran : featureApplyMessageDeliveryOutcome messageId outcome retryAt
      errorDetail nowMs runtime = (.ok value, final)) : Told runtime final := by
  cases outcome with
  | peerUnavailable | retryableFailure | permanentFailure
  | peerAuthenticationFailed | peerRejected | delivered | peerPersisted
  | peerDelivered =>
    obtain ⟨_, first, _, one, ran⟩ := kept_ok Aside ran
    obtain ⟨_, second, _, two, ran⟩ := kept_ok Aside ran
    have start : Aside runtime second := trans one two
    exact start.owing (announceOutcome_told ran)

theorem featureDeleteMessageDelivery_told
    (ran : featureDeleteMessageDelivery messageId nowMs runtime =
      (.ok value, final)) : Told runtime final := by
  obtain ⟨message, first, asked, one, ran⟩ := kept_ok Aside ran
  obtain ⟨_, second, erased, ran⟩ := bind_ok ran
  obtain ⟨_, third, _, three, ran⟩ := kept_ok Aside ran
  obtain ⟨_, fourth, _, four, ran⟩ := kept_ok Aside ran
  have five : Aside fourth final := kept_end ran
  have own : Database.Own messageId message.conversationId first.database := by
    obtain ⟨found, middle, queried, given⟩ := bind_ok asked
    rw [(query_ok queried).1] at given
    exact own_aside (message_own (required_value given)) one
  have gone : Owing {message.conversationId} first second := by
    obtain ⟨database, done, rfl⟩ := write_ok erased
    exact owing_of_touches (Database.deleteMessage_touches done) own
  refine (one.owing gone).settled (trans three
    (trans four five)) (messageStateChanged_names ran)

/-! What a peer sends. -/

theorem applyMessageTransportOutcome_told
    (ran : applyMessageTransportOutcome messageId outcome runtime =
      (.ok value, final)) : Told runtime final := by
  obtain ⟨message, first, asked, ran⟩ := bind_ok ran
  obtain ⟨one, own⟩ := outgoingRequired_own asked
  cases after : messageStateAfterTransportOutcome message.state outcome with
  | none =>
    simp only [after] at ran
    cases ran
  | some state =>
    simp only [after] at ran
    split at ran
    · cases ran
      exact one.told
    · obtain ⟨_, second, put, ran⟩ := bind_ok ran
      exact (one.owing (putMessage_owing put own)).settled (kept_end ran)
        (messageStateChanged_names ran)

theorem acceptDeliveryReceipt_told
    (ran : acceptDeliveryReceipt arrival messageId runtime =
      (.ok value, final)) : Told runtime final := by
  obtain ⟨_, first, applied, ran⟩ := bind_ok ran
  exact (applyMessageTransportOutcome_told applied).aside (kept_end ran)

theorem putMessage_failed (ran : putMessage message runtime = (outcome, final))
    (failed : outcome ≠ .ok ()) : Aside runtime final := by
  rcases bind_cases ran with ⟨_, next, consulted, executed⟩ |
    ⟨_, stopped, _⟩ | ⟨stopped, _⟩
  · have same : Aside runtime next := kept_end consulted
    have ended : Aside next final := by
      cases done : Database.putMessage message next.database with
      | ok database =>
        simp only [onDatabase, zoom, execute, done] at executed
        cases executed
        exact absurd rfl failed
      | error error =>
        simp only [onDatabase, zoom, execute, done] at executed
        cases executed
        exact refl _
    exact trans same ended
  · have kept : Aside runtime _ := (onHost_keeps (Host.consult .statement
      (.storage "statement failed"))).run runtime
    rwa [stopped] at kept
  · have kept : Aside runtime _ := (onHost_keeps (Host.consult .statement
      (.storage "statement failed"))).run runtime
    rwa [stopped] at kept

instance : (applyMessageRead messageId).Keeps Told := by
  refine ⟨fun runtime => ?_⟩
  simp only [applyMessageRead, fail_bind]
  refine bind_end (Told runtime) ?_ fun message first asked => ?_
  · exact Aside.told ((outgoingRequired_keeps).run runtime)
  obtain ⟨one, own⟩ := outgoingRequired_own asked
  split
  · exact one.told
  · split
    · exact one.told
    · rcases ran : putMessage { message with state := .read } first with
        ⟨outcome, second⟩
      by_cases stored : outcome = .ok ()
      · subst stored
        rw [run_bind_ok ran]
        exact (one.owing (putMessage_owing ran own)).settled
          ((messageStateChanged_keeps).run second)
          (messageStateChanged_names rfl)
      · have failed := putMessage_failed ran stored
        refine trans one.told ?_
        rw [run_bind, ran]
        cases outcome with
        | ok value => exact absurd rfl stored
        | err | crash => exact failed.told

theorem acceptReadReceipt_told
    (ran : acceptReadReceipt arrival messageIds runtime = (.ok value, final)) :
    Told runtime final := by
  obtain ⟨_, first, applied, ran⟩ := bind_ok ran
  have told : (forEach messageIds fun messageId => do
      let _ ← (applyMessageRead messageId).attempt :
        Call Unit).Keeps Told := inferInstance
  have one := told.run runtime
  rw [applied] at one
  exact one.aside (kept_end ran)

theorem receiveMessageReply_told {reply : Option MessageReply}
    (ran : receiveMessageReply contact body messageId reply runtime =
      (.ok value, final)) : Told runtime final := by
  obtain ⟨_, first, _, one, ran⟩ := kept_ok Aside ran
  obtain ⟨found, second, asked, two, ran⟩ := kept_ok Aside ran
  have start : Aside runtime second := trans one two
  cases found with
  | some existing =>
    simp only [fail_bind] at ran
    split at ran
    · cases ran
    · split at ran
      · cases ran
      · cases ran
        exact start.told
  | none =>
    obtain ⟨existing, third, _, three, ran⟩ := kept_ok Aside ran
    obtain ⟨session, fourth, here, ran⟩ := bind_ok ran
    cases here
    obtain ⟨createdAt, fifth, _, five, ran⟩ := kept_ok Aside ran
    obtain ⟨_, sixth, put, ran⟩ := bind_ok ran
    obtain ⟨_, seventh, _, seven, ran⟩ := kept_ok Aside ran
    obtain ⟨_, eighth, pushed, eight, ran⟩ := kept_ok Aside ran
    have rest : Aside eighth final := kept_end ran
    have before : Aside runtime fifth :=
      trans start (trans three five)
    have own : Database.Own messageId contact fifth.database := by
      intro row held
      rw [before.messages, ← one.messages] at held
      have absent : first.database.message messageId = none :=
        (query_ok asked).1.symm
      rw [Database.message, Option.map_eq_none_iff] at absent
      rw [absent] at held
      cases held
    have named : contact ∈ eighth.names := by
      cases pushed
      exact names_pushEvent.mpr (.inr rfl)
    exact (before.owing (putMessage_owing put own)).settled
      (trans seven (trans eight rest))
      (rest.named named)

theorem acceptMessage_told {replyTo : Option MessageReply}
    (ran : acceptMessage arrival body replyTo envelopeId runtime =
      (.ok value, final)) : Told runtime final := by
  obtain ⟨accepts, first, _, one, ran⟩ := kept_ok Aside ran
  cases accepts with
  | false =>
    simp only [Bool.false_eq_true, if_false] at ran
    exact one.told.aside (kept_end ran)
  | true =>
    simp only [if_true] at ran
    obtain ⟨_, second, received, ran⟩ := bind_ok ran
    exact (one.owing (receiveMessageReply_told received)).aside (kept_end ran)

/-! A new message. -/

def Before (before after : Runtime) : Prop :=
  Aside before after ∧ Within Untouched before after

instance Before.frame : Frame Before where
  refl _ := ⟨refl _, refl _⟩
  trans one two :=
    ⟨trans one.1 two.1, trans one.2 two.2⟩

theorem before_ok
    [program.Keeps Aside] [kept : program.Keeps (Within Untouched)]
    (ran : (program >>= rest) runtime = (.ok result, final)) :
    ∃ value next, program runtime = (.ok value, next) ∧ Before runtime next ∧
      rest value next = (.ok result, final) := by
  obtain ⟨value, next, began, aside, followed⟩ := kept_ok Aside ran
  exact ⟨value, next, began, ⟨aside, kept_end began⟩, followed⟩

section

variable (fresh : ∀ turn, runtime.database.messages.lookup
    (runtime.host.world.uuid turn) = none)

include fresh

theorem queueMessage_owing
    (ran : queueMessage conversationId text replyToMessageId nowMs runtime =
      (.ok (effect, transitions), final)) :
    Owing (due effect.conversationId transitions) runtime final ∧
      transitions ≠ [] ∧
      Placed effect.messageId effect.conversationId final.database := by
  obtain ⟨_, first, _, one, ran⟩ := before_ok ran
  obtain ⟨reply, second, _, two, ran⟩ := before_ok ran
  obtain ⟨found, third, _, three, ran⟩ := before_ok ran
  obtain ⟨conversation, fourth, _, four, ran⟩ := before_ok ran
  obtain ⟨contact, fifth, _, five, ran⟩ := before_ok ran
  have start : Before runtime fifth := trans
    (trans one two) (trans three (trans four five))
  obtain ⟨drawn, sixth, drawing, six, ran⟩ := before_ok ran
  have origin : drawn = runtime.host.world.uuid fifth.host.calls := by
    rw [← start.2.world]
    cases drawing
    rfl
  obtain ⟨_, seventh, put, ran⟩ := bind_ok ran
  obtain ⟨_, eighth, _, eight, ran⟩ := kept_ok Aside ran
  obtain ⟨⟨entered, moves⟩, ninth, entering, ran⟩ := bind_ok ran
  cases ran
  have start : Aside runtime sixth := trans start.1 six.1
  have own : Database.Own drawn conversationId sixth.database := by
    intro row held
    rw [start.messages, origin, fresh] at held
    cases held
  have placed := eight.steady _ _ (putMessage_placed put)
  obtain ⟨enters, steady, same, conv⟩ := enterSending_owing placed.own entering
  have stored := putMessage_owing put own
  refine ⟨?_, nofun, ?_⟩
  · refine (start.owing ((stored.aside eight).trans enters)).mono ?_
    rintro _ (rfl | ⟨rfl, _⟩)
    · exact ⟨conv.symm, nofun⟩
    · exact ⟨conv.symm, nofun⟩
  · have still := steady _ _ placed
    rw [messageEffect, same, conv]
    exact still

theorem featureQueueMessageDelivery_told
    (ran : featureQueueMessageDelivery operationId descriptor contact
      text replyToMessageId nowMs runtime = (.ok effect, final)) :
    Told runtime final ∧ effect.conversationId ∈ final.names ∧
      Placed effect.messageId effect.conversationId final.database := by
  obtain ⟨⟨prepared, transitions⟩, first, queued, ran⟩ := bind_ok ran
  obtain ⟨_, second, enqueued, ran⟩ := bind_ok ran
  obtain ⟨_, third, _, three, ran⟩ := kept_ok Aside ran
  cases ran
  obtain ⟨owing, some, placed⟩ := queueMessage_owing fresh queued
  obtain ⟨aside, paid⟩ := enqueueSend_pays enqueued
  exact ⟨((owing.aside aside).paid paid).aside three,
    three.named (paid _ ⟨rfl, some⟩),
    three.steady _ _ (aside.steady _ _ placed)⟩

theorem sendNewMessage_told
    (ran : sendNewMessage P contact conversation context conversationId body
      replyToMessageId nowMs nextAttemptAt runtime = (.ok result, final)) :
    Told runtime final := by
  obtain ⟨effect, first, queueing, ran⟩ := bind_ok ran
  obtain ⟨told, named, placed⟩ :=
    featureQueueMessageDelivery_told fresh queueing
  obtain ⟨found, second, _, two, ran⟩ := kept_ok Aside ran
  cases found with
  | none => cases ran
  | some stored =>
    obtain ⟨plaintext, _, ran⟩ := ofExcept_bind_ok ran
    obtain ⟨⟨ciphertext, advanced⟩, _, ran⟩ := ofExcept_bind_ok ran
    obtain ⟨_, third, noted, ran⟩ := bind_ok ran
    have three : Aside second third := by
      cases noted
      exact ⟨List.Subset.refl _, rfl⟩
    obtain ⟨payload, _, ran⟩ := ofExcept_bind_ok ran
    obtain ⟨snapshot, _, ran⟩ := ofExcept_bind_ok ran
    obtain ⟨_, fourth, persisting, ran⟩ := bind_ok ran
    obtain ⟨claimed, fifth, claiming, ran⟩ := bind_ok ran
    obtain ⟨persisted, done, rfl⟩ := write_ok persisting
    obtain ⟨settled, chosen, rfl⟩ := writeReturning_ok claiming
    have start : Aside first third := trans two three
    have own := own_aside placed.own start
    have encrypts : Touches effect.messageId effect.conversationId
        third.database persisted :=
      Database.persistOutboundEncryption_touches done
    have encrypted := owing_of_touches encrypts own
    have claims : Owing {effect.conversationId}
        { third.tick with database := persisted } _ :=
      owing_of_touches (Database.claimOutgoingAttempt_touches chosen)
        (encrypts.own own)
    have both := (encrypted.trans claims).paid (by
      rintro _ (rfl | rfl)
      · exact start.named named
      · exact start.named named)
    have last : Aside _ final := kept_end ran
    exact trans told ((start.owing both).aside last)

end

/-! Removals, which name no conversation. -/

def Hushed (before after : Runtime) : Prop := after.names ⊆ before.names

instance Hushed.storing : Storing Hushed Database.Anything where
  refl _ := List.Subset.refl _
  trans one two := List.Subset.trans two one
  called := by
    rintro _ _ ⟨_, _, rfl⟩
    exact List.Subset.refl _
  data _ _ _ := List.Subset.refl _

instance Hushed.framed : Framed Hushed := Hushed.storing.toFramed

instance Hushed.frame : Frame Hushed := Hushed.storing.toFrame

instance : (changed kind).Keeps Hushed :=
  ⟨fun _ _ named => (names_pushEvent.mp named).elim id nofun⟩

instance : (persistOperation operation).Keeps Hushed :=
  write_keeps

instance :
    (requestRelationshipRemoval operationId descriptor contact preserve
      removalId removedAt).Keeps Hushed := by
  simp only [requestRelationshipRemoval, fail_bind]
  refine .next fun _ => .next fun _ =>
    .next fun _ => .next fun _ => ?_
  split
  · infer_instance
  · refine .next fun _ => ?_
    infer_instance

instance removeRelationship_hushed :
    (removeRelationship operationId descriptor contact preserve removalId
      removedAt).Keeps Hushed := by
  unfold removeRelationship
  infer_instance

instance acceptRelationshipRemoved_hushed :
    (acceptRelationshipRemoved arrival removedAt removalId epoch
      answer).Keeps Hushed := by
  unfold acceptRelationshipRemoved applyRemoteRelationshipRemoval storeReceived
    markApplied
  infer_instance

theorem acceptRelationshipRemoved_disturbs
    (ran : acceptRelationshipRemoved arrival removedAt removalId
      epoch answer runtime = (.ok value, final)) :
    Disturbs (fun _ row =>
        !runtime.database.staleRemoval arrival.sender epoch &&
          runtime.database.forfeits arrival.sender true row)
      runtime.database final.database := by
  obtain ⟨_, first, removing, rest⟩ := bind_ok ran
  have after : Aside first final := kept_end rest
  replace removing := requireText_bind_ok removing
  replace removing := requireText_bind_ok removing
  obtain ⟨second, written, told⟩ := write_bind_ok removing
  have before : Aside second first := kept_end told
  have last : Aside second final := trans before after
  exact (Database.applyRemoteRelationshipRemoval_disturbs written).then_beside
    last.beside

theorem removeRelationship_disturbs
    (ran : removeRelationship operationId descriptor contact preserve
      removalId removedAt runtime = (.ok value, final)) :
    Disturbs (fun _ row =>
        !(runtime.database.durableOperations.lookup operationId).any
            (fun operation => decide (operation.state = .completed)) &&
          !runtime.database.staleRemoval contact (Database.epochAfter
            (runtime.database.currentRelationshipEpoch contact)) &&
          runtime.database.forfeits contact preserve row)
      runtime.database final.database := by
  obtain ⟨changed, last, ran, told⟩ := bind_ok ran
  have telling : Aside last final := by
    cases changed with
    | false =>
      cases told
      exact refl _
    | true => exact kept_end told
  refine .then_beside ?_ telling.beside
  obtain ⟨same, _, held, found, completed⟩ |
      ⟨_, started, removed, _, _, _, pending, begun, removing, completing⟩ :=
    requestRelationshipRemoval_ok ran
  · refine .of_beside (by rw [same]; rfl) fun _ row _ => ?_
    simp [found, completed]
  · have stale : ∀ epoch, started.staleRemoval contact epoch =
        runtime.database.staleRemoval contact epoch := by
      rw [← Except.ok.inj begun]
      exact fun _ => rfl
    have forfeits : ∀ row, started.forfeits contact preserve row =
        runtime.database.forfeits contact preserve row := by
      rw [← Except.ok.inj begun]
      exact fun _ => rfl
    have beside : Beside runtime.database started := by
      rw [← Except.ok.inj begun]
      rfl
    have ending : Beside removed last.database := by
      rw [← Except.ok.inj completing]
      rfl
    have open' : (runtime.database.durableOperations.lookup operationId).any
        (fun operation => decide (operation.state = .completed)) = false := by
      rw [← Bool.not_eq_true, Option.any_eq_true]
      rintro ⟨held, found, completed⟩
      exact pending held found (of_decide_eq_true completed)
    simp only [open', Bool.not_false, Bool.true_and]
    have removes := Database.removeRelationshipWithId_disturbs removing
    simp only [stale, forfeits] at removes
    exact (removes.after_beside beside).then_beside ending

end

end Runtime

/-! ## What is committed -/

namespace Actor

theorem withRuntimeInternal_ok
    {actor : Actor P} (answers : actor.host.faults .query = .proceed)
    (ran : withRuntimeInternal operation idempotency response actor =
      (.ok (value, events), after)) :
    ∃ runtime bumped, operation actor.begun = (.ok value, runtime) ∧
      bumpRevision actor.host.faults runtime.session runtime.database =
        .ok bumped ∧
      Beside bumped after.database ∧
      (runtime.session.pendingProjectionChanges.1 = true →
        .projectionChanged after.database.globalRevision true
          runtime.session.pendingProjectionChanges.2 ∈ events) := by
  simp only [withRuntimeInternal] at ran
  split at ran
  · cases ran
  · cases ran
  · split at ran
    · cases ran
    · cases ran
    · rename_i runtime operated
      split at ran
      · cases ran
      · cases ran
      · rename_i database prepared
        split at ran
        · cases ran
        · cases ran
        · obtain ⟨bumped, revised, saved⟩ := prepareCommit_eq_ok prepared
          have beside : Beside bumped database := by
            rcases saved with ⟨_, rfl⟩ | ⟨_, _, _, saving⟩
            · rfl
            · rw [saveResponse_eq saving]
              rfl
          simp only [afterCommit] at ran
          split at ran
          · cases ran
          · cases ran
          · obtain ⟨outcome, rfl⟩ := Prod.mk.inj ran
            obtain ⟨_, _, answered⟩ := Outcome.andThen_eq_ok.mp outcome
            cases answered
            refine ⟨runtime, bumped, operated, revised, beside,
              fun changed => ?_⟩
            simp [changed, answers]

end Actor

namespace Messaging

def Input.direct : Input P → Option (Actor.Call P Unit)
  | claim messageId nextAttemptAt ackDeadline lastTransportError nowMs =>
    some do
      let _ ← Actor.writeReturning (Database.claimOutgoingAttempt messageId
        nextAttemptAt ackDeadline lastTransportError nowMs)
  | encrypt messageId wire conversationId snapshot nextAttemptAt ackDeadline
      nowMs => some do
        let _ ← Actor.writeReturning
          (Database.persistOutboundEncryptionAndClaim messageId wire
            conversationId snapshot nextAttemptAt ackDeadline nowMs)
  | disconnect nowMs =>
    some (Actor.write (Database.requeueAfterDisconnect nowMs))
  | requeue nowMs => some (Actor.write (Database.requeuePeerDeliveries nowMs))
  | expediteDeliveries contact =>
    some (Actor.write (Database.expediteDeliveries contact))
  | expedite contact => some (Actor.write (Database.expediteMessages contact))
  | _ => none

def Input.disturbs (database : Database) (messageId : Uuid) (row : MessageRow) :
    Input P → Bool
  | removal operationId _ contact preserveHistory _ _ =>
    !(database.durableOperations.lookup operationId).any
        (fun operation => decide (operation.state = .completed)) &&
      !database.staleRemoval contact (Database.epochAfter
        (database.currentRelationshipEpoch contact)) &&
      database.forfeits contact preserveHistory row
  | remoteRemoval arrival _ _ relationshipEpoch _ =>
    !database.staleRemoval arrival.sender relationshipEpoch &&
      database.forfeits arrival.sender true row
  | claim claimed _ _ _ nowMs | encrypt claimed _ _ _ _ _ nowMs =>
    messageId = claimed && row.claimable nowMs
  | disconnect _ => row.message.outgoing && row.message.state = .sending
  | requeue _ =>
    row.message.outgoing && row.message.state = .sending &&
      database.outboundDeliveries.contains messageId
  | expedite contact =>
    row.message.conversationId = contact && row.message.outgoing &&
      MessageState.isPending row.message.state &&
      !(row.message.state = .queued && row.message.nextAttemptAt = 0 &&
        row.message.ackDeadline = none)
  | _ => false

def Input.run (idempotency : Option IdempotencyCommitContext)
    (response : Unit → EngineResult (Option String)) (written : Input P) :
    Actor.Call P (List RuntimeEvent) :=
  match written.direct with
  | some statement => do
      statement
      return []
  | none => do
      return (← Actor.withRuntimeInternal written.program idempotency
        response).2

structure Projected (contact : InstallationId) (before after : Database)
    (events : List RuntimeEvent) : Prop where
  newer : before.conversationRevision contact <
    after.conversationRevision contact
  bounded : after.conversationRevision contact ≤ after.globalRevision
  published : ∃ revision contacts, contact ∈ contacts ∧
    .projectionChanged revision true contacts ∈ events

section

variable {actor after : Actor P} {runtime : Runtime}
  {events : List RuntimeEvent}

theorem mem_pendingProjectionChanges :
    contact ∈ runtime.session.pendingProjectionChanges.2 ↔
      contact ∈ runtime.names := by
  simp [RuntimeSession.pendingProjectionChanges, Runtime.names]

section

variable (revised : Actor.bumpRevision faults runtime.session runtime.database =
    .ok bumped)

include revised

theorem bumpRevision_named (contact : InstallationId) :
    bumped.conversationRevision contact =
      if contact ∈ runtime.names then runtime.database.globalRevision + 1
      else runtime.database.conversationRevision contact := by
  unfold Actor.bumpRevision at revised
  split at revised
  · obtain ⟨_, _, done⟩ := Outcome.andThen_eq_ok.mp revised
    have bumped := mapError_eq_ok.mp (Outcome.ofExcept_eq_ok.mp done)
    rw [Database.bumpProjectionRevision_revision bumped]
    simp only [mem_pendingProjectionChanges]
  · rename_i silent
    cases revised
    rw [if_neg]
    exact fun named => silent (RuntimeSession.projection_changed_of_mem
      (mem_pendingProjectionChanges.mpr named))

theorem bumpRevision_head :
    runtime.database.globalRevision ≤ bumped.globalRevision ∧
      ∀ contact ∈ runtime.names,
        bumped.globalRevision = runtime.database.globalRevision + 1 := by
  cases changed : runtime.session.pendingProjectionChanges.1 with
  | true =>
    have raised := Actor.bumpRevision_globalRevision changed revised
    exact ⟨by omega, fun _ _ => raised⟩
  | false =>
    rw [Actor.bumpRevision_silent changed] at revised
    cases revised
    refine ⟨le_rfl, fun contact named => ?_⟩
    have moved := RuntimeSession.projection_changed_of_mem
      (mem_pendingProjectionChanges.mpr named)
    rw [changed] at moved
    cases moved

theorem bumpRevision_messages :
    bumped.messages = runtime.database.messages := by
  unfold Actor.bumpRevision at revised
  split at revised
  · obtain ⟨_, _, done⟩ := Outcome.andThen_eq_ok.mp revised
    obtain ⟨_, rfl⟩ := Database.bumpProjectionRevision_eq
      (mapError_eq_ok.mp (Outcome.ofExcept_eq_ok.mp done))
    rfl
  · cases revised
    rfl

end

theorem bumpRevision_revised (before : runtime.database.Revised)
    (revised : Actor.bumpRevision faults runtime.session runtime.database =
      .ok bumped) : bumped.Revised := by
  intro contact
  obtain ⟨grown, head⟩ := bumpRevision_head revised
  rw [bumpRevision_named revised]
  split
  · rename_i named
    rw [head contact named]
  · exact (before contact).trans grown

def Covers (disturbed : Uuid → MessageRow → Bool) (before after : Database)
    (events : List RuntimeEvent) : Prop :=
  after.Revised ∧
    ((∀ contact, Database.Alters contact before after →
      Projected contact before after events) ↔
      ∀ messageId row, before.messages.lookup messageId = some row →
        ¬ disturbed messageId row)

section

variable {operation : Runtime.Call Unit}
  {idempotency : Option IdempotencyCommitContext}
  {response : Unit → EngineResult (Option String)}

theorem Input.committed_ok {written : Input P} (direct : written.direct = none)
    (ran : written.run idempotency response actor = (.ok events, after)) :
    Actor.withRuntimeInternal written.program idempotency response actor =
      (.ok ((), events), after) := by
  simp only [Input.run, direct] at ran
  obtain ⟨_, committed, rfl⟩ := bind_pure_ok ran
  exact committed

theorem Input.direct_ok {written : Input P}
    (direct : written.direct = some statement)
    (ran : written.run idempotency response actor = (.ok events, after)) :
    statement actor = (.ok (), after) := by
  simp only [Input.run, direct] at ran
  obtain ⟨_, wrote, -⟩ := bind_pure_ok ran
  exact wrote

theorem told_covers (answers : actor.host.faults .query = .proceed)
    (revised : actor.database.Revised)
    (told : ∀ runtime, operation actor.begun = (.ok (), runtime) →
      Runtime.Told actor.begun runtime)
    (calm : ∀ messageId row, disturbed messageId row = false)
    (ran : Actor.withRuntimeInternal operation idempotency response actor =
      (.ok ((), events), after)) :
    Covers disturbed actor.database after.database events := by
  obtain ⟨runtime, bumped, operated, moved, beside, published⟩ :=
    Actor.withRuntimeInternal_ok answers ran
  have told := told runtime operated
  have before : runtime.database.Revised := revised.of_revisions told.revisions
  have settled := (bumpRevision_revised before moved).of_revisions
    beside.revisions
  refine ⟨settled, fun _ messageId row _ => ?_, fun _ contact alters => ?_⟩
  · rw [calm]
    exact Bool.false_ne_true
  · have same : after.database.messages = runtime.database.messages :=
      beside.messages.trans (bumpRevision_messages moved)
    have named : contact ∈ runtime.names :=
      (told.told contact (alters.of_messages same)).elim id nofun
    have listed := mem_pendingProjectionChanges.mpr named
    refine ⟨?_, settled contact, _, _, listed,
      published (RuntimeSession.projection_changed_of_mem listed)⟩
    rw [Database.conversationRevision_of_revisions beside.revisions,
      bumpRevision_named moved, if_pos named]
    have head : runtime.database.globalRevision =
        actor.database.globalRevision := congrArg Prod.fst told.revisions
    have bound := revised contact
    omega

theorem covers_of_still (revised : final.Revised)
    (disturbs : Disturbs disturbed before middle)
    (messages : final.messages = middle.messages)
    (still : ∀ contact, final.conversationRevision contact =
      middle.conversationRevision contact) :
    Covers disturbed before final events := by
  refine ⟨revised, ?_⟩
  rw [← disturbs.unaltered_iff]
  refine forall_congr' fun contact => ?_
  have same : Alters contact before final ↔
      Alters contact before middle :=
    ⟨fun alters => alters.of_messages messages,
      fun alters => alters.of_messages messages.symm⟩
  rw [same]
  refine ⟨fun shown alters => ?_, fun calm alters => absurd alters calm⟩
  have newer := (shown alters).newer
  rw [still, Database.conversationRevision_of_revisions disturbs.revisions]
    at newer
  exact lt_irrefl _ newer

theorem hushed_covers
    (idle : actor.Idle) (answers : actor.host.faults .query = .proceed)
    (revised : actor.database.Revised) (hushed : operation.Keeps Runtime.Hushed)
    (disturbs : ∀ runtime, operation actor.begun = (.ok (), runtime) →
      Disturbs disturbed actor.database runtime.database)
    (ran : Actor.withRuntimeInternal operation idempotency response actor =
      (.ok ((), events), after)) :
    Covers disturbed actor.database after.database events := by
  obtain ⟨runtime, bumped, operated, moved, beside, _⟩ :=
    Actor.withRuntimeInternal_ok answers ran
  have disturbs := disturbs runtime operated
  have before : runtime.database.Revised :=
    revised.of_revisions disturbs.revisions
  refine covers_of_still
    ((bumpRevision_revised before moved).of_revisions beside.revisions) disturbs
    (beside.messages.trans (bumpRevision_messages moved)) fun contact => ?_
  rw [Database.conversationRevision_of_revisions beside.revisions,
    bumpRevision_named moved, if_neg]
  have silent := hushed.run actor.begun
  rw [operated] at silent
  have unnamed : actor.begun.names = [] := congrArg
    (List.filterMap RuntimeEvent.conversation) idle
  intro named
  have early := silent named
  rw [unnamed] at early
  cases early

theorem direct_covers (revised : actor.database.Revised)
    (disturbs : Disturbs disturbed actor.database database) :
    Covers disturbed actor.database database events :=
  covers_of_still (revised.of_revisions disturbs.revisions) disturbs rfl
    fun _ => rfl

end

/-- The revisions cover every change of a message, unless a removal or a single
statement makes it. -/
theorem message_changes_are_projected_iff
    {written : Input P} {idempotency : Option IdempotencyCommitContext}
    {response : Unit → EngineResult (Option String)} (idle : actor.Idle)
    (answers : actor.host.faults .query = .proceed)
    (revised : actor.database.Revised)
    (fresh : ∀ turn, actor.database.messages.lookup
      (actor.host.world.uuid turn) = none)
    (ran : written.run idempotency response actor = (.ok events, after)) :
    after.database.Revised ∧
    ((∀ contact, Database.Alters contact actor.database after.database →
      Projected contact actor.database after.database events) ↔
      ∀ messageId row, actor.database.messages.lookup messageId = some row →
        ¬ written.disturbs actor.database messageId row) := by
  change Covers (fun messageId row =>
    written.disturbs actor.database messageId row) actor.database
    after.database events
  have committed := fun direct => Input.committed_ok direct ran
  have spoken := fun direct told calm => @told_covers P actor after events
    written.program idempotency response
    (fun messageId row => written.disturbs actor.database messageId row)
    answers revised told calm (committed direct)
  have wrote := fun {statement} (direct : written.direct = some statement) =>
    Input.direct_ok direct ran
  cases written with
  | send =>
    refine spoken rfl (fun runtime operated => ?_) fun _ _ => rfl
    obtain ⟨_, sent, -⟩ := bind_pure_ok operated
    exact Runtime.sendNewMessage_told fresh sent
  | queue =>
    refine spoken rfl (fun runtime operated => ?_) fun _ _ => rfl
    obtain ⟨_, queued, -⟩ := bind_pure_ok operated
    exact (Runtime.featureQueueMessageDelivery_told fresh queued).1
  | retry =>
    refine spoken rfl (fun runtime operated => ?_) fun _ _ => rfl
    obtain ⟨_, retried, -⟩ := bind_pure_ok operated
    exact Runtime.featureRetryMessage_told retried
  | preparePending =>
    refine spoken rfl (fun runtime operated => ?_) fun _ _ => rfl
    obtain ⟨_, prepared, -⟩ := bind_pure_ok operated
    exact Runtime.featurePreparePendingMessageDeliveries_told prepared
  | prepareSends =>
    refine spoken rfl (fun runtime operated => ?_) fun _ _ => rfl
    obtain ⟨_, prepared, -⟩ := bind_pure_ok operated
    exact Runtime.preparePendingSendEffects_told prepared
  | outcome =>
    exact spoken rfl (fun _ => Runtime.featureApplyMessageDeliveryOutcome_told)
      fun _ _ => rfl
  | receive =>
    exact spoken rfl (fun _ => Runtime.acceptMessage_told) fun _ _ => rfl
  | deliveryReceipt =>
    exact spoken rfl (fun _ => Runtime.acceptDeliveryReceipt_told)
      fun _ _ => rfl
  | readReceipt =>
    exact spoken rfl (fun _ => Runtime.acceptReadReceipt_told) fun _ _ => rfl
  | delete =>
    exact spoken rfl (fun _ => Runtime.featureDeleteMessageDelivery_told)
      fun _ _ => rfl
  | removal =>
    exact hushed_covers idle answers revised Runtime.removeRelationship_hushed
      (fun _ => Runtime.removeRelationship_disturbs) (committed rfl)
  | remoteRemoval =>
    exact hushed_covers idle answers revised
      Runtime.acceptRelationshipRemoved_hushed
      (fun _ => Runtime.acceptRelationshipRemoved_disturbs) (committed rfl)
  | claim =>
    obtain ⟨_, claimed, -⟩ := bind_pure_ok (wrote rfl)
    obtain ⟨database, done, rfl⟩ := Actor.writeReturning_ok claimed
    exact direct_covers revised (Database.claimOutgoingAttempt_disturbs done)
  | encrypt =>
    obtain ⟨_, claimed, -⟩ := bind_pure_ok (wrote rfl)
    obtain ⟨database, done, rfl⟩ := Actor.writeReturning_ok claimed
    exact direct_covers revised
      (Database.persistOutboundEncryptionAndClaim_disturbs done)
  | disconnect =>
    obtain ⟨database, done, rfl⟩ := Actor.write_ok (wrote rfl)
    exact direct_covers revised (Database.requeueAfterDisconnect_disturbs done)
  | requeue =>
    obtain ⟨database, done, rfl⟩ := Actor.write_ok (wrote rfl)
    exact direct_covers revised (Database.requeuePeerDeliveries_disturbs done)
  | expediteDeliveries =>
    obtain ⟨database, done, rfl⟩ := Actor.write_ok (wrote rfl)
    cases done
    exact direct_covers revised (.of_beside rfl fun _ _ _ => rfl)
  | expedite =>
    obtain ⟨database, done, rfl⟩ := Actor.write_ok (wrote rfl)
    exact direct_covers revised (Database.expediteMessages_disturbs done)

end

def underwayRow : MessageRow :=
  ⟨⟨5, "alice", true, "hello", none, .sending, 7000, 0, none, 7000, none, none⟩,
    none⟩

def sendingBob : Actor (.plain "bob") :=
  .assemble _
    (Storage.machine.run conversing [.putMessage underwayRow.message])
    .empty false none 0 (.initial { World.calm 7000 with uuid := fun _ => 6 })

theorem sendingBob_idle : sendingBob.Idle := rfl

theorem sendingBob_revised : sendingBob.database.Revised :=
  fun _ => Nat.zero_le _

theorem sendingBob_fresh (turn : Nat) :
    sendingBob.database.messages.lookup (sendingBob.host.world.uuid turn) =
      none :=
  have free : sendingBob.database.messages.lookup 6 = none := by decide +kernel
  free

def bobAfter (written : Input (.plain "bob")) :
    Outcome EngineError (List RuntimeEvent) × Actor (.plain "bob") :=
  written.run none (fun _ => .ok none) sendingBob

theorem delivered_message_is_projected :
    ∃ events,
      (bobAfter (.outcome 5 .delivered none none 7000)).1 = .ok events ∧
      Projected "alice" sendingBob.database
        (bobAfter (.outcome 5 .delivered none none 7000)).2.database
        events := by
  obtain ⟨events, answered⟩ : ∃ events,
      (bobAfter (.outcome 5 .delivered none none 7000)).1 = .ok events :=
    ⟨_, rfl⟩
  obtain ⟨_, shown⟩ := message_changes_are_projected_iff sendingBob_idle rfl
    sendingBob_revised sendingBob_fresh (Prod.ext answered rfl)
  refine ⟨events, answered, shown.mpr (fun _ _ _ => Bool.false_ne_true) _ ?_⟩
  exact ⟨5, by decide +kernel, underwayRow, .inl (by decide +kernel), rfl⟩

/-- When Bob removes Alice the message fails, and no projection of the
conversation says so. -/
theorem removal_is_not_projected :
    ∃ events,
      (bobAfter (.removal "removal" "descriptor" "alice" true "id"
        8000)).1 = .ok events ∧
      Database.Alters "alice" sendingBob.database
        (bobAfter (.removal "removal" "descriptor" "alice" true "id"
          8000)).2.database ∧
      ¬ Projected "alice" sendingBob.database
        (bobAfter (.removal "removal" "descriptor" "alice" true "id"
          8000)).2.database events := by
  refine ⟨_, rfl, ?_, fun projected => absurd projected.newer ?_⟩
  · exact ⟨5, by decide +kernel, underwayRow, .inl (by decide +kernel), rfl⟩
  · decide +kernel

end Messaging

end Torchat
