import Torchat.Engine.Quiet
import Torchat.Engine.Reach

namespace Torchat

open Foundation Storage Database MessageState Actor

def MessageState.awaitsDelivery : MessageState → Bool
  | .sending | .sent => true
  | _ => false

def MessageState.awaitsReading : MessageState → Bool
  | .sent | .delivered => true
  | _ => false

namespace Storage.Database

def Foreign (sender : InstallationId) (awaits : MessageState → Bool)
    (database : Database) (messageId : Uuid) : Prop :=
  ∃ row, database.messages.lookup messageId = some row ∧
    row.message.conversationId ≠ sender ∧ row.message.outgoing = true ∧
    awaits row.message.state = true

theorem Foreign.of_reach (foreign : after.Foreign sender awaits messageId)
    (reach : Reach {sender} before after) :
    before.Foreign sender awaits messageId := by
  obtain ⟨row, found, other, rest⟩ := foreign
  exact ⟨row, (reach.messages messageId row other).mp found, other, rest⟩

end Storage.Database

namespace Runtime

theorem putMessage_of_own
    (own : ¬ start.database.Foreign sender awaits messageId)
    (called : start.Called runtime)
    (found : start.database.messages.lookup messageId = some row)
    (outgoing : row.message.outgoing = true)
    (moves : awaits row.message.state = true) :
    Within (Reach {sender}) start
      (putMessage { row.message with id := messageId, state := state }
        runtime).2 := by
  have ofSender : row.message.conversationId ∈ ({sender} : Set InstallationId) := by
    by_contra other
    exact own ⟨row, found, other, outgoing, moves⟩
  refine putMessage_reach called ofSender fun replaced stored => ?_
  rw [found] at stored
  cases stored
  exact ofSender

theorem applyMessageTransportOutcome_own
    (own : ¬ start.database.Foreign sender awaitsDelivery messageId) :
    Within (Reach {sender}) start
      (applyMessageTransportOutcome messageId .delivered start).2 := by
  refine .after_read (Frame.refl start) inferInstance
    fun message runtime asked called => ?_
  obtain ⟨row, found, outgoing, rfl⟩ := outgoingRequired_value asked
  cases moved : messageStateAfterTransportOutcome row.message.state .delivered with
  | none => exact called.within
  | some state =>
    by_cases same : state = row.message.state
    · simp only [if_pos same]
      exact called.within
    · simp only [if_neg same]
      have moves : row.message.state.awaitsDelivery = true := by
        revert moved same
        cases row.message.state <;> intro moved same <;> cases moved <;>
          first | rfl | exact absurd rfl same
      exact .followed (putMessage_of_own own called found outgoing moves)
        fun _ => inferInstance

theorem applyMessageRead_own
    (own : ¬ start.database.Foreign sender awaitsReading messageId) :
    Within (Reach {sender}) start (applyMessageRead messageId start).2 := by
  refine .after_read (Frame.refl start) inferInstance
    fun message runtime asked called => ?_
  obtain ⟨row, found, outgoing, rfl⟩ := outgoingRequired_value asked
  by_cases read : row.message.state = .read
  · simp only [if_pos read]
    exact called.within
  · simp only [if_neg read]
    by_cases ineligible :
        row.message.state ≠ .sent ∧ row.message.state ≠ .delivered
    · simp only [if_pos ineligible]
      exact called.within
    · simp only [if_neg ineligible]
      have moves : row.message.state.awaitsReading = true := by
        revert ineligible
        cases row.message.state <;> simp [awaitsReading]
      exact .followed (putMessage_of_own own called found outgoing moves)
        fun _ => inferInstance

theorem applyMessagesRead_own
    (own : ∀ messageId ∈ messageIds,
      ¬ start.database.Foreign sender awaitsReading messageId) :
    Within (Reach {sender}) start (forEach messageIds (fun messageId => do
        let _ ← (applyMessageRead messageId).attempt) start).2 := by
  induction messageIds generalizing start with
  | nil => exact Frame.refl start
  | cons messageId rest induction =>
    have first : Within (Reach {sender}) start
        ((do let _ ← (applyMessageRead messageId).attempt :
          Call Unit) start).2 :=
      .followed (applyMessageRead_own (own messageId (.head _)))
        fun _ => inferInstance
    refine bind_end (Within (Reach {sender}) start) first
      fun _ next ran => ?_
    dsimp only at ran
    rw [ran] at first
    refine Frame.trans first (induction fun later member foreign => ?_)
    exact own later (.tail _ member) (foreign.of_reach first.data)

end Runtime

namespace Actor

def Meddles (database : Database) (sender : InstallationId) :
    ApplicationPayload → Prop
  | .deliveryReceipt messageId _ =>
    database.Foreign sender MessageState.awaitsDelivery messageId
  | .readReceipt messageIds _ => ∃ messageId ∈ messageIds,
      database.Foreign sender MessageState.awaitsReading messageId
  | _ => False

def Strays (actor : Actor P) (sender : InstallationId) (messageId : Uuid)
    (ciphertext : Bytes) : Prop :=
  ∃ application, actor.Opens sender messageId ciphertext application ∧
    Meddles actor.database sender application

variable {actor : Actor P}

theorem transact_run [Booked stored]
    (within : Runtime.Within stored actor.begun (operation actor.begun).2) :
    Stored stored actor (transact operation actor).2 := by
  rw [transact_state]
  exact withRuntimeInternal_run within

theorem acceptPayload_own
    (own : ¬ Meddles actor.database arrival.sender application) :
    Stored (Reach {arrival.sender}) actor
      (acceptPayload arrival application actor).2 := by
  have inScope : Fact (arrival.sender ∈ ({arrival.sender} : Set InstallationId)) :=
    ⟨rfl⟩
  by_cases delivery : ∃ messageId receivedAt,
      application = .deliveryReceipt messageId receivedAt
  · obtain ⟨messageId, receivedAt, rfl⟩ := delivery
    exact transact_run (.followed (Runtime.applyMessageTransportOutcome_own own)
      fun _ => inferInstance)
  by_cases reading : ∃ messageIds readAt,
      application = .readReceipt messageIds readAt
  · obtain ⟨messageIds, readAt, rfl⟩ := reading
    refine transact_run (.followed (Runtime.applyMessagesRead_own
      fun id member foreign => ?_) fun _ => inferInstance)
    exact own ⟨id, member, foreign⟩
  have kept : (acceptPayload (P := P) arrival application).Keeps
      (Stored (Reach {arrival.sender})) :=
    acceptPayload_reach arrival
      (fun messageId receivedAt same => absurd ⟨_, _, same⟩ delivery)
      fun messageIds readAt same => absurd ⟨_, _, same⟩ reading
  exact kept.run actor

theorem handleApplicationEnvelope_own
    (own : ¬ actor.Strays sender messageId ciphertext) :
    Stored (Reach {sender}) actor
      (handleApplicationEnvelope sender messageId ciphertext actor).2 := by
  refine handleApplicationEnvelope_stored ?_
  rintro application opens arrival rfl _ accepting still
  have reached : Stored (Reach {arrival.sender}) accepting
      (acceptPayload arrival application accepting).2 := by
    refine acceptPayload_own fun meddles => own ⟨application, opens, ?_⟩
    rw [still] at meddles
    exact meddles
  rw [Stored, still] at reached
  exact reached

end Actor

/-! ## When nothing stands in the way -/

def Storage.MessageRow.restated
    (row : MessageRow) (messageId : Uuid) (state : MessageState) : MessageRow :=
  ⟨{ row.message with id := messageId, state := state }, row.wireCiphertext⟩

namespace Storage.Database

def MessagesHoused (database : Database) : Prop :=
  ∀ messageId row, database.messages.lookup messageId = some row →
    database.conversations.contains row.message.conversationId = true

def restate (messageId : Uuid) (row : MessageRow) (state : MessageState)
    (database : Database) : Database :=
  database.onMessages (·.insert messageId (row.restated messageId state))

def readUp (database : Database) (messageId : Uuid) : Database :=
  match database.messages.lookup messageId with
  | none => database
  | some row =>
    if row.message.outgoing && row.message.state.awaitsReading then
      database.restate messageId row .read
    else
      database

variable {database : Database}

theorem MessagesHoused.restate (housed : database.MessagesHoused)
    (found : database.messages.lookup messageId = some row)
    (state : MessageState) :
    (database.restate messageId row state).MessagesHoused := by
  intro target later stored
  simp only [Database.restate, onMessages, Table.lookup_insert] at stored
  split at stored
  · cases stored
    exact housed messageId row found
  · exact housed target later stored

theorem restate_lookup_self (messageId : Uuid) (row : MessageRow)
    (state : MessageState) (database : Database) :
    (database.restate messageId row state).messages.lookup messageId =
      some (row.restated messageId state) := by
  simp [restate, onMessages]

theorem readUp_eq (database : Database) (messageId : Uuid) :
    ∃ messages, database.readUp messageId =
      { database with messages := messages } := by
  unfold readUp
  split
  · exact ⟨_, rfl⟩
  · split
    · exact ⟨_, rfl⟩
    · exact ⟨_, rfl⟩

section

variable (found : database.messages.lookup messageId = some row)
  (read : row.message.state = .read)

include found read

theorem readUp_lookup_of_read (target : Uuid) :
    (database.readUp target).messages.lookup messageId = some row := by
  unfold readUp
  split
  · exact found
  · rename_i other otherFound
    split
    · rename_i eligible
      by_cases same : messageId = target
      · subst same
        rw [found] at otherFound
        cases otherFound
        simp [read, awaitsReading] at eligible
      · simp [restate, onMessages, same, found]
    · exact found

theorem foldl_readUp_lookup_of_read (messageIds : List Uuid) :
    (messageIds.foldl readUp database).messages.lookup messageId =
      some row := by
  induction messageIds generalizing database with
  | nil => exact found
  | cons target rest induction =>
    exact induction (readUp_lookup_of_read found read target)

end

theorem foldl_readUp_eq (database : Database) (messageIds : List Uuid) :
    ∃ messages, messageIds.foldl readUp database =
      { database with messages := messages } := by
  induction messageIds generalizing database with
  | nil => exact ⟨_, rfl⟩
  | cons target rest induction =>
    obtain ⟨messages, left⟩ := readUp_eq database target
    obtain ⟨later, leftLater⟩ := induction (database.readUp target)
    rw [List.foldl_cons, leftLater, left]
    exact ⟨later, rfl⟩

theorem foldl_readUp_reads
    {messageIds : List Uuid} (named : messageId ∈ messageIds)
    (found : database.messages.lookup messageId = some row)
    (outgoing : row.message.outgoing = true)
    (awaits : row.message.state.awaitsReading = true) :
    (messageIds.foldl readUp database).messages.lookup messageId =
      some (row.restated messageId .read) := by
  induction messageIds generalizing database with
  | nil => cases named
  | cons target rest induction =>
    by_cases same : messageId = target
    · subst same
      refine foldl_readUp_lookup_of_read ?_ rfl rest
      have read : database.readUp messageId =
          database.restate messageId row .read := by
        simp [readUp, found, outgoing, awaits]
      rw [read]
      exact restate_lookup_self messageId row .read database
    · refine induction ((List.mem_cons.mp named).resolve_left same) ?_
      unfold readUp
      split
      · exact found
      · split
        · simp [restate, onMessages, same, found]
        · exact found

end Storage.Database

namespace Runtime

variable {runtime : Runtime}

/-- Nothing fails, and what messages and events refer to is there. -/
structure Sound (runtime : Runtime) : Prop where
  quiet : runtime.host.world.Quiet
  messages : runtime.database.MessagesHoused
  housed : runtime.Housed

theorem Sound.tick (sound : runtime.Sound) : runtime.tick.Sound :=
  ⟨sound.quiet, sound.messages, sound.housed⟩

theorem move_sound (sound : runtime.Sound) {row : MessageRow}
    (found : runtime.database.messages.lookup messageId = some row)
    (state : MessageState) :
    ∃ next,
      (do
        putMessage { row.message with id := messageId, state := state }
        messageStateChanged messageId row.message.conversationId (some state) :
        Call Unit) runtime = (.ok (), next) ∧
      next.Sound ∧
      next.database = runtime.database.restate messageId row state := by
  have housed := sound.messages messageId row found
  have put : Database.putMessage
      { row.message with id := messageId, state := state } runtime.database =
      .ok (runtime.database.restate messageId row state) := by
    simp [Database.putMessage, requireRow, housed, found, Database.restate,
      MessageRow.restated, bind, Except.bind, pure, Except.pure]
  have written := write_quiet sound.quiet put
  refine ⟨_, run_bind_ok written, ⟨sound.quiet, ?_, ?_⟩, rfl⟩
  · exact sound.messages.restate found state
  · refine Housed.pushEvent sound.housed fun conversationId named => ?_
    cases named
    exact housed

theorem outgoingRequired_quiet
    (quiet : runtime.host.world.Quiet) {row : MessageRow}
    (found : runtime.database.messages.lookup messageId = some row)
    (outgoing : row.message.outgoing = true) (incoming : String) :
    outgoingRequired messageId incoming runtime =
      (.ok { row.message with id := messageId }, runtime.tick) := by
  have asked : messageRequired messageId runtime =
      (.ok { row.message with id := messageId }, runtime.tick) := by
    unfold messageRequired
    rw [run_bind_ok (query_quiet quiet _), Database.message, found]
    rfl
  unfold outgoingRequired
  rw [run_bind_ok asked, if_neg (by simp [outgoing])]
  rfl

theorem outgoingRequired_refuses (quiet : runtime.host.world.Quiet)
    (foreign : ∀ row, runtime.database.messages.lookup messageId = some row →
      row.message.outgoing = false) (incoming : String) :
    ∃ error, outgoingRequired messageId incoming runtime =
      (.err error, runtime.tick) := by
  unfold outgoingRequired messageRequired
  rw [run_bind, run_bind_ok (query_quiet quiet _),
    Database.message]
  cases found : runtime.database.messages.lookup messageId with
  | none => exact ⟨_, rfl⟩
  | some row =>
    refine ⟨.conflict incoming, ?_⟩
    change (if !row.message.outgoing then _ else _ :
      Call ChatMessage) runtime.tick = _
    rw [foreign row found]
    rfl

theorem applyMessageRead_sound (sound : runtime.Sound) (messageId : Uuid) :
    ∃ result next,
      (applyMessageRead messageId).attempt runtime = (.ok result, next) ∧
      next.Sound ∧ next.database = runtime.database.readUp messageId := by
  by_cases named : ∃ row, runtime.database.messages.lookup messageId =
      some row ∧ row.message.outgoing = true
  · obtain ⟨row, found, outgoing⟩ := named
    have asked := outgoingRequired_quiet sound.quiet found outgoing
      "incoming message cannot receive a read receipt"
    have left : runtime.database.readUp messageId =
        if row.message.state.awaitsReading then
          runtime.database.restate messageId row .read
        else runtime.database := by
      simp [readUp, found, outgoing]
    have ran : applyMessageRead messageId runtime = _ := run_bind_ok asked
    by_cases read : row.message.state = .read
    · have kept : runtime.database.readUp messageId = runtime.database := by
        rw [left, read]
        rfl
      rw [if_pos read] at ran
      exact ⟨_, _, Program.run_attempt_ok ran, sound.tick, kept.symm⟩
    · rw [if_neg read] at ran
      by_cases ineligible :
          row.message.state ≠ .sent ∧ row.message.state ≠ .delivered
      · have awaits : row.message.state.awaitsReading = false := by
          revert ineligible
          cases row.message.state <;> simp [awaitsReading]
        simp only [if_pos ineligible, fail_bind] at ran
        refine ⟨_, _, run_attempt_err ran, sound.tick, ?_⟩
        rw [left, awaits]
        rfl
      · have awaits : row.message.state.awaitsReading = true := by
          revert ineligible
          cases row.message.state <;> simp [awaitsReading]
        simp only [if_neg ineligible] at ran
        obtain ⟨next, moved, soundNext, database⟩ :=
          @move_sound runtime.tick messageId sound.tick row found .read
        refine ⟨_, next, Program.run_attempt_ok (ran.trans moved), soundNext, ?_⟩
        rw [left, awaits]
        exact database
  · simp only [not_exists, not_and, Bool.not_eq_true] at named
    obtain ⟨error, asked⟩ := outgoingRequired_refuses sound.quiet named
      "incoming message cannot receive a read receipt"
    have ran : applyMessageRead messageId runtime = _ := run_bind_err asked
    refine ⟨_, _, run_attempt_err ran, sound.tick, ?_⟩
    unfold readUp
    split
    · rfl
    · rename_i row found
      simp [named row found]

theorem applyMessagesRead_sound
    (sound : runtime.Sound) (messageIds : List Uuid) :
    ∃ next, forEach messageIds (fun messageId => do
        let _ ← (applyMessageRead messageId).attempt) runtime = (.ok (), next) ∧
      next.Sound ∧
      next.database = messageIds.foldl readUp runtime.database := by
  induction messageIds generalizing runtime with
  | nil => exact ⟨runtime, rfl, sound, rfl⟩
  | cons messageId rest induction =>
    obtain ⟨result, middle, first, soundMiddle, stored⟩ :=
      applyMessageRead_sound sound messageId
    have step : (do let _ ← (applyMessageRead messageId).attempt :
        Call Unit) runtime = (.ok (), middle) :=
      run_bind_ok first
    obtain ⟨next, ran, soundNext, left⟩ := induction soundMiddle
    refine ⟨next, ?_, soundNext, ?_⟩
    · exact (run_bind_ok step).trans ran
    · rw [left, stored]
      rfl

theorem storeSnapshot_sound (sound : runtime.Sound) (arrival : Arrival)
    (present : runtime.database.conversations.contains arrival.sender = true) :
    ∃ next, storeSnapshot arrival runtime = (.ok (), next) ∧ next.Sound ∧
      ∃ snapshots, next.database =
        { runtime.database with conversationMls := snapshots } := by
  have put : ∃ snapshots, runtime.database.putConversationMlsSnapshot
      arrival.sender arrival.snapshot =
        .ok { runtime.database with conversationMls := snapshots } := by
    unfold putConversationMlsSnapshot
    split
    · exact ⟨_, rfl⟩
    · simp only [upsertSnapshot, requireRow, present, if_true, bind,
        Except.bind, pure, Except.pure]
      exact ⟨_, rfl⟩
  obtain ⟨snapshots, put⟩ := put
  refine ⟨_, write_quiet sound.quiet put, ?_, snapshots, rfl⟩
  exact ⟨sound.quiet, sound.messages, sound.housed⟩

theorem storeReceived_sound
    (sound : runtime.Sound) (arrival : Arrival) (receiptState : ReceiptState)
    (fresh : runtime.database.receivedEnvelopes.lookup
      (arrival.sender, arrival.messageId) = none) :
    ∃ next, storeReceived arrival receiptState runtime = (.ok (), next) ∧
      next.Sound ∧ next.database.messages = runtime.database.messages := by
  have absent : runtime.database.receivedEnvelopes.contains
      (arrival.sender, arrival.messageId) = false := by
    simp [Table.contains, fresh]
  have put : runtime.database.putReceivedEnvelope arrival.sender
      arrival.messageId
      ⟨arrival.ciphertextHash, arrival.receivedAt, receiptState⟩ =
        .ok { runtime.database with
          receivedEnvelopes := runtime.database.receivedEnvelopes.insert
            (arrival.sender, arrival.messageId)
            ⟨arrival.ciphertextHash, arrival.receivedAt, receiptState⟩ } := by
    simp [putReceivedEnvelope, absent]
  refine ⟨_, write_quiet sound.quiet put, ?_, rfl⟩
  exact ⟨sound.quiet, sound.messages, sound.housed⟩

theorem markApplied_run (arrival : Arrival) (runtime : Runtime) :
    markApplied arrival runtime = (.ok (), { runtime with
      database := runtime.database.recordApplied arrival.sender
        arrival.messageId }) := rfl

theorem acceptReadReceipt_sound
    (sound : runtime.Sound) (arrival : Arrival) (messageIds : List Uuid)
    (present : runtime.database.conversations.contains arrival.sender = true) :
    ∃ next, acceptReadReceipt arrival messageIds runtime = (.ok (), next) ∧
      next.Housed ∧ next.database.messages =
        (messageIds.foldl readUp runtime.database).messages := by
  obtain ⟨first, read, soundFirst, left⟩ :=
    applyMessagesRead_sound sound messageIds
  obtain ⟨messages, same⟩ :=
    foldl_readUp_eq runtime.database messageIds
  obtain ⟨second, stored, soundSecond, snapshots, kept⟩ :=
    storeSnapshot_sound soundFirst arrival (by
      rw [left, same]
      exact present)
  have ran : acceptReadReceipt arrival messageIds runtime = _ :=
    (run_bind_ok read).trans ((run_bind_ok stored).trans
      (markApplied_run arrival second))
  refine ⟨_, ran, soundSecond.housed, ?_⟩
  change second.database.messages = _
  rw [kept, ← left]

theorem acceptDeliveryReceipt_sound
    (sound : runtime.Sound) (arrival : Arrival) {row : MessageRow}
    (present : runtime.database.conversations.contains arrival.sender = true)
    (fresh : runtime.database.receivedEnvelopes.lookup
      (arrival.sender, arrival.messageId) = none)
    (found : runtime.database.messages.lookup messageId = some row)
    (outgoing : row.message.outgoing = true)
    (awaits : row.message.state.awaitsDelivery = true) :
    ∃ next, acceptDeliveryReceipt arrival messageId runtime = (.ok (), next) ∧
      next.Housed ∧ next.database.messages =
        (runtime.database.restate messageId row .delivered).messages := by
  have asked := outgoingRequired_quiet sound.quiet found outgoing
    "incoming message state is owned by receive_message"
  have moves : messageStateAfterTransportOutcome row.message.state .delivered =
      some .delivered ∧ delivered ≠ row.message.state := by
    revert awaits
    cases row.message.state <;>
      simp [awaitsDelivery, messageStateAfterTransportOutcome]
  obtain ⟨first, moved, soundFirst, left⟩ :=
    @move_sound runtime.tick messageId sound.tick row found .delivered
  have applied : applyMessageTransportOutcome messageId .delivered runtime =
      (.ok (), first) := by
    unfold applyMessageTransportOutcome
    rw [run_bind_ok asked]
    simp only [moves.1, if_neg moves.2]
    exact moved
  obtain ⟨second, stored, soundSecond, snapshots, kept⟩ :=
    storeSnapshot_sound soundFirst arrival (by
      rw [left]
      exact present)
  obtain ⟨third, received, soundThird, same⟩ :=
    storeReceived_sound soundSecond arrival .none (by
      rw [kept, left]
      exact fresh)
  have ran : acceptDeliveryReceipt arrival messageId runtime = _ :=
    (run_bind_ok applied).trans ((run_bind_ok stored).trans
      ((run_bind_ok received).trans (markApplied_run arrival third)))
  refine ⟨_, ran, soundThird.housed, ?_⟩
  change third.database.messages = _
  rw [same, kept, left]
  rfl

end Runtime

namespace Actor

/-- Nothing fails, nothing is pending, and what the envelopes of a sender refer
to is there. -/
structure Unhindered (actor : Actor P) (sender : InstallationId) : Prop where
  quiet : actor.host.world.Quiet
  idle : actor.Idle
  messages : actor.database.MessagesHoused
  conversing : actor.database.conversations.contains sender = true
  snapshots : ∀ group, ∃ snapshot, P.snapshot group = .ok snapshot

structure Continues (before after : Actor P) : Prop where
  database : after.database = before.database
  session : after.session = before.session
  world : after.host.world = before.host.world

theorem Unhindered.continues {before : Actor P}
    (unhindered : before.Unhindered sender)
    (continues : before.Continues after) : after.Unhindered sender where
  quiet := by
    rw [continues.world]
    exact unhindered.quiet
  idle := by
    rw [Idle, continues.session]
    exact unhindered.idle
  messages := by
    rw [continues.database]
    exact unhindered.messages
  conversing := by
    rw [continues.database]
    exact unhindered.conversing
  snapshots := unhindered.snapshots

theorem Unhindered.begun {actor : Actor P}
    (unhindered : actor.Unhindered sender) : actor.begun.Sound where
  quiet := unhindered.quiet
  messages := unhindered.messages
  housed := by
    have none : actor.begun.session.pendingEvents = [] := unhindered.idle
    intro conversationId spoken
    rw [none] at spoken
    cases spoken

variable {actor : Actor P}

theorem handleApplicationEnvelope_opened (unhindered : actor.Unhindered sender)
    (opens : actor.Opens sender messageId ciphertext application) :
    ∃ accepting arrival, actor.Continues accepting ∧ arrival.sender = sender ∧
      arrival.messageId = messageId ∧
      Stored (Reach {sender}) (acceptPayload arrival application accepting).2
        (handleApplicationEnvelope sender messageId ciphertext actor).2 := by
  obtain ⟨fresh, conversation, plaintext, advanced, conversing, decrypted,
    decoded⟩ := opens
  obtain ⟨before, snapshotBefore⟩ := unhindered.snapshots conversation
  obtain ⟨snapshot, snapshotAfter⟩ := unhindered.snapshots advanced
  let asked : Actor P := { actor with host := actor.host.tick }
  let opening := onConversations (·.erase sender) asked
  let accepting : Actor P := { opening with host := opening.host.tick }
  let arrival : Arrival := ⟨sender, messageId, P.sha256 ciphertext,
    (opening.host.world.clock opening.host.calls).tdiv 1000, snapshot⟩
  have known := query_quiet unhindered.quiet
    (·.receivedEnvelopes.lookup (sender, messageId))
  rw [fresh] at known
  have opened : openEnvelope sender messageId ciphertext conversation opening =
      (acceptPayload arrival application >>= fun _ => Pure.pure advanced)
        accepting := by
    unfold openEnvelope
    rw [run_bind_ok (run_check decrypted _ _)]
    dsimp only
    rw [run_bind_ok (run_check decoded _ _),
      run_bind_ok (run_check snapshotAfter _ _)]
    rfl
  have read : (Program.read fun actor : Actor P =>
      actor.conversations.lookup sender : Call P _) asked =
      (.ok (some conversation), asked) := by
    exact congrArg (fun found => (Outcome.ok found, asked)) conversing
  refine ⟨accepting, arrival, ⟨rfl, rfl, rfl⟩, rfl, rfl, ?_⟩
  unfold handleApplicationEnvelope
  rw [run_bind_ok known]
  dsimp only
  rw [run_bind_ok read]
  dsimp only
  rw [run_bind_ok (run_modify _ _),
    run_bind_ok (run_check snapshotBefore _ _)]
  refine .followed ?_ fun result => ?_
  · change Stored _ _ (openEnvelope sender messageId ciphertext conversation
      opening).2
    rw [opened, bind_pure_end]
    exact Frame.refl _
  · cases result with
    | ok | error => infer_instance

theorem acceptPayload_meddles (unhindered : actor.Unhindered arrival.sender)
    (fresh : actor.database.receivedEnvelopes.lookup
      (arrival.sender, arrival.messageId) = none)
    (meddles : Meddles actor.database arrival.sender application) :
    ∃ target row state, row.message.conversationId ≠ arrival.sender ∧
      row.message.state ≠ state ∧
      actor.database.messages.lookup target = some row ∧
      (acceptPayload arrival application actor).2.database.messages.lookup
        target = some (row.restated target state) := by
  cases application with
  | deliveryReceipt target receivedAt =>
    obtain ⟨row, found, other, outgoing, awaits⟩ := meddles
    obtain ⟨next, ran, housed, left⟩ := Runtime.acceptDeliveryReceipt_sound
      unhindered.begun arrival unhindered.conversing fresh found outgoing awaits
    obtain ⟨revision, revisions, committed⟩ :=
      transact_commits unhindered.quiet ran housed
    refine ⟨target, row, .delivered, other, ?_, found, ?_⟩
    · intro delivered
      rw [delivered] at awaits
      cases awaits
    · change (transact (Runtime.acceptDeliveryReceipt arrival target)
        actor).2.database.messages.lookup target = _
      rw [committed]
      rw [left]
      exact restate_lookup_self target row .delivered _
  | readReceipt messageIds readAt =>
    obtain ⟨target, named, row, found, other, outgoing, awaits⟩ := meddles
    obtain ⟨next, ran, housed, left⟩ := Runtime.acceptReadReceipt_sound
      unhindered.begun arrival messageIds unhindered.conversing
    obtain ⟨revision, revisions, committed⟩ :=
      transact_commits unhindered.quiet ran housed
    refine ⟨target, row, .read, other, ?_, found, ?_⟩
    · intro read
      rw [read] at awaits
      cases awaits
    · change (transact (Runtime.acceptReadReceipt arrival messageIds)
        actor).2.database.messages.lookup target = _
      rw [committed]
      rw [left]
      exact foldl_readUp_reads named found outgoing awaits
  | _ => cases meddles

end Actor

def Storage.Database.Untouched
    (sender : InstallationId) (before after : Database) : Prop :=
  ∀ messageId row, row.message.conversationId ≠ sender →
    (after.messages.lookup messageId = some row ↔
      before.messages.lookup messageId = some row)

theorem Actor.handleApplicationEnvelope_touches
    {actor : Actor P} (unhindered : actor.Unhindered sender)
    (strays : actor.Strays sender messageId ciphertext) :
    ¬ Untouched sender actor.database
      (handleApplicationEnvelope sender messageId ciphertext
        actor).2.database := by
  intro untouched
  obtain ⟨application, opens, meddles⟩ := strays
  obtain ⟨accepting, arrival, continues, rfl, rfl, reach⟩ :=
    handleApplicationEnvelope_opened unhindered opens
  obtain ⟨target, row, state, other, moved, found, later⟩ :=
    acceptPayload_meddles (unhindered.continues continues)
      (by rw [continues.database]; exact opens.1)
      (by rw [continues.database]; exact meddles)
  have final := (reach.messages target (row.restated target state) other).mpr
    later
  have kept := (untouched target (row.restated target state) other).mp final
  rw [continues.database, kept] at found
  have same := congrArg (fun row => row.message.state) (Option.some.inj found)
  exact moved same.symm

/-- An envelope leaves the messages of other conversations alone unless it opens
as a receipt that names one of them in a state the receipt moves. When nothing
stands in the way, such a receipt does reach them. -/
theorem envelope_leaves_other_conversations_alone
    (P : Primitives) (actor : Actor P) (sender : InstallationId)
    (messageId : Uuid) (ciphertext : Bytes) :
    (¬ actor.Strays sender messageId ciphertext →
      Database.Untouched sender actor.database
        (Actor.handleApplicationEnvelope sender messageId ciphertext
          actor).2.database) ∧
    (actor.Unhindered sender →
      (Database.Untouched sender actor.database
          (Actor.handleApplicationEnvelope sender messageId ciphertext
            actor).2.database ↔
        ¬ actor.Strays sender messageId ciphertext)) := by
  have sufficient : ¬ actor.Strays sender messageId ciphertext →
      Database.Untouched sender actor.database
        (Actor.handleApplicationEnvelope sender messageId ciphertext
          actor).2.database :=
    fun own => (Actor.handleApplicationEnvelope_own own).messages
  refine ⟨sufficient, fun unhindered => ⟨fun untouched strays => ?_, sufficient⟩⟩
  exact Actor.handleApplicationEnvelope_touches unhindered strays untouched

/-! A message to one contact, and a read receipt that names it. -/

def receipting : Primitives :=
  { Primitives.plain "me" with
    decodeApplication := fun _ => .ok (.readReceipt [1] 0) }

def messageToAlice : ChatMessage where
  id := 1
  conversationId := "alice"
  outgoing := true
  body := "hello"
  replyTo := none
  state := .sent
  createdAt := 0
  attemptCount := 0
  lastAttemptAt := none
  nextAttemptAt := 0
  ackDeadline := none
  lastTransportError := none

def corresponding : Actor receipting :=
  Actor.assemble receipting
    { Database.empty with
      conversations := (Table.empty.insert "alice"
        (Runtime.newConversation "alice" 0)).insert "mallory"
        (Runtime.newConversation "mallory" 0)
      messages := Table.empty.insert 1 ⟨messageToAlice, none⟩ }
    ((Table.empty.insert "alice" []).insert "mallory" []) false none 0
    (.initial (.calm 0))

/-- A receipt of the contact the message went to touches no other
conversation. -/
theorem own_receipt_leaves_others_alone :
    Database.Untouched "alice" corresponding.database
      (Actor.handleApplicationEnvelope "alice" 2 []
        corresponding).2.database := by
  refine (envelope_leaves_other_conversations_alone receipting corresponding
    "alice" 2 []).1 ?_
  rintro ⟨application, ⟨-, _, _, _, -, -, decoded⟩, meddles⟩
  cases decoded
  obtain ⟨target, named, row, found, other, -⟩ := meddles
  obtain rfl : target = 1 := by simpa using named
  cases found
  exact other rfl

/-- The receipt of another contact marks the message as read. -/
theorem foreign_receipt_reads_a_message :
    ¬ Database.Untouched "mallory" corresponding.database
      (Actor.handleApplicationEnvelope "mallory" 2 []
        corresponding).2.database := by
  intro untouched
  have stored := (untouched 1 ⟨messageToAlice, none⟩ (by decide)).mpr (by decide)
  have read : ((Actor.handleApplicationEnvelope "mallory" 2 []
      corresponding).2.database.messages.lookup 1).map
      (fun row => row.message.state) = some .read := by
    decide +kernel
  rw [stored] at read
  cases read

end Torchat
