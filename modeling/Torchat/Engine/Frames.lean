import Torchat.Engine.Transacted

namespace Torchat

open Foundation Storage Frame

def Host.Called (before after : Host) : Prop :=
  ∃ calls, before.calls ≤ calls ∧ after = { before with calls := calls }

namespace Host

instance Called.frame : Frame Called where
  refl host := ⟨host.calls, le_rfl, rfl⟩
  trans := by
    rintro _ _ _ ⟨_, first, rfl⟩ ⟨calls, second, rfl⟩
    exact ⟨calls, first.trans second, rfl⟩

instance : (consult site error).Keeps Called :=
  ⟨fun host => ⟨host.calls + 1, Nat.le_succ _, rfl⟩⟩

instance : (nowMs : Program Host ε Int).Keeps Called :=
  ⟨fun host => ⟨host.calls + 1, Nat.le_succ _, rfl⟩⟩

instance : (freshUuid : Program Host ε Uuid).Keeps Called :=
  ⟨fun host => ⟨host.calls + 1, Nat.le_succ _, rfl⟩⟩

instance : (jitter upper : Program Host ε Int).Keeps Called :=
  ⟨fun host => ⟨host.calls + 1, Nat.le_succ _, rfl⟩⟩

end Host

def Storage.Database.Anything (_ _ : Database) : Prop := True

instance Storage.Database.Anything.frame : Frame Database.Anything where
  refl _ := trivial
  trans _ _ := trivial

instance (program : Program Database ε α) :
    program.Keeps Database.Anything :=
  ⟨fun _ => trivial⟩

namespace Runtime

def Called (before after : Runtime) : Prop :=
  ∃ host, before.host.Called host ∧ after = { before with host := host }

theorem Called.database {before after : Runtime} (called : before.Called after) :
    after.database = before.database := by
  obtain ⟨_, _, rfl⟩ := called
  rfl

class Framed (relation : Runtime → Runtime → Prop) : Prop
    extends Program.Frame relation where
  called : ∀ {before after : Runtime}, before.Called after →
    relation before after

class Storing (relation : Runtime → Runtime → Prop)
    (stored : outParam (Database → Database → Prop)) : Prop
    extends Framed relation where
  data : ∀ (runtime : Runtime) {database : Database},
    stored runtime.database database →
      relation runtime { runtime with database := database }

class Speaking (relation : Runtime → Runtime → Prop) : Prop
    extends Framed relation where
  spoken : ∀ (runtime : Runtime) (event : RuntimeEvent),
    relation runtime
      { runtime with session := runtime.session.pushEvent event }

instance Called.framed : Framed Called where
  refl runtime := ⟨runtime.host, refl _, rfl⟩
  trans := by
    rintro _ _ _ ⟨_, first, rfl⟩ ⟨host, second, rfl⟩
    exact ⟨host, trans first second, rfl⟩
  called := id

section Reads

variable [framed : Framed relation]

instance onHost_keeps (program : Program Host RuntimeError α)
    [called : program.Keeps Host.Called] : (onHost program).Keeps relation :=
  called.zoom fun _ host called => framed.called ⟨host, called, rfl⟩

instance : (onDatabase (Program.read view)).Keeps relation :=
  ⟨fun runtime => refl runtime⟩

instance : (query view).Keeps relation := by
  unfold query
  infer_instance

instance : nowMs.Keeps relation := onHost_keeps _

instance : nowSecs.Keeps relation := by
  unfold nowSecs
  infer_instance

instance : unixepochMs.Keeps relation := by
  unfold unixepochMs
  infer_instance

instance : (required found missing).Keeps relation := by
  unfold required
  infer_instance

instance : (requireText text message).Keeps relation := by
  unfold requireText
  infer_instance

instance : (contactRequired installationId).Keeps relation := by
  unfold contactRequired
  infer_instance

instance : (contactAcceptsMessages installationId).Keeps relation := by
  unfold contactAcceptsMessages
  infer_instance

instance : (messageRequired messageId).Keeps relation := by
  unfold messageRequired
  infer_instance

instance outgoingRequired_keeps :
    (outgoingRequired messageId incoming).Keeps relation := by
  simp only [outgoingRequired, fail_bind]
  infer_instance

instance : preparePendingReceiptEffects.Keeps relation := by
  unfold preparePendingReceiptEffects
  infer_instance

instance : (deliveryContact conversation).Keeps relation := by
  simp only [deliveryContact, fail_bind]
  infer_instance

instance : (replyTo contact replyToMessageId).Keeps relation := by
  cases replyToMessageId with
  | none =>
    unfold replyTo
    infer_instance
  | some messageId =>
    simp only [replyTo, fail_bind]
    infer_instance

instance : (operationById operationId).Keeps relation := by
  unfold operationById
  infer_instance

instance : (pairingOperation operationId pairingId).Keeps relation := by
  unfold pairingOperation
  infer_instance

instance : (activeMessageDelivery messageId).Keeps relation := by
  unfold activeMessageDelivery
  infer_instance

instance : (refuseTerminal operation message).Keeps relation := by
  unfold refuseTerminal
  infer_instance

instance (nowSecs : Int) :
    (featurePendingPairingSendEffects nowSecs).Keeps relation := by
  unfold featurePendingPairingSendEffects pairingInbox
  infer_instance

end Reads

section Writes

variable [storing : Storing relation stored]

instance onDatabase_keeps (program : Program Database RuntimeError α)
    [kept : program.Keeps stored] : (onDatabase program).Keeps relation :=
  kept.zoom fun runtime _ kept => storing.data runtime kept

instance write_keeps [(execute statement).Keeps stored] :
    (write statement).Keeps relation := by
  unfold write
  infer_instance

instance [(executeReturning statement).Keeps stored] :
    (writeReturning statement).Keeps relation := by
  unfold writeReturning
  infer_instance

instance [(execute (Database.putConversation conversation)).Keeps stored] :
    (putConversation conversation).Keeps relation :=
  write_keeps

instance (arrival : Arrival)
    [(execute (Database.putConversationMlsSnapshot arrival.sender
      arrival.snapshot)).Keeps stored] :
    (storeSnapshot arrival).Keeps relation :=
  write_keeps

instance (arrival : Arrival)
    [(execute (Database.putReceivedEnvelope arrival.sender
      arrival.messageId ⟨arrival.ciphertextHash, arrival.receivedAt,
        receiptState⟩)).Keeps stored] :
    (storeReceived arrival receiptState).Keeps relation :=
  write_keeps

instance (arrival : Arrival)
    [(Program.modify (Database.recordApplied arrival.sender arrival.messageId) :
      Program Database RuntimeError Unit).Keeps stored] :
    (markApplied arrival).Keeps relation :=
  onDatabase_keeps _

end Writes

section Events

variable [speaking : Speaking relation]

instance pushEvent_keeps : (pushEvent event).Keeps relation :=
  ⟨fun runtime => speaking.spoken runtime event⟩

instance : (changed kind).Keeps relation :=
  pushEvent_keeps

instance messageStateChanged_keeps :
    (messageStateChanged messageId contact state).Keeps relation :=
  pushEvent_keeps

instance :
    (publishMessageTransitions messageId contact transitions).Keeps
      relation := by
  unfold publishMessageTransitions
  infer_instance

end Events

variable {stored : Database → Database → Prop}

/-- The databases are related, the surroundings only called upon; the session is
free. -/
structure Within (stored : Database → Database → Prop) (before after : Runtime) :
    Prop where
  data : stored before.database after.database
  host : before.host.Called after.host

variable [Program.Frame stored]

instance Within.storing : Storing (Within stored) stored where
  refl _ := ⟨refl _, refl _⟩
  trans first second :=
    ⟨trans first.data second.data,
      trans first.host second.host⟩
  called := by
    rintro _ _ ⟨_, called, rfl⟩
    exact ⟨refl _, called⟩
  data _ _ related := ⟨related, refl _⟩

instance Within.framed : Framed (Within stored) := Within.storing.toFramed

instance Within.frame : Frame (Within stored) :=
  Within.storing.toFrame

instance : (onSession f).Keeps (Within stored) :=
  ⟨fun _ => ⟨refl _, refl _⟩⟩

instance Within.speaking : Speaking (Within stored) where
  spoken _ _ := ⟨refl _, refl _⟩

end Runtime

namespace Runtime

theorem required_value
    (ran : required found missing runtime = (.ok value, next)) :
    found = some value := by
  cases found with
  | none => cases ran
  | some found =>
    cases ran
    rfl

variable {stored : Database → Database → Prop} [Program.Frame stored]
  {rest : α → Call β}

theorem Called.within (called : start.Called runtime) :
    Within stored start runtime :=
  Framed.called called

theorem Within.after_read
    (called : start.Called runtime) (reads : program.Keeps Called)
    (continued : ∀ value next, program runtime = (.ok value, next) →
      start.Called next → Within stored start (rest value next).2) :
    Within stored start ((program >>= rest) runtime).2 := by
  have read := trans called (reads.run runtime)
  refine bind_end (Within stored start) read.within
    fun value next ran => ?_
  rw [ran] at read
  exact continued value next ran read

theorem Within.followed (first : Within stored start (program runtime).2)
    (second : ∀ value, (rest value).Keeps (Within stored)) :
    Within stored start ((program >>= rest) runtime).2 := by
  refine bind_end (Within stored start) first fun value next ran => ?_
  rw [ran] at first
  exact trans first ((second value).run next)

theorem Within.of_write (called : start.Called runtime)
    (kept : ∀ after, statement start.database = .ok after →
      stored start.database after) :
    Within stored start (write statement runtime).2 := by
  refine Within.after_read called inferInstance fun _ next _ called => ?_
  obtain ⟨host, called, rfl⟩ := called
  change Within stored start
    { start with
      database := (execute statement start.database).2, host := host }
  refine ⟨?_, called⟩
  unfold execute
  split
  · rename_i after done
    exact kept after done
  · exact refl _

theorem outgoingRequired_value
    (ran : outgoingRequired messageId incoming runtime = (.ok message, next)) :
    ∃ row, runtime.database.messages.lookup messageId = some row ∧
      row.message.outgoing = true ∧
      message = { row.message with id := messageId } := by
  obtain ⟨found, middle, looked, rest⟩ := bind_ok ran
  obtain ⟨answer, asked, queried, given⟩ := bind_ok looked
  have value := (query_ok queried).1
  have present := required_value given
  rw [value, Database.message, Option.map_eq_some_iff] at present
  obtain ⟨row, stored, rfl⟩ := present
  split at rest
  · cases rest
  · rename_i outgoing
    cases rest
    exact ⟨row, stored, by simpa using outgoing, rfl⟩

end Runtime

class Storage.Database.Booked (stored : Database → Database → Prop) : Prop
    extends Program.Frame stored where
  booked : ∀ (database : Database) (revision : Nat)
    (revisions : Table InstallationId Nat)
    (commands : Table String ProcessedCommand),
    stored database
      { database with
        globalRevision := revision
        conversationRevisions := revisions
        processedCommands := commands }

def Storage.Database.Rebooked (before after : Database) : Prop :=
  ∃ revision revisions commands, after =
    { before with
      globalRevision := revision
      conversationRevisions := revisions
      processedCommands := commands }

instance Storage.Database.Rebooked.booked :
    Database.Booked Database.Rebooked where
  refl database := ⟨database.globalRevision, database.conversationRevisions,
    database.processedCommands, rfl⟩
  trans := by
    rintro _ _ _ ⟨_, _, _, rfl⟩ ⟨revision, revisions, commands, rfl⟩
    exact ⟨revision, revisions, commands, rfl⟩
  booked _ revision revisions commands := ⟨revision, revisions, commands, rfl⟩

namespace Actor

variable {relation : Actor P → Actor P → Prop}

/-- The relations on actors that follow a relation on their databases and do not
look at the number of calls. -/
class Grounded (relation : Actor P → Actor P → Prop)
    (stored : outParam (Database → Database → Prop)) : Prop
    extends Program.Frame relation where
  data : ∀ (actor : Actor P) {database : Database},
    stored actor.database database →
      relation actor { actor with database := database }
  hosted : ∀ (actor : Actor P) {host : Host},
    actor.host.Called host → relation actor { actor with host := host }

class Framed (relation : Actor P → Actor P → Prop)
    (stored : outParam (Database → Database → Prop)) : Prop
    extends Grounded relation stored where
  called : ∀ (actor : Actor P) (session : RuntimeSession) {host : Host},
    actor.host.Called host →
      relation actor { actor with session := session, host := host }
  hosted actor _ called' := called actor actor.session called'

section

variable [grounded : Grounded relation stored] [Database.Booked stored]

instance onHost_keeps (program : Program Host EngineError α)
    [called : program.Keeps Host.Called] : (onHost program).Keeps relation :=
  called.zoom fun actor _ called => grounded.hosted actor called

instance onDatabase_keeps (program : Program Database RuntimeError α)
    [kept : program.Keeps stored] : (onDatabase program).Keeps relation :=
  (kept.mapError _).zoom fun actor _ kept => grounded.data actor kept

instance : (query view).Keeps relation := by
  unfold query
  infer_instance

instance write_keeps [(execute statement).Keeps stored] :
    (write statement).Keeps relation := by
  unfold write
  infer_instance

instance [(executeReturning statement).Keeps stored] :
    (writeReturning statement).Keeps relation := by
  unfold writeReturning
  infer_instance

instance : (writeElsewhere (P := P)).Keeps relation := by
  have : (execute (Except.ok : Database → RuntimeResult Database)).Keeps
      stored := .execute fun _ _ done => by
    cases done
    exact refl _
  unfold writeElsewhere
  infer_instance

instance : (nowMs (P := P)).Keeps relation := onHost_keeps _

instance : (nowSecs (P := P)).Keeps relation := by
  unfold nowSecs
  infer_instance

instance : (freshUuid (P := P)).Keeps relation := onHost_keeps _

instance : (check (P := P) result error).Keeps relation := by
  unfold check
  infer_instance

instance : (required (P := P) found error).Keeps relation := by
  unfold required
  infer_instance

instance (program : Call P α) [program.Keeps relation] :
    (ignoring program).Keeps relation := by
  unfold ignoring
  infer_instance

end

section

variable [framed : Framed relation stored] [Database.Booked stored]

omit framed in
theorem prepareCommit_booked {faults : Site → Verdict}
    {saved : EngineResult (Option (IdempotencyCommitContext × String))}
    {session : RuntimeSession} {database after : Database}
    (prepared : prepareCommit faults saved session database = .ok after) :
    stored database after := by
  obtain ⟨bumped, revised, outcome⟩ := prepareCommit_eq_ok prepared
  have first : stored database bumped := by
    unfold bumpRevision at revised
    split at revised
    · obtain ⟨_, _, done⟩ := Outcome.andThen_eq_ok.mp revised
      obtain ⟨revisions, rfl⟩ := Database.bumpProjectionRevision_eq
        (mapError_eq_ok.mp (Outcome.ofExcept_eq_ok.mp done))
      exact Database.Booked.booked database _ revisions _
    · cases revised
      exact refl _
  rcases outcome with ⟨_, rfl⟩ | ⟨context, payload, _, written⟩
  · exact first
  · rw [saveResponse_eq written]
    exact trans first (Database.Booked.booked bumped _ _ _)

theorem begun_called (actor : Actor P) : actor.host.Called actor.begun.host :=
  ⟨_, Nat.le_succ _, rfl⟩

theorem withRuntimeInternal_run
    (within : Runtime.Within stored actor.begun (operation actor.begun).2) :
    relation actor
      (withRuntimeInternal operation idempotency response actor).2 := by
  have transacted :=
    withRuntimeInternal_transacted operation idempotency response actor
  have called : actor.host.Called (operation actor.begun).2.host :=
    trans (begun_called actor) within.host
  generalize withRuntimeInternal operation idempotency response actor = result
    at transacted ⊢
  obtain ⟨outcome, after⟩ := result
  cases transacted with
  | kept session host failed sessions hosts =>
    rcases hosts with rfl | rfl
    · exact framed.called actor session (begun_called actor)
    · exact framed.called actor session called
  | committed session ran prepared answered sessions =>
    rw [ran] at within called
    have written := framed.data actor
      (trans within.data (prepareCommit_booked prepared))
    exact trans written (framed.called _ session called)

instance (operation : Runtime.Call α)
    [kept : operation.Keeps (Runtime.Within stored)] :
    (withRuntimeInternal operation idempotency response).Keeps relation :=
  ⟨fun actor => withRuntimeInternal_run (kept.run actor.begun)⟩

instance transact_keeps (operation : Runtime.Call α)
    [operation.Keeps (Runtime.Within stored)] :
    (transact operation).Keeps relation := by
  unfold transact withRuntime
  infer_instance

end

theorem transact_cases (ran : transact operation actor = (outcome, after)) :
    ((∀ value, outcome ≠ .ok value) ∧
      ∃ session host, after = { actor with session := session, host := host }) ∨
    ∃ value runtime database session,
      operation actor.begun = (.ok value, runtime) ∧
      Database.Rebooked runtime.database database ∧
      after = { actor with
        database := database, session := session, host := runtime.host } ∧
      ∀ result, outcome = .ok result → result = value := by
  have transacted := withRuntimeInternal_transacted operation none
    (fun _ => .ok none) actor
  unfold transact withRuntime at ran
  rw [run_bind] at ran
  generalize withRuntimeInternal operation none (fun _ => .ok none) actor =
    result at transacted ran
  obtain ⟨ended, final⟩ := result
  cases transacted with
  | kept session host failed =>
    refine .inl ?_
    cases ended with
    | ok result => exact absurd rfl (failed result)
    | err | crash =>
      cases ran
      exact ⟨by simp, session, host, rfl⟩
  | committed session operated prepared answered =>
    refine .inr ⟨_, _, _, session, operated, prepareCommit_booked prepared, ?_⟩
    cases ended with
    | ok result =>
      cases ran
      refine ⟨rfl, ?_⟩
      rintro _ ⟨⟩
      exact answered result rfl
    | err | crash =>
      cases ran
      exact ⟨rfl, nofun⟩

end Actor

end Torchat
