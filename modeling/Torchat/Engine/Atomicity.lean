import Torchat.Engine.Transaction

namespace Torchat

open Foundation Storage Outcome

def RuntimeSession.shown (session : RuntimeSession) :
    Option InstallationId × Option InstallationId × Bool × List RuntimeEvent :=
  (session.selectedConversationId, session.focusedConversationId,
    session.appForeground, session.pendingEvents)

def Runtime.Grows (before after : Runtime) : Prop :=
  before.database.globalRevision ≤ after.database.globalRevision ∧
    ∀ commandId, before.database.processedCommands.contains commandId →
      after.database.processedCommands.contains commandId

theorem RuntimeEvent.application_of_conversation
    {event : RuntimeEvent} (about : event.conversation = some contact) :
    event.application = true := by
  cases event <;> simp_all [RuntimeEvent.conversation, RuntimeEvent.application]

variable {session : RuntimeSession}

theorem RuntimeSession.projection_changed_of_mem
    (listed : contact ∈ session.pendingProjectionChanges.2) :
    session.pendingProjectionChanges.1 = true := by
  simp only [pendingProjectionChanges, List.mem_insertionSort, List.mem_dedup,
    List.mem_filterMap] at listed
  obtain ⟨event, pending, about⟩ := listed
  exact List.any_eq_true.mpr
    ⟨event, pending, RuntimeEvent.application_of_conversation about⟩

namespace Actor

theorem bumpRevision_silent
    (silent : session.pendingProjectionChanges.1 = false)
    (database : Database) :
    bumpRevision faults session database = .ok database := by
  simp [bumpRevision, silent]

variable {database : Database}

theorem bumpRevision_globalRevision
    (changed : session.pendingProjectionChanges.1 = true)
    (bumped : bumpRevision faults session database = .ok after) :
    after.globalRevision = database.globalRevision + 1 := by
  rw [bumpRevision, if_pos changed] at bumped
  obtain ⟨_, _, done⟩ := andThen_eq_ok.mp bumped
  obtain ⟨revisions, rfl⟩ := Database.bumpProjectionRevision_eq
    (mapError_eq_ok.mp (ofExcept_eq_ok.mp done))
  rfl

theorem saveResponse_eq
    (done : saveResponse faults context payload database = .ok after) :
    after = { database with
      processedCommands := database.processedCommands.insertNew
        context.commandId
        ⟨context.commandDescriptor, payload, database.globalRevision⟩ } := by
  obtain ⟨_, _, rest⟩ := andThen_eq_ok.mp done
  obtain ⟨_, _, rest⟩ := andThen_eq_ok.mp rest
  cases ofExcept_eq_ok.mp rest
  rfl

theorem prepareCommit_eq_ok
    (prepared : prepareCommit faults saved session database = .ok after) :
    ∃ bumped, bumpRevision faults session database = .ok bumped ∧
      ((saved = .ok none ∧ after = bumped) ∨
        ∃ context payload, saved = .ok (some (context, payload)) ∧
          saveResponse faults context payload bumped = .ok after) := by
  obtain ⟨_, _, rest⟩ := andThen_eq_ok.mp prepared
  obtain ⟨bumped, revised, rest⟩ := andThen_eq_ok.mp rest
  obtain ⟨entry, encoded, rest⟩ := andThen_eq_ok.mp rest
  obtain ⟨stored, written, rest⟩ := andThen_eq_ok.mp rest
  obtain ⟨_, _, finished⟩ := andThen_eq_ok.mp rest
  cases finished
  refine ⟨bumped, revised, ?_⟩
  cases entry with
  | none =>
    cases written
    exact .inl ⟨ofExcept_eq_ok.mp encoded, rfl⟩
  | some entry =>
    exact .inr ⟨entry.1, entry.2, ofExcept_eq_ok.mp encoded, written⟩

def Silent (saved : EngineResult (Option (IdempotencyCommitContext × String)))
    (runtime : Runtime) (database : Database) : Prop :=
  runtime.database = database ∧
    runtime.session.pendingProjectionChanges.1 = false ∧
    ∀ context payload, saved = .ok (some (context, payload)) →
      database.processedCommands.contains context.commandId

theorem prepareCommit_eq_start_iff
    {begun : Runtime} (grown : begun.Grows runtime)
    (prepared : prepareCommit faults saved runtime.session runtime.database =
      .ok after) :
    after = begun.database ↔ Silent saved runtime begun.database := by
  obtain ⟨bumped, revised, outcome⟩ := prepareCommit_eq_ok prepared
  cases changed : runtime.session.pendingProjectionChanges.1 with
  | true =>
    have raised := bumpRevision_globalRevision changed revised
    have ahead : begun.database.globalRevision < after.globalRevision := by
      have := grown.1
      rcases outcome with ⟨_, rfl⟩ | ⟨context, payload, _, stored⟩
      · omega
      · rw [saveResponse_eq stored]
        change _ < bumped.globalRevision
        omega
    constructor
    · rintro rfl
      omega
    · rintro ⟨_, silent, _⟩
      rw [changed] at silent
      cases silent
  | false =>
    rw [bumpRevision_silent changed] at revised
    cases revised
    rcases outcome with ⟨empty, rfl⟩ | ⟨context, payload, saving, stored⟩
    · simp [Silent, changed, empty]
    · have written := saveResponse_eq stored
      cases known : runtime.database.processedCommands.contains
          context.commandId with
      | true =>
        rw [Table.insertNew_of_contains known] at written
        subst written
        constructor
        · intro same
          refine ⟨same, changed, ?_⟩
          intro other text encoded
          rw [saving] at encoded
          cases encoded
          exact same ▸ known
        · exact fun silent => silent.1
      | false =>
        have stale : ¬ begun.database.processedCommands.contains
            context.commandId = true :=
          fun old => by
            have := grown.2 _ old
            rw [known] at this
            cases this
        constructor
        · rintro rfl
          refine absurd ?_ stale
          rw [written]
          exact Table.contains_insertNew_self _ _ _
        · intro silent
          exact absurd (silent.2.2 context payload saving) stale

/-! ## Where a call stops -/

inductive Stage
  | beginning
  | operating
  | sealing
  | committing
  | committed
  | anchoring

/-- The step whose failure would end the call, if no earlier one does; a call
that passes all of them up to the commit can only fail at its checkpoints. -/
def stopsAt (operation : Runtime.Call α)
    (idempotency : Option IdempotencyCommitContext)
    (response : α → EngineResult (Option String)) (actor : Actor P) : Stage :=
  if actor.host.faults .beginTransaction ≠ .proceed then .beginning
  else
    match operation (begun actor) with
    | (.ok value, runtime) =>
      match prepareCommit actor.host.faults
          (responseToSave idempotency response value) runtime.session
          runtime.database with
      | .ok _ =>
        if actor.host.faults .commit ≠ .proceed then .committing
        else if actor.host.faults .afterLocalCommit ≠ .proceed then .committed
        else .anchoring
      | _ => .sealing
    | _ => .operating

/-- When a failed call leaves no trace. A failure between the operation and the
commit loses the session, so nothing must have been in it; one after the commit
comes too late, unless there was nothing to commit. -/
def Restores (operation : Runtime.Call α)
    (idempotency : Option IdempotencyCommitContext)
    (response : α → EngineResult (Option String)) (actor : Actor P) : Prop :=
  match stopsAt operation idempotency response actor with
  | .beginning | .operating | .committing => True
  | .sealing => actor.session.shown = RuntimeSession.default.shown
  | .committed =>
    actor.session.shown = RuntimeSession.default.shown ∧
      ∀ value runtime, operation actor.begun = (.ok value, runtime) →
        Silent (responseToSave idempotency response value) runtime
          actor.database
  | .anchoring => False

theorem recordCheckpoints_nil
    (failed : recordCheckpoints P verdict database conversationIds call =
      .err error) : conversationIds ≠ [] := by
  rintro rfl
  cases failed

theorem afterCommit_err {actor : Actor P}
    (passed : before.faults .afterLocalCommit = .proceed)
    (failed : (afterCommit before value session actor).1 = .err error) :
    session.pendingProjectionChanges.1 = true := by
  simp only [afterCommit, Host.gate, passed] at failed
  split at failed
  · cases checkpoints : recordCheckpoints P before.world.verdict actor.database
        session.pendingProjectionChanges.2 before.calls with
    | ok | crash =>
      rw [checkpoints] at failed
      cases failed
    | err =>
      obtain ⟨contact, listed⟩ :=
        List.exists_mem_of_ne_nil _ (recordCheckpoints_nil checkpoints)
      exact RuntimeSession.projection_changed_of_mem listed
  · cases failed

theorem afterCommit_database
    (before : Host) (value : α) (session : RuntimeSession) (actor : Actor P) :
    (afterCommit before value session actor).2.database = actor.database := by
  unfold afterCommit
  split <;> rfl

/-- A failed transaction leaves the database and the visible session as they
were exactly when its failure falls where nothing is lost or kept. -/
theorem withRuntimeInternal_error_restores_iff
    (operation : Program Runtime RuntimeError α)
    (idempotency : Option IdempotencyCommitContext)
    (response : α → EngineResult (Option String)) (actor : Actor P)
    (error : EngineError) (grows : operation.Keeps Runtime.Grows)
    (failed : (withRuntimeInternal operation idempotency response actor).1 =
      .err error) :
    ((withRuntimeInternal operation idempotency response actor).2.database =
        actor.database ∧
      (withRuntimeInternal operation idempotency response
        actor).2.session.shown = actor.session.shown) ↔
      Restores operation idempotency response actor := by
  have grown := grows.run actor.begun
  revert failed
  unfold withRuntimeInternal Restores stopsAt
  cases opening : actor.host.faults .beginTransaction with
  | fail | crash => simp [Host.gate, opening]
  | proceed =>
    rcases run : operation actor.begun with ⟨outcome, runtime⟩
    rw [run] at grown
    cases outcome with
    | err | crash => simp [Host.gate, opening, run]
    | ok value =>
      cases prepared : prepareCommit actor.host.faults
          (responseToSave idempotency response value) runtime.session
          runtime.database with
      | err => simp [Host.gate, opening, run, prepared, eq_comm]
      | crash => simp [Host.gate, opening, run, prepared]
      | ok database =>
        have unchanged := prepareCommit_eq_start_iff grown prepared
        cases committing : actor.host.faults .commit with
        | fail | crash => simp [Host.gate, opening, run, prepared, committing]
        | proceed =>
          simp only [Host.gate, opening, run, prepared, committing]
          cases passing : actor.host.faults .afterLocalCommit with
          | fail =>
            simp only [afterCommit, Host.gate, passing]
            intro _
            constructor
            · rintro ⟨same, shown⟩
              refine ⟨shown.symm, ?_⟩
              rintro _ _ ⟨rfl, rfl⟩
              exact unchanged.mp same
            · rintro ⟨shown, silent⟩
              exact ⟨unchanged.mpr (silent _ _ rfl), shown.symm⟩
          | crash => simp [afterCommit, Host.gate, passing]
          | proceed =>
            intro failed
            have changed := afterCommit_err passing failed
            have moved : database ≠ actor.database := by
              intro same
              have silent := (unchanged.mp same).2.1
              rw [changed] at silent
              cases silent
            simp [afterCommit_database, moved]

private def failingActor (site : Site) : Actor (.plain "me") :=
  { Actor.assemble (.plain "me") .empty .empty false none 0
      (.initial ((World.calm 0).failing site)) with
    session := { RuntimeSession.new with selectedConversationId := some "peer" } }

def storingInvite : Runtime.Call Unit :=
  Runtime.write (Database.putPendingLocalInviteMls "invite"
    ⟨none, [], "", [], 0⟩)

theorem storingInvite_grows : storingInvite.Keeps Runtime.Grows := by
  refine ⟨fun runtime => ?_⟩
  refine Program.bind_end (Runtime.Grows runtime) ?_ fun _ next ran => ?_
  · exact ⟨le_rfl, fun _ => id⟩
  · have same := congrArg Prod.snd ran
    subst same
    exact ⟨le_rfl, fun _ => id⟩

theorem withRuntimeInternal_error_restores_iff_commit :
    (withRuntimeInternal storingInvite none (fun _ => .ok none)
        (failingActor .commit)).1 = .err (.storage "commit") ∧
    (((withRuntimeInternal storingInvite none (fun _ => .ok none)
          (failingActor .commit)).2.database =
        (failingActor .commit).database ∧
      (withRuntimeInternal storingInvite none (fun _ => .ok none)
          (failingActor .commit)).2.session.shown =
        (failingActor .commit).session.shown) ↔
      Restores storingInvite none (fun _ => .ok none)
        (failingActor .commit)) :=
  ⟨rfl, withRuntimeInternal_error_restores_iff storingInvite none _
    (failingActor .commit) (.storage "commit") storingInvite_grows rfl⟩

/-- A fault before the commit closes the open conversation; one after it keeps
what the transaction wrote. -/
theorem withRuntimeInternal_error_not_restored :
    ((withRuntimeInternal (Program.pure () : Program Runtime RuntimeError Unit)
          none (fun _ => .ok none) (failingActor .beforeLocalCommit)).1 =
        .err (.storage "fault injection") ∧
      (withRuntimeInternal (Program.pure () : Program Runtime RuntimeError Unit)
          none (fun _ => .ok none)
          (failingActor .beforeLocalCommit)).2.session.shown ≠
        (failingActor .beforeLocalCommit).session.shown) ∧
    ((withRuntimeInternal (Runtime.write (Database.putPendingLocalInviteMls
            "invite" ⟨none, [], "", [], 0⟩)) none (fun _ => .ok none)
          (failingActor .afterLocalCommit)).1 =
        .err (.storage "fault injection") ∧
      (withRuntimeInternal (Runtime.write (Database.putPendingLocalInviteMls
            "invite" ⟨none, [], "", [], 0⟩)) none (fun _ => .ok none)
          (failingActor .afterLocalCommit)).2.database ≠
        (failingActor .afterLocalCommit).database) := by
  refine ⟨⟨rfl, by decide⟩, rfl, ?_⟩
  intro same
  have invites := congrArg (fun database : Database =>
    database.pendingLocalInvites.size) same
  exact absurd invites (by decide)

end Actor

end Torchat
