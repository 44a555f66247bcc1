import Torchat.Engine.Transacted

namespace Torchat

open Foundation Storage

def World.Quiet (world : World) : Prop :=
  ∀ site turn, world.verdict site turn = .proceed

theorem World.calm_quiet (now : Int) : (World.calm now).Quiet := fun _ _ => rfl

theorem Host.consult_quiet (quiet : host.world.Quiet) (site : Site)
    (error : ε) : consult site error host = (.ok (), host.tick) := by
  simp [consult, quiet site host.calls, tick]

namespace Runtime

variable {runtime : Runtime}

section

variable (quiet : runtime.host.world.Quiet)

include quiet

theorem onHost_consult_quiet (site : Site) (error : RuntimeError) :
    onHost (Host.consult site error) runtime = (.ok (), runtime.tick) := by
  simp [onHost, zoom, Host.consult_quiet quiet, tick]

theorem query_quiet (view : Database → α) :
    query view runtime = (.ok (view runtime.database), runtime.tick) := by
  unfold query
  rw [run_bind_ok (onHost_consult_quiet quiet _ _)]
  rfl

theorem write_quiet {database : Database}
    (done : statement runtime.database = .ok database) :
    write statement runtime =
      (.ok (), { runtime.tick with database := database }) := by
  unfold write
  rw [run_bind_ok (onHost_consult_quiet quiet _ _)]
  simp [onDatabase, zoom, run_execute_ok done]

theorem write_error_quiet (failed : statement runtime.database = .error error) :
    write statement runtime = (.err error, runtime.tick) := by
  unfold write
  rw [run_bind_ok (onHost_consult_quiet quiet _ _)]
  simp only [onDatabase, zoom, tick_database,
    Program.run_execute_error failed]
  rfl

end

def Housed (runtime : Runtime) : Prop :=
  ∀ conversationId ∈ runtime.session.pendingEvents.filterMap
      RuntimeEvent.conversation,
    runtime.database.conversations.contains conversationId = true

theorem mem_pendingEvents_pushEvent {session : RuntimeSession} :
    pending ∈ (session.pushEvent event).pendingEvents ↔
      pending ∈ session.pendingEvents ∨ pending = event := by
  unfold RuntimeSession.pushEvent
  split <;> simp [RuntimeSession.pendingEvents] <;> tauto

theorem Housed.pushEvent (housed : runtime.Housed)
    (present : ∀ contact, event.conversation = some contact →
      runtime.database.conversations.contains contact = true) :
    Housed { runtime with session := runtime.session.pushEvent event } := by
  intro contact spoken
  obtain ⟨pending, member, named⟩ := List.mem_filterMap.mp spoken
  rcases mem_pendingEvents_pushEvent.mp member with old | rfl
  · exact housed contact (List.mem_filterMap.mpr ⟨pending, old, named⟩)
  · exact present contact named

end Runtime

namespace Actor

variable {actor : Actor P}

def Idle (actor : Actor P) : Prop := actor.session.pendingEvents = []

theorem faults_quiet (quiet : actor.host.world.Quiet) (site : Site) :
    actor.host.faults site = .proceed := quiet site _

theorem transact_state (operation : Runtime.Call α) (actor : Actor P) :
    (transact operation actor).2 = (withRuntime operation actor).2 := by
  change (Program.bind (withRuntime operation) _ actor).2 = _
  unfold Program.bind
  rcases withRuntime operation actor with ⟨_ | _ | _, after⟩ <;> rfl

theorem transact_database_of_err
    (failed : operation actor.begun = (.err error, runtime)) :
    (transact operation actor).2.database = actor.database := by
  rw [transact_state]
  unfold withRuntime
  have transacted := withRuntimeInternal_transacted operation none
    (fun _ => .ok none) actor
  generalize withRuntimeInternal operation none (fun _ => .ok none) actor =
    result at transacted ⊢
  obtain ⟨outcome, after⟩ := result
  cases transacted with
  | kept => rfl
  | committed session ran =>
    rw [failed] at ran
    cases ran

variable {database : Database} {runtime : Runtime}

section

variable (quiet : actor.host.world.Quiet)

include quiet

theorem prepareCommit_quiet (value : α)
    (bumped : bumpRevision actor.host.faults runtime.session runtime.database =
      .ok database) :
    prepareCommit actor.host.faults
      (responseToSave none (fun _ : α => .ok none) value) runtime.session
      runtime.database = .ok database := by
  simp [prepareCommit, responseToSave, faults_quiet quiet, Host.gate, bumped,
    Outcome.andThen, Outcome.ofExcept]

theorem transact_database_of_ok
    (ran : operation actor.begun = (.ok value, runtime))
    (bumped : bumpRevision actor.host.faults runtime.session runtime.database =
      .ok database) : (transact operation actor).2.database = database := by
  rw [transact_state]
  simp only [withRuntime, withRuntimeInternal, faults_quiet quiet, Host.gate,
    ran, prepareCommit_quiet quiet value bumped]
  exact afterCommit_database _ _ _ _

theorem bumpRevision_quiet (housed : runtime.Housed) :
    ∃ revision revisions, bumpRevision actor.host.faults runtime.session
        runtime.database = .ok { runtime.database with
          globalRevision := revision, conversationRevisions := revisions } := by
  unfold bumpRevision
  split
  · obtain ⟨database, done⟩ : ∃ database,
        runtime.database.bumpProjectionRevision
          runtime.session.pendingProjectionChanges.2 = .ok database :=
      Database.foldlM_putConversationRevision_ok fun contact member =>
        housed contact (by
          simpa [RuntimeSession.pendingProjectionChanges] using member)
    obtain ⟨revisions, rfl⟩ := Database.bumpProjectionRevision_eq done
    refine ⟨runtime.database.globalRevision + 1, revisions, ?_⟩
    simp [faults_quiet quiet, Host.gate, Outcome.andThen, Outcome.ofExcept, done,
      Except.mapError]
  · exact ⟨_, _, rfl⟩

theorem transact_commits (ran : operation actor.begun = (.ok value, runtime))
    (housed : runtime.Housed) :
    ∃ revision revisions,
      (transact operation actor).2.database = { runtime.database with
        globalRevision := revision, conversationRevisions := revisions } := by
  obtain ⟨revision, revisions, bumped⟩ := bumpRevision_quiet quiet housed
  exact ⟨revision, revisions, transact_database_of_ok quiet ran bumped⟩

end

theorem run_check (passed : result = .ok value) (error : String → EngineError)
    (actor : Actor P) : check result error actor = (.ok value, actor) := by
  rw [passed]
  rfl

theorem query_quiet (quiet : actor.host.world.Quiet) (view : Database → α) :
    query view actor =
      (.ok (view actor.database), { actor with host := actor.host.tick }) := by
  unfold query
  have asked : onHost (P := P) (Host.consult .query
      (EngineError.storage "query failed")) actor =
      (.ok (), { actor with host := actor.host.tick }) := by
    simp [onHost, zoom, Host.consult_quiet quiet]
  rw [run_bind_ok asked]
  rfl

end Actor

end Torchat
