import Torchat.Engine.Environment

namespace Torchat

open Foundation Storage

namespace Host

def gate (verdict : Verdict) (error : ε) : Outcome ε Unit :=
  match verdict with
  | .proceed => .ok ()
  | .fail => .err error
  | .crash => .crash

end Host

namespace Actor

/-! ## The parts of a transaction

The verdicts on the calls of one transaction are those of the call number at
which it begins. -/

def bumpRevision (faults : Site → Verdict) (session : RuntimeSession)
    (database : Database) : Outcome EngineError Database :=
  if session.pendingProjectionChanges.1 then
    (Host.gate (faults .bumpProjection) (.storage "bump projection")).andThen
      fun _ => .ofExcept
        ((database.bumpProjectionRevision
          session.pendingProjectionChanges.2).mapError .ofRuntime)
  else
    .ok database

def saveResponse (faults : Site → Verdict) (context : IdempotencyCommitContext)
    (payload : String) (database : Database) : Outcome EngineError Database :=
  (Host.gate (faults .encodeResponse) (.serialization "encode response")).andThen
    fun _ =>
  (Host.gate (faults .saveProcessedCommand)
    (.storage "save processed command")).andThen fun _ =>
  .ofExcept ((database.saveProcessedCommand context.commandId
    ⟨context.commandDescriptor, payload, database.globalRevision⟩
    ).mapError .ofRuntime)

def responseToSave (idempotency : Option IdempotencyCommitContext)
    (response : α → EngineResult (Option String)) (value : α) :
    EngineResult (Option (IdempotencyCommitContext × String)) :=
  match idempotency with
  | none => .ok none
  | some context => (response value).map (·.map (context, ·))

def prepareCommit (faults : Site → Verdict)
    (saved : EngineResult (Option (IdempotencyCommitContext × String)))
    (session : RuntimeSession) (database : Database) :
    Outcome EngineError Database :=
  (Host.gate (faults .projectionHead) (.storage "projection head")).andThen
    fun _ =>
  (bumpRevision faults session database).andThen fun database =>
  (Outcome.ofExcept saved).andThen fun saved =>
  (saved.elim (.ok database) fun entry =>
    saveResponse faults entry.1 entry.2 database).andThen fun database =>
  (Host.gate (faults .beforeLocalCommit) (.storage "fault injection")).andThen
    fun _ => .ok database

def recordCheckpoint
    (P : Primitives) (verdict : Site → Verdict) (database : Database)
    (conversationId : InstallationId) : Outcome EngineError Unit :=
  (Host.gate (verdict .checkpoint) (.storage "checkpoint")).andThen fun _ =>
  match database.conversationMls.lookup conversationId with
  | none => .ok ()
  | some row =>
    (Outcome.ofExcept ((P.restore row.snapshot).mapError
      EngineError.storage)).andThen fun _ =>
    Host.gate (verdict .anchor) (.storage "anchor")

def recordCheckpoints
    (P : Primitives) (verdict : Site → Nat → Verdict) (database : Database) :
    List InstallationId → Nat → Outcome EngineError Unit
  | [], _ => .ok ()
  | conversationId :: rest, call =>
    (recordCheckpoint P (verdict · call) database conversationId).andThen
      fun _ => recordCheckpoints P verdict database rest (call + 1)

def afterCommit (before : Host) (value : α) (session : RuntimeSession)
    (actor : Actor P) : Outcome EngineError (α × List RuntimeEvent) × Actor P :=
  match Host.gate (before.faults .afterLocalCommit)
      (EngineError.storage "fault injection") with
  | .err error => (.err error, actor)
  | .crash => (.crash, actor)
  | .ok () =>
    let changes := session.pendingProjectionChanges
    let drained := session.commitTransaction.drainEvents
    let actor := { actor with session := drained.2 }
    let checkpoints :=
      if actor.mlsAnchor then
        recordCheckpoints P before.world.verdict actor.database changes.2
          before.calls
      else
        .ok ()
    let note :=
      if changes.1 ∧ before.faults .query = .proceed then
        [.projectionChanged actor.database.globalRevision true changes.2]
      else
        []
    (checkpoints.andThen fun _ => .ok (value, drained.1 ++ note), actor)

def begun (actor : Actor P) : Runtime where
  database := actor.database
  session := actor.session.beginTransaction
  host := { actor.host with calls := actor.host.calls + 1 }

/-- `with_runtime_internal`. The session is moved out of the actor; a return
before it is put back leaves the default one behind. -/
def withRuntimeInternal (operation : Runtime.Call α)
    (idempotency : Option IdempotencyCommitContext)
    (response : α → EngineResult (Option String)) :
    Call P (α × List RuntimeEvent) := fun actor =>
  let before := actor.host
  let runtime := actor.begun
  let actor := { actor with host := runtime.host }
  match Host.gate (before.faults .beginTransaction)
      (EngineError.storage "begin transaction") with
  | .err error => (.err error, actor)
  | .crash => (.crash, actor)
  | .ok () =>
    match operation runtime with
    | (.err error, runtime) =>
      (.err (.ofRuntime error), { actor with host := runtime.host })
    | (.crash, runtime) => (.crash, { actor with host := runtime.host })
    | (.ok value, runtime) =>
      let taken : Actor P :=
        { actor with session := .default, host := runtime.host }
      match prepareCommit before.faults
          (responseToSave idempotency response value)
          runtime.session runtime.database with
      | .err error => (.err error, taken)
      | .crash => (.crash, taken)
      | .ok database =>
        match Host.gate (before.faults .commit)
            (EngineError.storage "commit") with
        | .err error =>
          (.err error, { taken with session := actor.session })
        | .crash => (.crash, taken)
        | .ok () =>
          afterCommit before value runtime.session
            { taken with database := database }

def withRuntime (operation : Runtime.Call α) : Call P (α × List RuntimeEvent) :=
  withRuntimeInternal operation none fun _ => .ok none

def withRuntimeIdempotent
    (idempotency : Option IdempotencyCommitContext)
    (operation : Runtime.Call α)
    (response : α → EngineResult String) : Call P (α × List RuntimeEvent) :=
  withRuntimeInternal operation idempotency fun value =>
    (response value).map some

end Actor

end Torchat
