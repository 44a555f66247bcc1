import Torchat.Engine.Atomicity
import Torchat.Engine.Commands

namespace Torchat

open Foundation Storage

namespace Actor

/-- What a transaction can leave behind. Either nothing of its operation is
kept, and it does not succeed; or the operation went through and was committed,
and only then the call may still fail. -/
inductive Transacted (operation : Runtime.Call α)
    (idempotency : Option IdempotencyCommitContext)
    (response : α → EngineResult (Option String)) (actor : Actor P) :
    Outcome EngineError (α × List RuntimeEvent) → Actor P → Prop
  | kept
      {outcome : Outcome EngineError (α × List RuntimeEvent)}
      (session : RuntimeSession) (host : Host)
      (failed : ∀ result, outcome ≠ .ok result)
      (sessions : session = actor.session ∨ session = .default)
      (hosts : host = actor.begun.host ∨
        host = (operation actor.begun).2.host) :
      Transacted operation idempotency response actor outcome
        { actor with session := session, host := host }
  | committed
      {outcome : Outcome EngineError (α × List RuntimeEvent)} {value : α}
      {runtime : Runtime} {database : Database}
      (session : RuntimeSession)
      (ran : operation actor.begun = (.ok value, runtime))
      (prepared : prepareCommit actor.host.faults
        (responseToSave idempotency response value) runtime.session
        runtime.database = .ok database)
      (answered : ∀ result, outcome = .ok result → result.1 = value)
      (sessions : session = .default ∨
        session = runtime.session.commitTransaction.drainEvents.2) :
      Transacted operation idempotency response actor outcome
        { actor with
          database := database, session := session, host := runtime.host }

theorem afterCommit_cases
    (before : Host) (value : α) (session : RuntimeSession) (actor : Actor P) :
    (∀ result, (afterCommit before value session actor).1 = .ok result →
      result.1 = value) ∧
    ((afterCommit before value session actor).2 = actor ∨
      (afterCommit before value session actor).2 =
        { actor with session := session.commitTransaction.drainEvents.2 }) := by
  unfold afterCommit
  cases Host.gate (before.faults .afterLocalCommit)
      (EngineError.storage "fault injection") with
  | err | crash => exact ⟨by simp, .inl rfl⟩
  | ok =>
    refine ⟨?_, .inr rfl⟩
    intro result finished
    obtain ⟨_, _, answered⟩ := Outcome.andThen_eq_ok.mp finished
    cases answered
    rfl

theorem withRuntimeInternal_transacted (operation : Runtime.Call α)
    (idempotency : Option IdempotencyCommitContext)
    (response : α → EngineResult (Option String)) (actor : Actor P) :
    Transacted operation idempotency response actor
      (withRuntimeInternal operation idempotency response actor).1
      (withRuntimeInternal operation idempotency response actor).2 := by
  unfold withRuntimeInternal
  cases opening : Host.gate (actor.host.faults .beginTransaction)
      (EngineError.storage "begin transaction") with
  | err | crash =>
    simp only [opening]
    exact .kept actor.session _ (by simp) (.inl rfl) (.inl rfl)
  | ok =>
    rcases ran : operation actor.begun with ⟨outcome, runtime⟩
    cases outcome with
    | err | crash =>
      simp only [opening, ran]
      exact .kept actor.session _ (by simp) (.inl rfl) (.inr (by rw [ran]))
    | ok value =>
      cases prepared : prepareCommit actor.host.faults
          (responseToSave idempotency response value) runtime.session
          runtime.database with
      | err | crash =>
        simp only [opening, ran, prepared]
        exact .kept .default _ (by simp) (.inr rfl) (.inr (by rw [ran]))
      | ok database =>
        cases committing : Host.gate (actor.host.faults .commit)
            (EngineError.storage "commit") with
        | err error =>
          simp only [opening, ran, prepared, committing]
          exact .kept actor.session _ (by simp) (.inl rfl) (.inr (by rw [ran]))
        | crash =>
          simp only [opening, ran, prepared, committing]
          exact .kept .default _ (by simp) (.inr rfl) (.inr (by rw [ran]))
        | ok =>
          simp only [opening, ran, prepared, committing]
          obtain ⟨answered, left | left⟩ := afterCommit_cases
            actor.host value runtime.session
            { actor with
              database := database
              session := .default
              host := runtime.host }
          · rw [left]
            exact .committed .default ran prepared answered (.inl rfl)
          · rw [left]
            exact .committed _ ran prepared answered (.inr rfl)

end Actor

end Torchat
