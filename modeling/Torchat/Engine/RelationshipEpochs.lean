import Torchat.Engine.OperationCalls
import Torchat.Storage.Renewal

namespace Torchat

open Foundation Storage Database

structure Epochs where
  tombstone : Option Int
  boundary : Option Int

namespace Epochs

variable {epochs : Epochs}

def current (epochs : Epochs) : Int := epochs.boundary.getD 0

def removed (epochs : Epochs) : Epochs :=
  let next := Database.epochAfter epochs.current
  { epochs with tombstone := some (epochs.tombstone.elim next (max · next)) }

def verified (epochs : Epochs) : Epochs :=
  let next := Database.epochAfter
    (max epochs.current (epochs.tombstone.getD 0))
  ⟨none, some (epochs.boundary.elim next (max · next))⟩

def reach (epochs : Epochs) : Int := epochs.tombstone.getD epochs.current

structure Outlasts (after before : Epochs) : Prop where
  reach : ∀ epoch ≤ 2 ^ 63 - 1, epoch ≤ before.reach → epoch ≤ after.reach
  boundary : ∀ epoch, before.boundary = some epoch →
    ∃ kept, after.boundary = some kept ∧ epoch ≤ kept

theorem Outlasts.refl (epochs : Epochs) : Outlasts epochs epochs :=
  ⟨fun _ _ => id, fun epoch held => ⟨epoch, held, le_rfl⟩⟩

theorem Outlasts.trans (second : Outlasts after middle)
    (first : Outlasts middle before) : Outlasts after before := by
  refine ⟨fun epoch fits reached =>
    second.reach epoch fits (first.reach epoch fits reached), ?_⟩
  intro epoch held
  obtain ⟨between, found, risen⟩ := first.boundary epoch held
  obtain ⟨kept, stored, higher⟩ := second.boundary between found
  exact ⟨kept, stored, risen.trans higher⟩

theorem removed_outlasts (epochs : Epochs) : Outlasts epochs.removed epochs := by
  refine ⟨fun epoch fits reached => ?_, fun epoch held => ⟨epoch, held, le_rfl⟩⟩
  unfold reach removed at *
  cases tombstone : epochs.tombstone with
  | none =>
    simp only [tombstone, Option.getD_none, Option.getD_some, Option.elim_none,
      epochAfter] at reached ⊢
    omega
  | some tombstone' =>
    simp only [tombstone, Option.getD_some, Option.elim_some] at reached ⊢
    omega

theorem verified_after
    (below : epoch ≤ max epochs.current (epochs.tombstone.getD 0)) :
    epochAfter epoch ≤ epochs.verified.current := by
  refine (epochAfter_mono below).trans ?_
  unfold verified
  cases epochs.boundary with
  | none => exact le_rfl
  | some boundary => exact le_max_right _ _

theorem reach_le (epochs : Epochs) :
    epochs.reach ≤ max epochs.current (epochs.tombstone.getD 0) := by
  unfold reach
  cases epochs.tombstone with
  | none => exact le_max_left _ _
  | some tombstone => exact le_max_right _ _

theorem verified_outlasts (epochs : Epochs) :
    Outlasts epochs.verified epochs := by
  refine ⟨fun epoch fits reached => ?_, fun epoch held => ?_⟩
  · have after := verified_after (reached.trans epochs.reach_le)
    unfold epochAfter at after
    change epoch ≤ epochs.verified.current
    omega
  · unfold verified
    rw [held]
    exact ⟨_, rfl, le_max_left _ _⟩

end Epochs

namespace Storage.Database

variable {contact : InstallationId} {database : Database}

def epochs (contact : InstallationId) (database : Database) : Epochs where
  tombstone := (database.relationshipTombstones.lookup contact).map
    Tombstone.relationshipEpoch
  boundary := (database.relationshipBoundaries.lookup contact).map
    Boundary.relationshipEpoch

theorem current_epochs :
    (database.epochs contact).current =
      database.currentRelationshipEpoch contact := by
  unfold epochs Epochs.current currentRelationshipEpoch
  cases database.relationshipBoundaries.lookup contact with
  | none => rfl
  | some row => rfl

theorem removeRelationshipWithId_epochs
    (done : database.removeRelationshipWithId contact removedAt preserveHistory
      removalId (epochAfter (database.currentRelationshipEpoch contact)) =
      .ok after) :
    after.epochs contact = (database.epochs contact).removed := by
  obtain ⟨_, rfl⟩ := removeRelationshipWithId_eq_ok.mp done
  rw [← current_epochs]
  split
  · rename_i stale
    unfold staleRemoval at stale
    unfold epochs Epochs.removed
    cases found : database.relationshipTombstones.lookup contact with
    | none =>
      rw [found] at stale
      cases stale
    | some row =>
      simp only [found, Option.any_some, decide_eq_true_eq] at stale
      simp only [Option.map_some, Option.elim_some, Epochs.mk.injEq, and_true]
      exact congrArg some (max_eq_left stale.le).symm
  · obtain ⟨_, _, removed, _⟩ := @locallyRemoved_eq database contact removedAt
      preserveHistory removalId (epochAfter (database.epochs contact).current)
    rw [removed]
    unfold epochs Epochs.removed tombstone forgetSession
    simp only [Table.lookup_insert, if_true, Option.map_some, Epochs.mk.injEq,
      and_true, Option.some.injEq]
    cases database.relationshipTombstones.lookup contact with
    | none => rfl
    | some row => rfl

theorem beginVerifiedRelationship_epochs
    (done : database.beginVerifiedRelationship contact boundaryAt = .ok after) :
    after.epochs contact = (database.epochs contact).verified := by
  cases done
  simp only [epochs, currentRelationshipEpoch, Epochs.verified, Epochs.current,
    Table.lookup_erase, Table.lookup_insert, if_true, Option.map_none,
    Option.map_some]
  cases database.relationshipTombstones.lookup contact with
  | none =>
    cases database.relationshipBoundaries.lookup contact with
    | none => rfl
    | some row => rfl
  | some row =>
    cases database.relationshipBoundaries.lookup contact with
    | none => rfl
    | some row => rfl

end Storage.Database

/-! ## Requests and renewals -/

structure RemovalRequest where
  operationId : String
  descriptor : String
  preserveHistory : Bool
  removalId : String
  removedAt : Int
  session : RuntimeSession
  host : Host

namespace RemovalRequest

def run (request : RemovalRequest) (contact : InstallationId)
    (database : Database) : Outcome RuntimeError Bool × Runtime :=
  Runtime.requestRelationshipRemoval request.operationId request.descriptor
    contact request.preserveHistory request.removalId request.removedAt
    ⟨database, request.session, request.host⟩

def succeeds (request : RemovalRequest) (contact : InstallationId)
    (database : Database) : Bool :=
  (request.run contact database).1 matches .ok _

end RemovalRequest

inductive RelationshipStep where
  | request (removal : RemovalRequest)
  | verify (boundaryAt : Int)

namespace RelationshipStep

variable {contact : InstallationId}

def perform (contact : InstallationId) (database : Database) :
    RelationshipStep → Database
  | request removal =>
    if removal.succeeds contact database then
      (removal.run contact database).2.database
    else database
  | verify boundaryAt =>
    database.settle (database.beginVerifiedRelationship contact boundaryAt)

def performAll (contact : InstallationId) (database : Database)
    (steps : List RelationshipStep) : Database :=
  steps.foldl (perform contact) database

def Completed (operationId : String) (database : Database) : Prop :=
  ∃ held, database.durableOperations.lookup operationId = some held ∧
    held.state = .completed

theorem request_cases : let after := perform contact database (request removal)
    after = database ∧ (removal.succeeds contact database = true →
        Completed removal.operationId database) ∨
      ¬Completed removal.operationId database ∧
        after.epochs contact = (database.epochs contact).removed ∧
        ∃ operation : DurableOperation, operation.state = .completed ∧
          operation.operationId =
            (database.durableOperations.lookup removal.operationId).elim
              removal.operationId DurableOperation.operationId ∧
          after.durableOperations.lookup operation.operationId =
            some operation := by
  rcases ran : removal.run contact database with ⟨outcome, after⟩
  cases outcome with
  | err | crash =>
    exact .inl ⟨by simp [perform, RemovalRequest.succeeds, ran],
      by simp [RemovalRequest.succeeds, ran]⟩
  | ok changed =>
    have committed : perform contact database (request removal) =
        after.database := by
      simp [perform, RemovalRequest.succeeds, ran]
    rw [committed]
    obtain ⟨same, _, held⟩ | ⟨operation, begun, removed, _, _, named, pending,
        begins, removes, completes⟩ :=
      Runtime.requestRelationshipRemoval_ok ran
    · exact .inl ⟨same, fun _ => held⟩
    · have epochs : begun.epochs contact = database.epochs contact := by
        rw [← Except.ok.inj begins]
        rfl
      rw [← current_epochs, ← epochs, current_epochs] at removes
      refine .inr ⟨fun ⟨held, found, ended⟩ => pending held found ended, ?_,
        operation.finish .completed none removal.removedAt, rfl, named, ?_⟩
      · rw [← epochs, ← removeRelationshipWithId_epochs removes,
          ← Except.ok.inj completes]
        rfl
      · rw [← Except.ok.inj completes]
        exact (Table.lookup_insert ..).trans (if_pos rfl)

theorem perform_worked
    (keyed : Ledger.Operations.Keyed database.ledger.operations)
    (step : RelationshipStep) :
    Runtime.Worked False database (perform contact database step) := by
  cases step with
  | verify boundaryAt => exact .refl
  | request removal =>
    have worked : Runtime.Worked False
        (⟨database, removal.session, removal.host⟩ : Runtime).database
        (removal.run contact database).2.database :=
      Runtime.requestRelationshipRemoval_worked keyed
    rw [perform]
    split
    · exact worked
    · exact .refl

theorem verify_epochs :
    (perform contact database (verify boundaryAt)).epochs contact =
      (database.epochs contact).verified :=
  beginVerifiedRelationship_epochs rfl

theorem performAll_outlasts
    (keyed : Ledger.Operations.Keyed database.ledger.operations)
    (steps : List RelationshipStep) :
    let after := performAll contact database steps
    Ledger.Operations.Keyed after.ledger.operations ∧
      (after.epochs contact).Outlasts (database.epochs contact) ∧
      ∀ operationId, Completed operationId database →
        Completed operationId after := by
  induction steps generalizing database with
  | nil => exact ⟨keyed, .refl _, fun _ => id⟩
  | cons step rest induction =>
    have worked : Runtime.Worked False database
        (perform contact database step) := perform_worked keyed step
    have epochs : ((perform contact database step).epochs contact).Outlasts
        (database.epochs contact) := by
      cases step with
      | verify boundaryAt =>
        rw [verify_epochs]
        exact Epochs.verified_outlasts _
      | request removal =>
        obtain ⟨same, _⟩ | ⟨_, changed, _⟩ := request_cases
        · rw [same]
          exact .refl _
        · rw [changed]
          exact Epochs.removed_outlasts _
    obtain ⟨later, kept, completed⟩ :=
      @induction (perform contact database step)
        (Ledger.keyed_of_worked worked keyed)
    refine ⟨later, kept.trans epochs, fun operationId ⟨held, found, ended⟩ =>
      completed operationId ⟨held, ?_, ended⟩⟩
    exact Ledger.final_of_worked worked not_false found (by rw [ended]; rfl)

end RelationshipStep

/-- Any number of requests and renewals after a state: a renewal is recorded with
an epoch beyond those recorded there, unless one is the greatest there is; the
boundary and the tombstones do not fall behind; and a request that succeeded
there is not carried out again under its operation id. -/
theorem relationship_epochs_increase
    {contact : InstallationId} {start : Database}
    (keyed : ∀ key operation,
      start.durableOperations.lookup key = some operation →
      operation.operationId = key)
    (earlier later : List RelationshipStep) :
    let before := RelationshipStep.performAll contact start earlier
    let now := RelationshipStep.performAll contact before later
    (∀ epoch, (before.epochs contact).tombstone = some epoch ∨
        (before.epochs contact).boundary = some epoch → epoch < 2 ^ 63 - 1 →
      ∀ boundaryAt, ∃ renewed,
        ((RelationshipStep.verify boundaryAt).perform contact now
          |>.epochs contact).boundary = some renewed ∧ epoch < renewed) ∧
      (∀ epoch, (before.epochs contact).boundary = some epoch →
        ∃ kept, (now.epochs contact).boundary = some kept ∧ epoch ≤ kept) ∧
      (∀ epoch kept, (before.epochs contact).tombstone = some epoch →
        epoch ≤ 2 ^ 63 - 1 → (now.epochs contact).tombstone = some kept →
        epoch ≤ kept) ∧
      ∀ first again : RemovalRequest, first.operationId = again.operationId →
        first.succeeds contact before = true →
        let now := RelationshipStep.performAll contact
          (RelationshipStep.perform contact before (.request first)) later
        RelationshipStep.perform contact now (.request again) = now := by
  intro before now
  have keyed : Ledger.Operations.Keyed before.ledger.operations :=
    (RelationshipStep.performAll_outlasts keyed earlier).1
  have outlasts : (now.epochs contact).Outlasts (before.epochs contact) :=
    (RelationshipStep.performAll_outlasts keyed later).2.1
  have reaches : ∀ epoch, (before.epochs contact).tombstone = some epoch →
      epoch ≤ 2 ^ 63 - 1 → epoch ≤ (now.epochs contact).reach := by
    intro epoch recorded fits
    exact outlasts.reach epoch fits (by simp [Epochs.reach, recorded])
  refine ⟨?_, outlasts.boundary, ?_, ?_⟩
  · intro epoch recorded room boundaryAt
    have below : epoch ≤ max (now.epochs contact).current
        ((now.epochs contact).tombstone.getD 0) := by
      rcases recorded with buried | bounded
      · exact (reaches epoch buried room.le).trans (Epochs.reach_le _)
      · obtain ⟨kept, found, risen⟩ := outlasts.boundary epoch bounded
        exact le_max_of_le_left (by simpa [Epochs.current, found] using risen)
    have after := Epochs.verified_after below
    refine ⟨(now.epochs contact).verified.current, ?_, ?_⟩
    · rw [RelationshipStep.verify_epochs]
      rfl
    · unfold Database.epochAfter at after
      omega
  · intro epoch kept recorded fits found
    simpa [Epochs.reach, found] using reaches epoch recorded fits
  · intro first again same succeeds now
    have completed : RelationshipStep.Completed first.operationId
        (RelationshipStep.perform contact before (.request first)) := by
      obtain ⟨unchanged, held⟩ | ⟨_, _, operation, ended, named, found⟩ :=
        RelationshipStep.request_cases
      · rw [unchanged]
        exact held succeeds
      · refine ⟨operation, ?_, ended⟩
        have own : operation.operationId = first.operationId := by
          rw [named]
          cases held : before.durableOperations.lookup first.operationId with
          | none => rfl
          | some operation => exact keyed _ _ held
        rw [← own]
        exact found
    have ready : Ledger.Operations.Keyed (RelationshipStep.perform contact before
        (.request first)).ledger.operations :=
      Ledger.keyed_of_worked (RelationshipStep.perform_worked keyed _) keyed
    obtain ⟨unchanged, _⟩ | ⟨pending, _⟩ := RelationshipStep.request_cases
    · exact unchanged
    · rw [← same] at pending
      exact absurd ((RelationshipStep.performAll_outlasts ready later).2.2 _
        completed) pending

def removalOfAlice : RemovalRequest where
  operationId := "operation"
  descriptor := "descriptor"
  preserveHistory := true
  removalId := "ours"
  removedAt := 7
  session := .new
  host := .initial (.calm 7)

theorem renewal_after_a_removal_is_newer :
    let before := RelationshipStep.performAll "alice" .empty
      [.request removalOfAlice]
    (before.epochs "alice").tombstone = some 1 ∧
      ∃ renewed, ((RelationshipStep.verify 9).perform "alice" before
        |>.epochs "alice").boundary = some renewed ∧ 1 < renewed := by
  have removed : ((RelationshipStep.performAll "alice" .empty
      [.request removalOfAlice]).epochs "alice").tombstone = some 1 := by
    decide +kernel
  have keyed : ∀ key operation,
      Database.empty.durableOperations.lookup key = some operation →
      operation.operationId = key := by
    intro key operation found
    cases found
  exact ⟨removed, (relationship_epochs_increase keyed [.request removalOfAlice]
    []).1 1 (.inl removed) (by decide) 9⟩

/-- A contact may have ended the relationship with the last epoch there is. -/
theorem renewal_after_the_last_epoch_is_not_newer :
    let before := (removedByAlice (2 ^ 63 - 1)).database
    (before.epochs "alice").tombstone = some (2 ^ 63 - 1) ∧
      ((RelationshipStep.verify 9).perform "alice" before
        |>.epochs "alice").boundary = some (2 ^ 63 - 1) := by
  decide +kernel

end Torchat
