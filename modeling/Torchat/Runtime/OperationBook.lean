import Torchat.Runtime.Ledger

namespace Torchat

open Foundation Storage Function

namespace DurableOperation

/-- The same work goes on, or ends. Pairings begun under the older type go on as
cancellations, and an operation without a descriptor may get one. -/
structure Continues (before after : DurableOperation) : Prop where
  operationId : after.operationId = before.operationId
  entityId : after.entityId = before.entityId
  operationType : after.operationType = before.operationType ∨
    before.operationType = .pairing ∧ after.operationType = .pairingCancellation
  commandDescriptor : ∀ descriptor, before.commandDescriptor = some descriptor →
    after.commandDescriptor = some descriptor
  reopens : before.state.isTerminal = true → after.state.isTerminal = true

structure Opens (operation : DurableOperation) : Prop where
  operationType : operation.operationType ≠ .pairing
  bound : operation.commandDescriptor.isSome

structure BindsAs (before after : DurableOperation) : Prop where
  entityId : after.entityId = before.entityId
  operationType : after.operationType = before.operationType
  commandDescriptor : after.commandDescriptor = before.commandDescriptor

theorem BindsAs.refl (operation : DurableOperation) :
    operation.BindsAs operation :=
  ⟨rfl, rfl, rfl⟩

variable {first : DurableOperation} {before : DurableOperation}
  {operation : DurableOperation}

theorem BindsAs.trans (one : first.BindsAs second)
    (two : second.BindsAs third) : first.BindsAs third :=
  ⟨two.entityId.trans one.entityId, two.operationType.trans one.operationType,
    two.commandDescriptor.trans one.commandDescriptor⟩

theorem BindsAs.opens
    (binds : before.BindsAs after) (opens : before.Opens) : after.Opens :=
  ⟨binds.operationType ▸ opens.operationType,
    binds.commandDescriptor ▸ opens.bound⟩

theorem Continues.bindsAs (continues : before.Continues after)
    (opens : before.Opens) : before.BindsAs after := by
  obtain ⟨descriptor, held⟩ := Option.isSome_iff_exists.mp opens.bound
  refine ⟨continues.entityId, ?_, ?_⟩
  · exact continues.operationType.resolve_right fun renamed =>
      opens.operationType renamed.1
  · rw [held]
    exact continues.commandDescriptor descriptor held

theorem pending_opens
    {operationType : OperationType} (kind : operationType ≠ .pairing)
    (operationId entityId : String) (nowMs : Int) (descriptor : String) :
    (pending operationId operationType entityId nowMs descriptor).Opens :=
  ⟨kind, rfl⟩

theorem Continues.trans (one : first.Continues second)
    (two : second.Continues third) : first.Continues third where
  operationId := two.operationId.trans one.operationId
  entityId := two.entityId.trans one.entityId
  operationType := by
    rcases one.operationType with same | ⟨older, renamed⟩
    · rw [← same]
      exact two.operationType
    · rcases two.operationType with same | ⟨other, _⟩
      · exact .inr ⟨older, same.trans renamed⟩
      · rw [renamed] at other
        cases other
  commandDescriptor descriptor held :=
    two.commandDescriptor descriptor (one.commandDescriptor descriptor held)
  reopens ended := two.reopens (one.reopens ended)

theorem Continues.of_running
    (operationId : after.operationId = before.operationId)
    (entityId : after.entityId = before.entityId)
    (operationType : after.operationType = before.operationType)
    (commandDescriptor : after.commandDescriptor = before.commandDescriptor)
    (reopens : before.state.isTerminal = true → after.state.isTerminal = true) :
    before.Continues after :=
  ⟨operationId, entityId, .inl operationType,
    fun _ held => commandDescriptor.trans held, reopens⟩

theorem Continues.refl (operation : DurableOperation) :
    operation.Continues operation :=
  .of_running rfl rfl rfl rfl id

theorem beginAttempt_continues (nowMs : Int)
    (running : operation.state.isTerminal = false) :
    operation.Continues (operation.beginAttempt nowMs) :=
  .of_running rfl rfl rfl rfl fun ended => by
    rw [running] at ended
    cases ended

theorem scheduleRetry_continues (retryAt : Int) (errorCode : RuntimeErrorCode)
    (nowMs : Int) (running : operation.state.isTerminal = false) :
    operation.Continues (operation.scheduleRetry retryAt errorCode nowMs) :=
  .of_running rfl rfl rfl rfl fun ended => by
    rw [running] at ended
    cases ended

theorem finish_continues (operation : DurableOperation) {state : OperationState}
    (errorCode : Option RuntimeErrorCode) (nowMs : Int)
    (ended : state.isTerminal = true) :
    operation.Continues (operation.finish state errorCode nowMs) :=
  .of_running rfl rfl rfl rfl fun _ => ended

end DurableOperation

namespace Ledger

variable {operations : Operations}

inductive Entered (revives : Prop) (operations : Operations) : Operations → Prop
  | opened {after : DurableOperation}
      (free : operations after.operationId = none)
      (opens : after.Opens)
      (idle : ∀ messageId, after.Delivers messageId →
        ¬ operations.Open messageId) :
      Entered revives operations
        (Function.update operations after.operationId (some after))
  | continued {before after : DurableOperation}
      (found : operations before.operationId = some before)
      (continues : before.Continues after)
      (unfinished : before.state.isTerminal = true → revives) :
      Entered revives operations
        (Function.update operations after.operationId (some after))

def Operations.Keyed (operations : Operations) : Prop :=
  ∀ key operation, operations key = some operation →
    operation.operationId = key

theorem Entered.of_chosen (keyed : operations.Keyed)
    (looked : operations fresh.operationId = found) (opens : fresh.Opens)
    (idle : found = none → ∀ messageId, fresh.Delivers messageId →
      ¬ operations.Open messageId)
    (continues : (found.getD fresh).Continues after)
    (unfinished : (found.getD fresh).state.isTerminal = false) :
    Entered revives operations
      (update operations after.operationId (some after)) := by
  cases found with
  | some before =>
    rw [Option.getD_some] at continues unfinished
    refine .continued ?_ continues fun ended => ?_
    · rw [keyed _ _ looked]
      exact looked
    · rw [unfinished] at ended
      cases ended
  | none =>
    rw [Option.getD_none] at continues
    have kind : after.operationType = fresh.operationType :=
      continues.operationType.resolve_right fun older =>
        opens.operationType older.1
    refine .opened ?_ ⟨?_, ?_⟩ ?_
    · rw [continues.operationId]
      exact looked
    · rw [kind]
      exact opens.operationType
    · obtain ⟨descriptor, held⟩ := Option.isSome_iff_exists.mp opens.bound
      rw [continues.commandDescriptor descriptor held]
      rfl
    · intro messageId delivers
      refine idle rfl messageId ⟨?_, ?_⟩
      · rw [← kind]
        exact delivers.1
      · rw [← continues.entityId]
        exact delivers.2

theorem Entered.final (entered : Entered revives operations changed)
    (spared : ¬ revives) (found : operations key = some operation)
    (terminal : operation.state.isTerminal = true) :
    changed key = some operation := by
  cases entered with
  | opened free =>
    rw [update_of_ne, found]
    rintro rfl
    rw [free] at found
    cases found
  | continued stored continues unfinished =>
    rw [update_of_ne, found]
    rintro rfl
    rw [continues.operationId, stored] at found
    cases found
    exact spared (unfinished terminal)

theorem Operations.forall_update {property : String → DurableOperation → Prop}
    (every : ∀ key operation, operations key = some operation →
      property key operation) (written : property after.operationId after)
    (key : String) (operation : DurableOperation)
    (found : update operations after.operationId (some after) key =
      some operation) : property key operation := by
  by_cases same : key = after.operationId
  · subst same
    rw [update_self] at found
    cases found
    exact written
  · rw [update_of_ne same] at found
    exact every key operation found

theorem Entered.keyed (keyed : operations.Keyed)
    (entered : Entered revives operations changed) : changed.Keyed := by
  cases entered with
  | opened | continued => exact Operations.forall_update keyed rfl

theorem Entered.ordered (ordered : operations.Ordered)
    (entered : Entered revives operations changed) : changed.Ordered := by
  cases entered with
  | opened free opens idle =>
    refine ordered.update ?_
    intro messageId delivers _ key operation found own running
    exact absurd ⟨key, operation, found, own, running⟩ (idle messageId delivers)
  | @continued before after stored continues unfinished =>
    refine ordered.update ?_
    intro messageId delivers unended key operation found own running
    have kind : after.operationType = before.operationType := by
      refine continues.operationType.resolve_right fun renamed => ?_
      have delivery := delivers.1
      rw [renamed.2] at delivery
      cases delivery
    have same : before.Delivers messageId :=
      ⟨kind.symm.trans delivers.1, continues.entityId.symm.trans delivers.2⟩
    have ongoing : before.state.isTerminal = false := by
      cases ended : before.state.isTerminal with
      | false => rfl
      | true =>
        rw [continues.reopens ended] at unended
        cases unended
    rw [continues.operationId]
    exact ordered.single found own running stored same ongoing

def Operations.Bound (operations : Operations) : Prop :=
  ∀ key operation, operations key = some operation → operation.Opens

theorem Entered.bindsAs
    (bound : operations.Bound) (entered : Entered revives operations changed)
    (found : operations key = some operation) :
    ∃ later, changed key = some later ∧ operation.BindsAs later := by
  cases entered with
  | @opened after free =>
    refine ⟨operation, ?_, .refl operation⟩
    rw [update_of_ne, found]
    rintro rfl
    rw [free] at found
    cases found
  | @continued before after stored continues unfinished =>
    by_cases same : key = after.operationId
    · subst same
      refine ⟨after, update_self .., ?_⟩
      rw [continues.operationId, stored] at found
      cases found
      exact continues.bindsAs (bound _ _ stored)
    · refine ⟨operation, ?_, .refl operation⟩
      rw [update_of_ne same, found]

theorem Entered.bound (bound : operations.Bound)
    (entered : Entered revives operations changed) : changed.Bound := by
  cases entered with
  | opened free opens => exact Operations.forall_update bound opens
  | continued stored continues =>
    have opens := bound _ _ stored
    exact Operations.forall_update bound ((continues.bindsAs opens).opens opens)

section

open Relation

/-! What one write keeps is kept by a call, which makes up to two of them. -/

variable (worked : ReflTransGen (Entered revives) operations changed)

include worked

theorem keyed_of_worked (keyed : operations.Keyed) : changed.Keyed := by
  induction worked with
  | refl => exact keyed
  | tail _ entered induction => exact entered.keyed induction

theorem final_of_worked
    (spared : ¬ revives) (found : operations key = some operation)
    (terminal : operation.state.isTerminal = true) :
    changed key = some operation := by
  induction worked with
  | refl => exact found
  | tail _ entered induction => exact entered.final spared induction terminal

theorem ordered_of_worked (ordered : operations.Ordered) : changed.Ordered := by
  induction worked with
  | refl => exact ordered
  | tail _ entered induction => exact entered.ordered induction

theorem bound_of_worked (bound : operations.Bound) : changed.Bound := by
  induction worked with
  | refl => exact bound
  | tail _ entered induction => exact entered.bound induction

theorem bindsAs_of_worked
    (bound : operations.Bound) (found : operations key = some operation) :
    ∃ later, changed key = some later ∧ operation.BindsAs later := by
  induction worked with
  | refl => exact ⟨operation, found, .refl operation⟩
  | tail worked entered induction =>
    obtain ⟨middle, stored, first⟩ := induction
    obtain ⟨later, kept, second⟩ :=
      entered.bindsAs (bound_of_worked worked bound) stored
    exact ⟨later, kept, first.trans second⟩

end

end Ledger

end Torchat
