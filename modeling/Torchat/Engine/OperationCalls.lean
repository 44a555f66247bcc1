import Torchat.Engine.LedgerMoves
import Torchat.Runtime.OperationBook

namespace Torchat

open Foundation Storage Ledger

/-- A call on the operations, with everything it is given. -/
inductive OperationCall
  | beginPairing
      (operationId pairingId descriptor : String) (nowMs : Int)
  | completePairing (operationId pairingId : String) (nowMs : Int)
  | retryPairing
      (operationId pairingId : String) (errorCode : RuntimeErrorCode)
      (nowMs : Int)
  | failPairing
      (operationId pairingId : String) (errorCode : RuntimeErrorCode)
      (nowMs : Int)
  | beginMessageDelivery
      (requestedId : String) (messageId : Uuid) (descriptor : String)
      (nowMs : Int)
  | completeMessageDelivery (messageId : Uuid) (nowMs : Int)
  | retryMessageDelivery
      (messageId : Uuid) (retryAt : Int) (errorCode : RuntimeErrorCode)
      (nowMs : Int)
  | failMessageDelivery
      (messageId : Uuid) (errorCode : RuntimeErrorCode) (nowMs : Int)
  | requestRelationshipRemoval
      (operationId descriptor : String) (installationId : InstallationId)
      (preserveHistory : Bool) (removalId : String) (removedAt : Int)

variable {operation : DurableOperation}

theorem DurableOperation.bindDescriptor_continues
    (done : operation.bindDescriptor descriptor = .ok bound) :
    operation.Continues bound := by
  obtain ⟨operationId, operationType, entityId, state⟩ :=
    Runtime.bindDescriptor_ok done
  refine ⟨operationId, entityId, .inl operationType, ?_, ?_⟩
  · intro held given
    simp only [DurableOperation.bindDescriptor, given] at done
    split at done
    · cases done
      exact given
    · cases done
  · rw [state]
    exact id

namespace Runtime

section

variable {property : Database → Prop}

theorem reads_end {program : Call α} {rest : α → Call β}
    [kept : program.Keeps (Within Untouched)] (stands : runtime.database = base)
    (here : property base)
    (continued : ∀ value next, program runtime = (.ok value, next) →
      next.database = base → property (rest value next).2.database) :
    property ((program >>= rest) runtime).2.database := by
  refine bind_end (fun final : Runtime => property final.database) ?_ ?_
  · rw [(kept.run runtime).data, stands]
    exact here
  · intro value next ran
    have same := (kept.run runtime).data
    rw [ran] at same
    exact continued value next ran (same.trans stands)

theorem write_end (stands : runtime.database = base) (here : property base)
    (written : ∀ database, statement base = .ok database → property database) :
    property (write statement runtime).2.database := by
  unfold write
  refine reads_end stands here fun _ next _ same => ?_
  have executed : (onDatabase (execute statement) next).2.database =
      (execute statement next.database).2 := rfl
  rw [executed, same, execute]
  split
  · rename_i database done
    exact written database done
  · exact here

end

/-! ## What one call does -/

section

open Relation

variable {runtime : Runtime}

abbrev Worked (revives : Prop) (base after : Database) : Prop :=
  ReflTransGen (Ledger.Entered revives) base.ledger.operations
    after.ledger.operations

theorem persistOperation_worked (stands : runtime.database = base)
    (entered : Entered revives base.ledger.operations
      (Function.update base.ledger.operations operation.operationId
        (some operation))) :
    Worked revives base (persistOperation operation runtime).2.database := by
  refine write_end stands .refl fun database done => ?_
  rw [Worked, Database.putOperation_ledger done]
  exact .single entered

variable {nowMs : Int}

theorem operationById_found (stands : runtime.database = base)
    (ran : operationById operationId runtime = (.ok found, next)) :
    base.ledger.operations operationId = found := by
  rw [(operationById_ok ran).1, stands]
  rfl

theorem refuseTerminal_running (unfinished : operation.state ≠ .completed)
    (passed : refuseTerminal operation message runtime = (.ok value, next)) :
    operation.state.isTerminal = false := by
  unfold refuseTerminal at passed
  split at passed
  · cases passed
  · rename_i open'
    rw [not_or] at open'
    exact isTerminal_of_ne unfinished open'.1 open'.2

theorem ofExcept_ok (ran : ofExcept computed runtime = (.ok value, next)) :
    computed = .ok value := by
  cases computed with
  | error error => cases ran
  | ok result =>
    cases ran
    rfl

theorem ensurePairingEntity_ok
    (done : ensurePairingEntity operation pairingId = .ok ()) :
    (operation.operationType = .pairing ∨
      operation.operationType = .pairingCancellation) ∧
      operation.entityId = pairingId := by
  unfold ensurePairingEntity at done
  split at done
  · rename_i belongs
    exact belongs
  · cases done

/-- Whatever an open operation goes on to be may be written. -/
def Enters (revives : Prop) (base : Database) (chosen : DurableOperation) : Prop :=
  ∀ {later : DurableOperation}, chosen.Continues later →
    chosen.state.isTerminal = false →
    Ledger.Entered revives base.ledger.operations
      (Function.update base.ledger.operations later.operationId (some later))

theorem attempt_worked {chosen bound after : DurableOperation}
    {message : String} (stands : runtime.database = base)
    (enters : Enters revives base chosen)
    (binds : chosen.Continues bound) (state : bound.state = chosen.state)
    (attempted : bound.state.isTerminal = false → bound.Continues after) :
    Worked revives base ((if bound.state = .completed then Program.pure ()
        else do
          refuseTerminal bound message
          persistOperation after) runtime).2.database := by
  split
  · rw [Program.pure, stands]
  · rename_i unfinished
    refine reads_end stands .refl fun _ next passed same => ?_
    have running := refuseTerminal_running unfinished passed
    exact persistOperation_worked same
      (enters (binds.trans (attempted running)) (state ▸ running))

theorem pairingOperation_found (stands : runtime.database = base)
    (ran : pairingOperation operationId pairingId runtime =
      (.ok operation, next)) :
    base.ledger.operations operationId = some operation ∧
      ensurePairingEntity operation pairingId = .ok () := by
  unfold pairingOperation at ran
  obtain ⟨found, first, looked, ran⟩ := bind_ok ran
  rw [operationById_found stands looked]
  cases found with
  | none => cases ran
  | some stored =>
    obtain ⟨_, _, passed, ran⟩ := bind_ok ran
    cases passed
    obtain ⟨_, ensured, ran⟩ := ofExcept_bind_ok ran
    cases ran
    exact ⟨rfl, ensured⟩

theorem continue_worked (stands : runtime.database = base)
    (keyed : Operations.Keyed base.ledger.operations)
    (found : base.ledger.operations key = some before)
    (continues : before.Continues after)
    (unfinished : before.state.isTerminal = true → revives) :
    Worked revives base (persistOperation after runtime).2.database := by
  refine persistOperation_worked stands (.continued ?_ continues unfinished)
  rw [keyed key before found]
  exact found

theorem persistOperation_bind_worked {rest : Unit → Call α}
    (stands : runtime.database = base)
    (entered : Entered revives base.ledger.operations
      (Function.update base.ledger.operations operation.operationId
        (some operation)))
    (continued : ∀ next : Runtime,
      next.database.ledger.operations = Function.update base.ledger.operations
        operation.operationId (some operation) →
      Worked revives next.database (rest () next).2.database) :
    Worked revives base
      ((persistOperation operation >>= rest) runtime).2.database := by
  refine bind_end (fun final : Runtime =>
    Worked revives base final.database) (persistOperation_worked stands entered) ?_
  intro _ next ran
  have written := congrArg operations (persistOperation_ledger ran)
  rw [stands] at written
  refine .head ?_ (continued next written)
  rw [written]
  exact entered

theorem removeRelationshipWithId_operations {database removed : Database}
    (removing : Database.removeRelationshipWithId contact removedAt
      preserve removalId epoch database = .ok removed) :
    removed.ledger.operations = database.ledger.operations := by
  obtain ⟨_, rfl⟩ := Database.removeRelationshipWithId_eq_ok.mp removing
  split
  · rfl
  · rw [Database.locallyRemoved_ledger]
    split
    · rfl
    · rfl

variable (keyed : Operations.Keyed runtime.database.ledger.operations)

include keyed

theorem featureBeginPairingOperation_worked :
    Worked revives runtime.database
      (featureBeginPairingOperation operationId pairingId descriptor nowMs
        runtime).2.database := by
  unfold featureBeginPairingOperation
  refine reads_end rfl .refl fun _ first _ one => ?_
  refine reads_end one .refl fun found second looked two => ?_
  have looked := operationById_found one looked
  refine reads_end two .refl fun _ third ensuring three => ?_
  refine reads_end three .refl fun bound fourth binding four => ?_
  have binding := ofExcept_ok binding
  refine attempt_worked four (fun continues running => ?_)
    (DurableOperation.bindDescriptor_continues binding)
    (bindDescriptor_ok binding).2.2.2 fun running => ?_
  · refine .of_chosen keyed looked
      (DurableOperation.pending_opens (by decide) ..) ?_ continues running
    rintro _ messageId ⟨kind, _⟩
    cases kind
  · refine .trans ?_ (DurableOperation.beginAttempt_continues nowMs running)
    have paired := ensurePairingEntity_ok (ofExcept_ok ensuring)
    rw [← (bindDescriptor_ok binding).2.1] at paired
    refine ⟨rfl, rfl, ?_, fun _ held => held, id⟩
    rcases paired.1 with older | same
    · exact .inr ⟨older, rfl⟩
    · exact .inl same.symm

theorem featureCompletePairingOperation_worked
    (late : ∀ operation,
      runtime.database.ledger.operations operationId = some operation →
      ensurePairingEntity operation pairingId = .ok () →
      operation.state = .cancelled ∨ operation.state = .failedPermanent →
      revives) :
    Worked revives runtime.database
      (featureCompletePairingOperation operationId pairingId nowMs
        runtime).2.database := by
  unfold featureCompletePairingOperation
  refine reads_end rfl .refl fun operation next looked same => ?_
  obtain ⟨found, ensured⟩ := pairingOperation_found rfl looked
  split
  · rw [run_pure, same]
  · rename_i unfinished
    refine continue_worked same keyed found
      (DurableOperation.finish_continues operation none nowMs rfl) fun ended => ?_
    refine late operation found ensured ?_
    cases state : operation.state with
    | cancelled => exact .inl rfl
    | failedPermanent => exact .inr rfl
    | completed => exact absurd state unfinished
    | pending | running | waitingForRetry =>
      rw [state] at ended
      cases ended

theorem featureFailPairingOperation_worked :
    Worked revives runtime.database
      (featureFailPairingOperation operationId pairingId errorCode nowMs
        runtime).2.database := by
  unfold featureFailPairingOperation
  refine reads_end rfl .refl fun operation next looked same => ?_
  obtain ⟨found, _⟩ := pairingOperation_found rfl looked
  split
  · rw [run_pure, same]
  · rename_i running
    exact continue_worked same keyed found
      (DurableOperation.finish_continues operation _ nowMs rfl)
      fun ended => absurd ended running

theorem featureRetryPairingOperation_worked :
    Worked revives runtime.database
      (featureRetryPairingOperation operationId pairingId errorCode nowMs
        runtime).2.database := by
  unfold featureRetryPairingOperation
  refine reads_end rfl .refl fun operation next looked same => ?_
  obtain ⟨found, _⟩ := pairingOperation_found rfl looked
  split
  · rw [run_pure, same]
  · rename_i running
    refine reads_end same .refl fun percent later _ still => ?_
    exact continue_worked still keyed found
      (DurableOperation.scheduleRetry_continues _ errorCode nowMs
        (Bool.not_eq_true _ ▸ running))
      fun ended => absurd ended running

theorem updateMessageDelivery_worked
    (continues : ∀ operation : DurableOperation,
      operation.state.isTerminal = false → operation.Continues (change operation)) :
    Worked revives runtime.database
      (updateMessageDelivery messageId change runtime).2.database := by
  unfold updateMessageDelivery
  refine reads_end rfl .refl fun active next searched same => ?_
  cases activeMessageDelivery_ok searched
  rcases openDelivery_cases runtime.database messageId with
    ⟨closed, _⟩ | ⟨key, operation, open', found, _, running⟩
  · rw [closed]
    change Worked revives runtime.database next.database
    rw [same]
  · rw [open']
    refine continue_worked same keyed found (continues operation running) ?_
    rw [running]
    nofun

theorem beginMessageDelivery_worked :
    Worked revives runtime.database
      (beginMessageDelivery operationId messageId descriptor nowMs
        runtime).2.database := by
  unfold beginMessageDelivery
  refine reads_end rfl .refl fun _ first _ one => ?_
  refine reads_end one .refl fun requested second looked two => ?_
  have looked := operationById_found one looked
  refine reads_end two .refl fun active third searched three => ?_
  refine reads_end three .refl fun _ fourth ensuring four => ?_
  have enters : Enters revives runtime.database
      ((requested.or active).getD (.pending operationId .messageDelivery
        messageId.text nowMs descriptor)) := by
    intro later continues running
    cases requested with
    | some before =>
      exact .of_chosen keyed looked
        (DurableOperation.pending_opens (by decide) ..) nofun continues running
    | none =>
      cases activeMessageDelivery_ok searched
      rw [two] at continues running
      rcases openDelivery_cases runtime.database messageId with
        ⟨closed, idle⟩ | ⟨key, before, open', stored, _⟩
      · rw [closed] at continues running
        refine .of_chosen keyed looked
          (DurableOperation.pending_opens (by decide) ..) ?_ continues running
        intro _ other delivers
        rwa [Uuid.text_injective (delivers.2.symm : other.text = messageId.text)]
      · rw [open'] at continues running
        rw [← keyed key before stored] at stored
        refine .continued stored continues fun ended => ?_
        exact absurd ended (Bool.not_eq_true _ ▸ running)
  generalize (requested.or active).getD (.pending operationId .messageDelivery
    messageId.text nowMs descriptor) = chosen at enters
  split
  · refine reads_end four .refl fun bound fifth binding five => ?_
    have binding := ofExcept_ok binding
    exact attempt_worked five enters
      (DurableOperation.bindDescriptor_continues binding)
      (bindDescriptor_ok binding).2.2.2
      (DurableOperation.beginAttempt_continues nowMs)
  · exact attempt_worked four enters (.refl _) rfl
      (DurableOperation.beginAttempt_continues nowMs)

theorem requestRelationshipRemoval_worked {preserve : Bool}
    {removalId : String} :
    Worked revives runtime.database
      (requestRelationshipRemoval operationId descriptor contact preserve
        removalId removedAt runtime).2.database := by
  unfold requestRelationshipRemoval
  refine reads_end rfl .refl fun _ first _ one => ?_
  refine reads_end one .refl fun _ second _ two => ?_
  refine reads_end two .refl fun _ third _ three => ?_
  refine reads_end three .refl fun found fourth looked four => ?_
  have looked := operationById_found three looked
  split
  · exact four ▸ .refl
  · refine reads_end four .refl fun bound fifth binding five => ?_
    have binding := ofExcept_ok binding
    split
    · exact five ▸ .refl
    · rename_i unfinished
      refine reads_end five .refl fun _ sixth passed six => ?_
      have running := refuseTerminal_running unfinished passed
      have continues := (DurableOperation.bindDescriptor_continues binding).trans
        (DurableOperation.beginAttempt_continues removedAt running)
      have entered : Entered revives runtime.database.ledger.operations
          (Function.update runtime.database.ledger.operations
            (bound.beginAttempt removedAt).operationId
            (some (bound.beginAttempt removedAt))) := by
        refine .of_chosen keyed looked
          (DurableOperation.pending_opens (by decide) ..) ?_ continues ?_
        · rintro _ messageId ⟨kind, _⟩
          cases kind
        · rw [← (bindDescriptor_ok binding).2.2.2]
          exact running
      refine persistOperation_bind_worked six entered fun next stored => ?_
      refine reads_end rfl .refl fun epoch seventh _ seven => ?_
      refine bind_end (fun final : Runtime =>
        Worked revives next.database final.database) ?_ ?_
      · refine write_end seven .refl fun database removing => ?_
        rw [Worked, removeRelationshipWithId_operations removing]
      · intro _ eighth ran
        obtain ⟨database, removing, rfl⟩ := write_ok ran
        rw [seven] at removing
        have same : database.ledger.operations = Function.update _ _ _ :=
          (removeRelationshipWithId_operations removing).trans stored
        rw [bind_pure_end, Worked, stored, ← same]
        refine continue_worked rfl (same ▸ entered.keyed keyed)
          (by rw [same, Function.update_self])
          (DurableOperation.finish_continues _ none removedAt rfl) nofun

end

end Runtime

namespace OperationCall

def program : OperationCall → Runtime.Call Unit
  | beginPairing operationId pairingId descriptor nowMs =>
    Runtime.featureBeginPairingOperation operationId pairingId descriptor nowMs
  | completePairing operationId pairingId nowMs =>
    Runtime.featureCompletePairingOperation operationId pairingId nowMs
  | retryPairing operationId pairingId errorCode nowMs =>
    Runtime.featureRetryPairingOperation operationId pairingId errorCode nowMs
  | failPairing operationId pairingId errorCode nowMs =>
    Runtime.featureFailPairingOperation operationId pairingId errorCode nowMs
  | beginMessageDelivery requestedId messageId descriptor nowMs =>
    Runtime.beginMessageDelivery requestedId messageId descriptor nowMs
  | completeMessageDelivery messageId nowMs =>
    Runtime.completeMessageDelivery messageId nowMs
  | retryMessageDelivery messageId retryAt errorCode nowMs =>
    Runtime.retryMessageDelivery messageId retryAt errorCode nowMs
  | failMessageDelivery messageId errorCode nowMs =>
    Runtime.failMessageDelivery messageId errorCode nowMs
  | requestRelationshipRemoval operationId descriptor installationId
      preserveHistory removalId removedAt => do
        let _ ← Runtime.requestRelationshipRemoval operationId descriptor
          installationId preserveHistory removalId removedAt
        return

/-- The runtime takes one call after the other. What a failed call wrote stays
here: nothing relies on its transaction being rolled back. -/
def machine (start : Runtime) : Machine Runtime OperationCall where
  init := start
  enabled _ _ := True
  next runtime call := (call.program runtime).2

def Revives (runtime : Runtime) : OperationCall → Prop
  | completePairing operationId pairingId _ =>
    ∃ operation,
      runtime.database.durableOperations.lookup operationId = some operation ∧
      Runtime.ensurePairingEntity operation pairingId = .ok () ∧
      (operation.state = .cancelled ∨ operation.state = .failedPermanent)
  | _ => False

variable {runtime : Runtime}

section

variable (keyed : Operations.Keyed runtime.database.ledger.operations)
  (call : OperationCall)

include keyed

theorem program_worked :
    Runtime.Worked (call.Revives runtime) runtime.database
      (call.program runtime).2.database := by
  cases call with
  | beginPairing =>
    exact Runtime.featureBeginPairingOperation_worked keyed
  | completePairing =>
    rw [program]
    exact Runtime.featureCompletePairingOperation_worked keyed
      fun operation found ensured late => ⟨operation, found, ensured, late⟩
  | retryPairing =>
    rw [program]
    exact Runtime.featureRetryPairingOperation_worked keyed
  | failPairing =>
    rw [program]
    exact Runtime.featureFailPairingOperation_worked keyed
  | beginMessageDelivery =>
    rw [program]
    exact Runtime.beginMessageDelivery_worked keyed
  | completeMessageDelivery messageId nowMs =>
    exact Runtime.updateMessageDelivery_worked keyed fun operation _ =>
      operation.finish_continues none nowMs rfl
  | retryMessageDelivery messageId retryAt errorCode nowMs =>
    exact Runtime.updateMessageDelivery_worked keyed fun _ =>
      DurableOperation.scheduleRetry_continues retryAt errorCode nowMs
  | failMessageDelivery messageId errorCode nowMs =>
    exact Runtime.updateMessageDelivery_worked keyed fun operation _ =>
      operation.finish_continues _ nowMs rfl
  | requestRelationshipRemoval =>
    simp only [program, bind_pure_end]
    exact Runtime.requestRelationshipRemoval_worked keyed

theorem next_keyed :
    Operations.Keyed (call.program runtime).2.database.ledger.operations :=
  keyed_of_worked (program_worked keyed call) keyed

end

def timely (start : Runtime) : Machine Runtime OperationCall :=
  (machine start).restrict fun runtime call => ¬ call.Revives runtime

/-- In a run without late completions of pairings, an operation that is terminal
stays as it is, whatever is called. -/
theorem terminal_operations_are_final
    {start : Runtime}
    (keyed : ∀ key operation,
      start.database.durableOperations.lookup key = some operation →
      operation.operationId = key)
    (reached : (timely start).Reachable runtime)
    {operationId : String} {operation : DurableOperation}
    (found : runtime.database.durableOperations.lookup operationId =
      some operation)
    (terminal : operation.state.isTerminal = true)
    {calls : List OperationCall} (admitted : (timely start).Admits runtime calls) :
    ((timely start).run runtime calls).database.durableOperations.lookup
      operationId = some operation := by
  have keyed : Ledger.Operations.Keyed runtime.database.ledger.operations :=
    reached.invariant (fun state =>
      Ledger.Operations.Keyed state.database.ledger.operations) keyed
      fun _ call keyed _ => next_keyed keyed call
  refine (admitted.invariant (fun state =>
    Ledger.Operations.Keyed state.database.ledger.operations ∧
      state.database.ledger.operations operationId = some operation)
    ?_ ⟨keyed, found⟩).2
  rintro state call ⟨keyed, found⟩ ⟨_, prompt⟩
  exact ⟨next_keyed keyed call,
    Ledger.final_of_worked (program_worked keyed call) prompt found terminal⟩

def unused : Runtime := ⟨.empty, .new, .initial (.calm 7)⟩

def failedCancellation : List OperationCall :=
  [beginPairing "operation" "pairing" "cancel" 1,
    failPairing "operation" "pairing" .transportUnavailable 2]

def afterFailure : List OperationCall :=
  [retryPairing "operation" "pairing" .internal 3,
    completeMessageDelivery 5 4]

def failedOperation : DurableOperation :=
  ⟨"operation", .pairingCancellation, "pairing", .failedPermanent, 1, 2, 1, none,
    some .transportUnavailable, some "cancel"⟩

theorem failed_cancellation_stays_failed :
    ((timely unused).run ((timely unused).run unused failedCancellation)
      afterFailure).database.durableOperations.lookup "operation" =
        some failedOperation := by
  have keyed : ∀ key operation,
      unused.database.durableOperations.lookup key = some operation →
        operation.operationId = key := by
    intro key operation found
    cases found
  have first : (timely unused).Admits unused failedCancellation :=
    ⟨⟨trivial, id⟩, ⟨trivial, id⟩, trivial⟩
  have reached : (timely unused).Reachable
      ((timely unused).run unused failedCancellation) :=
    .run .init failedCancellation first
  have found : ((timely unused).run unused
      failedCancellation).database.durableOperations.lookup "operation" =
        some failedOperation := by
    decide +kernel
  refine terminal_operations_are_final keyed reached found rfl ?_
  exact ⟨⟨trivial, id⟩, ⟨trivial, id⟩, trivial⟩

/-- Its completion comes late and is stored. -/
theorem late_completion_revives_failed_cancellation :
    (((machine unused).run unused
        failedCancellation).database.durableOperations.lookup "operation").map
          DurableOperation.state = some .failedPermanent ∧
      (((machine unused).run unused (failedCancellation ++
        [completePairing "operation" "pairing" 3]
        )).database.durableOperations.lookup "operation").map
          DurableOperation.state = some .completed := by
  decide +kernel

end OperationCall

end Torchat
