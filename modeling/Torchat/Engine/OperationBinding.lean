import Torchat.Engine.OperationCalls
import Torchat.Engine.Quiet

namespace Torchat

open Foundation Storage

namespace Runtime

theorem operationById_blank (blank : trim operationId = "") :
    operationById operationId runtime =
      (.err (.invalidParams "OperationId must not be empty"), runtime) := by
  unfold operationById requireText
  rw [if_pos blank]
  rfl

theorem operationById_quiet
    (quiet : runtime.host.world.Quiet) (named : trim operationId ≠ "") :
    operationById operationId runtime =
      (.ok (runtime.database.durableOperations.lookup operationId),
        runtime.tick) := by
  unfold operationById requireText
  rw [if_neg named]
  exact query_quiet quiet _

theorem activeMessageDelivery_quiet
    (quiet : runtime.host.world.Quiet) (messageId : Uuid) :
    activeMessageDelivery messageId runtime =
      (.ok (runtime.database.openDelivery messageId), runtime.tick) := by
  unfold activeMessageDelivery
  rw [run_bind_ok (query_quiet quiet _)]
  rfl

end Runtime

namespace OperationCall

variable {runtime : Runtime}

/-! ## What a call is bound to -/

/-- The operation a call names, with the kinds of work, the entity and the command
the call is for. -/
structure Binding where
  operationId : String
  operationTypes : List OperationType
  entityId : String
  descriptor : Option String

def Binding.Differs (binding : Binding) (operation : DurableOperation) : Prop :=
  operation.operationType ∉ binding.operationTypes ∨
    operation.entityId ≠ binding.entityId ∨
    ∃ existing ∈ operation.commandDescriptor,
      ∃ descriptor ∈ binding.descriptor, existing ≠ descriptor

def binding : OperationCall → Option Binding
  | beginPairing operationId pairingId descriptor _ =>
    some ⟨operationId, [.pairing, .pairingCancellation], pairingId,
      some descriptor⟩
  | completePairing operationId pairingId _
  | retryPairing operationId pairingId _ _
  | failPairing operationId pairingId _ _ =>
    some ⟨operationId, [.pairing, .pairingCancellation], pairingId, none⟩
  | beginMessageDelivery requestedId messageId descriptor _ =>
    some ⟨requestedId, [.messageDelivery], messageId.text, some descriptor⟩
  | requestRelationshipRemoval operationId descriptor installationId _ _ _ =>
    some ⟨operationId, [.relationshipRemoval], installationId, some descriptor⟩
  | completeMessageDelivery .. | retryMessageDelivery ..
  | failMessageDelivery .. => none

def Rebinds (runtime : Runtime) (call : OperationCall) : Prop :=
  ∃ binding ∈ call.binding, ∃ operation,
    runtime.database.durableOperations.lookup binding.operationId =
      some operation ∧ binding.Differs operation

def texts : OperationCall → List String
  | beginPairing operationId _ descriptor _ => [descriptor, operationId]
  | completePairing operationId _ _ | retryPairing operationId _ _ _
  | failPairing operationId _ _ _ => [operationId]
  | beginMessageDelivery requestedId _ descriptor _ => [descriptor, requestedId]
  | requestRelationshipRemoval operationId descriptor installationId _ removalId
      _ => [installationId, removalId, descriptor, operationId]
  | completeMessageDelivery .. | retryMessageDelivery ..
  | failMessageDelivery .. => []

def Refuses {α : Type} (program : Runtime.Call α) (runtime : Runtime)
    (texts : List String) : Prop :=
  ∃ error, (program runtime).1 = .err error ∧
    (program runtime).2.database = runtime.database ∧
    if ∀ text ∈ texts, trim text ≠ "" then ∃ message, error = .conflict message
    else ∃ message, error = .invalidParams message

namespace Refuses

variable {texts : List String}

theorem requireText (refuses : Refuses (rest ()) runtime texts) :
    Refuses (Runtime.requireText text message >>= rest) runtime
      (text :: texts) := by
  rw [Refuses, run_bind, Runtime.requireText]
  by_cases blank : trim text = ""
  · rw [if_pos blank]
    refine ⟨_, rfl, rfl, ?_⟩
    rw [if_neg fun shown => shown text List.mem_cons_self blank]
    exact ⟨message, rfl⟩
  · rw [if_neg blank]
    obtain ⟨error, answered, unwritten, kind⟩ := refuses
    refine ⟨error, answered, unwritten, ?_⟩
    simpa only [List.forall_mem_cons, ne_eq, blank, not_false_eq_true, true_and]
      using kind

variable {program : Runtime.Call α} {computed : RuntimeResult α}

theorem of_conflict (ran : program runtime = (.err (.conflict message), next))
    (same : next.database = runtime.database) : Refuses program runtime [] := by
  refine ⟨.conflict message, by rw [ran], by rw [ran]; exact same, ?_⟩
  rw [if_pos nofun]
  exact ⟨message, rfl⟩

theorem operationById (quiet : runtime.host.world.Quiet)
    (refuses : Refuses
      (rest (runtime.database.durableOperations.lookup operationId))
      runtime.tick []) :
    Refuses (Runtime.operationById operationId >>= rest) runtime
      [operationId] := by
  obtain ⟨error, answered, unwritten, kind⟩ := refuses
  rw [if_pos nofun] at kind
  by_cases blank : trim operationId = ""
  · have ran : (Runtime.operationById operationId >>= rest) runtime =
        (.err (.invalidParams "OperationId must not be empty"), runtime) :=
      run_bind_err (Runtime.operationById_blank blank)
    refine ⟨_, by rw [ran], by rw [ran], ?_⟩
    rw [if_neg fun shown => shown operationId List.mem_cons_self blank]
    exact ⟨_, rfl⟩
  · have ran : (Runtime.operationById operationId >>= rest) runtime =
        rest (runtime.database.durableOperations.lookup operationId)
          runtime.tick :=
      run_bind_ok (Runtime.operationById_quiet quiet blank)
    refine ⟨error, by rw [ran]; exact answered, by rw [ran]; exact unwritten, ?_⟩
    rw [if_pos (by simpa using blank)]
    exact kind

theorem bind (refuses : Refuses program runtime texts) :
    Refuses (program >>= rest) runtime texts := by
  obtain ⟨error, answered, unwritten, kind⟩ := refuses
  rcases ran : program runtime with ⟨outcome, next⟩
  rw [ran] at answered unwritten
  subst answered
  have stopped : (program >>= rest) runtime = (.err error, next) :=
    run_bind_err ran
  exact ⟨error, by rw [stopped], by rw [stopped]; exact unwritten, kind⟩

theorem after_read (ran : program runtime = (.ok value, next))
    (same : next.database = runtime.database)
    (refuses : Refuses (rest value) next texts) :
    Refuses (program >>= rest) runtime texts := by
  rwa [Refuses, run_bind_ok ran, ← same]

theorem checks
    (checked : (∃ message, computed = .error (.conflict message)) ∨
      ∃ value, computed = .ok value ∧ Refuses (rest value) runtime []) :
    Refuses (ofExcept computed >>= rest) runtime [] := by
  rcases checked with ⟨message, rfl⟩ | ⟨value, rfl, refuses⟩
  · exact of_conflict rfl rfl
  · exact refuses

theorem checks_conflict
    (failed : ∃ message, computed = .error (.conflict message)) :
    Refuses (ofExcept computed >>= rest) runtime [] :=
  checks (.inl failed)

end Refuses

theorem ensurePairingEntity_cases
    (operation : DurableOperation) (pairingId : String) :
    (∃ message, Runtime.ensurePairingEntity operation pairingId =
      .error (.conflict message)) ∨
    Runtime.ensurePairingEntity operation pairingId = .ok () ∧
      operation.operationType ∈ [.pairing, .pairingCancellation] ∧
      operation.entityId = pairingId := by
  unfold Runtime.ensurePairingEntity
  split
  · rename_i belongs
    exact .inr ⟨rfl, by simpa using belongs.1, belongs.2⟩
  · exact .inl ⟨_, rfl⟩

variable {operation : DurableOperation}

theorem bindDescriptor_conflict (held : existing ∈ operation.commandDescriptor)
    (other : existing ≠ descriptor) :
    ∃ message, operation.bindDescriptor descriptor =
      .error (.conflict message) := by
  simp only [DurableOperation.bindDescriptor, Option.mem_def.mp held, if_neg other]
  exact ⟨_, rfl⟩

theorem ensureMessageEntity_cases
    (operation : DurableOperation) (messageId : Uuid) :
    (∃ message, Runtime.ensureMessageEntity operation messageId =
      .error (.conflict message)) ∨
    Runtime.ensureMessageEntity operation messageId = .ok () ∧
      operation.operationType ∈ [.messageDelivery] ∧
      operation.entityId = messageId.text := by
  unfold Runtime.ensureMessageEntity
  split
  · rename_i belongs
    exact .inr ⟨rfl, by simpa using belongs.1, belongs.2⟩
  · exact .inl ⟨_, rfl⟩

section

variable (quiet : runtime.host.world.Quiet)
  (found : runtime.database.durableOperations.lookup operationId = some operation)

include quiet found

theorem featureBeginPairingOperation_refuses
    (differs : Binding.Differs ⟨operationId, [.pairing, .pairingCancellation],
      pairingId, some descriptor⟩ operation) :
    Refuses (Runtime.featureBeginPairingOperation operationId pairingId descriptor
      nowMs) runtime [descriptor, operationId] := by
  refine .requireText (.operationById quiet ?_)
  rw [found, Option.getD_some]
  refine .checks ?_
  rcases ensurePairingEntity_cases operation pairingId with
    failed | ⟨passed, kind, entity⟩
  · exact .inl failed
  · obtain other | other | ⟨existing, held, _, ⟨⟩, other⟩ := differs
    · exact absurd kind other
    · exact absurd entity other
    · exact .inr ⟨(), passed,
        .checks_conflict (bindDescriptor_conflict held other)⟩

theorem pairingOperation_refuses
    (differs : Binding.Differs ⟨operationId, [.pairing, .pairingCancellation],
      pairingId, none⟩ operation) :
    Refuses (Runtime.pairingOperation operationId pairingId) runtime
      [operationId] := by
  refine .operationById quiet ?_
  rw [found]
  refine .checks (.inr ⟨operation, rfl, .checks_conflict ?_⟩)
  rcases ensurePairingEntity_cases operation pairingId with
    failed | ⟨_, kind, entity⟩
  · exact failed
  · obtain other | other | ⟨_, _, _, ⟨⟩, _⟩ := differs
    · exact absurd kind other
    · exact absurd entity other

theorem beginMessageDelivery_refuses
    (differs : Binding.Differs ⟨operationId, [.messageDelivery], messageId.text,
      some descriptor⟩ operation) :
    Refuses (Runtime.beginMessageDelivery operationId messageId descriptor nowMs)
      runtime [descriptor, operationId] := by
  refine .requireText (.operationById quiet ?_)
  rw [found]
  have calm : runtime.tick.host.world.Quiet := quiet
  refine .after_read (Runtime.activeMessageDelivery_quiet calm messageId) rfl ?_
  simp only [Option.some_or, Option.getD_some, Option.isSome_some, Bool.true_or,
    if_true]
  refine .checks ?_
  rcases ensureMessageEntity_cases operation messageId with
    failed | ⟨passed, kind, entity⟩
  · exact .inl failed
  · obtain other | other | ⟨existing, held, _, ⟨⟩, other⟩ := differs
    · exact absurd kind other
    · exact absurd entity other
    · exact .inr ⟨(), passed,
        .checks_conflict (bindDescriptor_conflict held other)⟩

theorem requestRelationshipRemoval_refuses
    (differs : Binding.Differs ⟨operationId, [.relationshipRemoval], contact,
      some descriptor⟩ operation) :
    Refuses (Runtime.requestRelationshipRemoval operationId descriptor contact
      preserveHistory removalId removedAt) runtime
      [contact, removalId, descriptor, operationId] := by
  refine .requireText (.requireText (.requireText (.operationById quiet ?_)))
  rw [found, Option.getD_some]
  dsimp only
  obtain other | other | ⟨existing, held, _, ⟨⟩, other⟩ := differs
  · rw [if_pos (.inl fun kind => other (List.mem_singleton.mpr kind))]
    exact .of_conflict rfl rfl
  · rw [if_pos (.inr other)]
    exact .of_conflict rfl rfl
  · split
    · exact .of_conflict rfl rfl
    · exact .checks_conflict (bindDescriptor_conflict held other)

end

theorem rebinding_refused
    (quiet : runtime.host.world.Quiet) {call : OperationCall}
    (rebinds : call.Rebinds runtime) : Refuses call.program runtime call.texts := by
  obtain ⟨binding, bound, operation, found, differs⟩ := rebinds
  cases call with
  | beginPairing =>
    cases bound
    exact featureBeginPairingOperation_refuses quiet found differs
  | completePairing | retryPairing | failPairing =>
    cases bound
    exact .bind (pairingOperation_refuses quiet found differs)
  | beginMessageDelivery =>
    cases bound
    exact beginMessageDelivery_refuses quiet found differs
  | requestRelationshipRemoval =>
    cases bound
    exact .bind (requestRelationshipRemoval_refuses quiet found differs)
  | completeMessageDelivery | retryMessageDelivery | failMessageDelivery =>
    cases bound

def Sound (runtime : Runtime) : Prop :=
  Ledger.Operations.Ordered runtime.database.ledger.operations ∧
    Ledger.Operations.Bound runtime.database.ledger.operations

theorem Sound.keyed (sound : Sound runtime) :
    Ledger.Operations.Keyed runtime.database.ledger.operations :=
  fun _ _ found => sound.1.keyed found

theorem Sound.next (sound : Sound runtime) (call : OperationCall) :
    Sound (call.program runtime).2 :=
  have worked := program_worked sound.keyed call
  ⟨Ledger.ordered_of_worked worked sound.1, Ledger.bound_of_worked worked sound.2⟩

theorem Sound.of_empty
    (empty : runtime.database.durableOperations = .empty) : Sound runtime := by
  have none : ∀ key, runtime.database.ledger.operations key = none := by
    intro key
    change runtime.database.durableOperations.lookup key = none
    rw [empty]
    rfl
  refine ⟨⟨?_, ?_⟩, ?_⟩
  · intro key operation found
    rw [none] at found
    cases found
  · intro messageId first second one other found
    rw [none] at found
    cases found
  · intro key operation found
    rw [none] at found
    cases found

theorem Sound.run (sound : Sound runtime) (calls : List OperationCall)
    (found : runtime.database.ledger.operations operationId = some operation) :
    ∃ later,
      ((machine start).run runtime calls).database.ledger.operations operationId =
        some later ∧ operation.BindsAs later := by
  induction calls generalizing runtime operation with
  | nil => exact ⟨operation, found, .refl operation⟩
  | cons call calls induction =>
    obtain ⟨middle, stored, first⟩ := Ledger.bindsAs_of_worked
      (program_worked sound.keyed call) sound.2 found
    obtain ⟨later, kept, second⟩ := induction (sound.next call) stored
    exact ⟨later, kept, first.trans second⟩

/-- Started with no operations, a book has one open delivery per message at the
most; whatever is called, an operation stays bound as it is; and a call that needs
another binding is refused with a conflict, or for its blank texts. -/
theorem operations_keep_their_binding
    {start : Runtime} (empty : start.database.durableOperations = .empty)
    (reached : (machine start).Reachable runtime) :
    (∀ messageId first second one other,
      runtime.database.durableOperations.lookup first = some one →
      one.Delivers messageId → one.state.isTerminal = false →
      runtime.database.durableOperations.lookup second = some other →
      other.Delivers messageId → other.state.isTerminal = false →
      first = second) ∧
    (∀ calls operationId operation,
      runtime.database.durableOperations.lookup operationId = some operation →
      ∃ later,
        ((machine start).run runtime calls).database.durableOperations.lookup
          operationId = some later ∧ operation.BindsAs later) ∧
    ∀ call : OperationCall, call.Rebinds runtime →
      runtime.host.world.Quiet → Refuses call.program runtime call.texts := by
  have sound : Sound runtime :=
    reached.invariant Sound (.of_empty empty) fun _ call sound _ => sound.next call
  refine ⟨?_, ?_, fun call rebinds quiet => rebinding_refused quiet rebinds⟩
  · intro messageId first second one other found own running stored same ongoing
    exact sound.1.single found own running stored same ongoing
  · intro calls operationId operation found
    exact sound.run calls found

def begunCancellation : Runtime :=
  (machine unused).run unused [beginPairing "operation" "pairing" "cancel" 1]

theorem begunCancellation_found :
    begunCancellation.database.durableOperations.lookup "operation" =
      some ⟨"operation", .pairingCancellation, "pairing", .running, 1, 1, 1, none,
        none, some "cancel"⟩ := by
  decide +kernel

theorem rebinding_of_begun_cancellation_is_refused :
    Refuses (beginMessageDelivery "operation" 5 "send" 2).program
      begunCancellation ["send", "operation"] := by
  have reached : (machine unused).Reachable begunCancellation :=
    .step _ .init trivial
  refine (operations_keep_their_binding rfl reached).2.2
    (beginMessageDelivery "operation" 5 "send" 2) ?_ fun _ _ => rfl
  exact ⟨_, rfl, _, begunCancellation_found, .inl (by decide)⟩

/-- A blank descriptor is refused before the operation is looked at. -/
theorem blank_rebinding_is_no_conflict :
    (beginPairing "operation" "pairing" " " 2).Rebinds begunCancellation ∧
      ∀ message, ((beginPairing "operation" "pairing" " " 2).program
        begunCancellation).1 ≠ .err (.conflict message) := by
  constructor
  · exact ⟨_, rfl, _, begunCancellation_found, .inr (.inr
      ⟨"cancel", rfl, " ", rfl, by decide⟩)⟩
  · intro message answered
    cases answered

end OperationCall

/-! ## Going on with a delivery -/

namespace Runtime

variable {nowMs : Int} {before : Database}

def Resumes (messageId : Uuid) (before after : Database) : Prop :=
  ∃ operation resumed : DurableOperation,
    before.durableOperations.lookup operation.operationId = some operation ∧
    operation.Delivers messageId ∧ operation.state.isTerminal = false ∧
    resumed.operationId = operation.operationId ∧ resumed.Delivers messageId ∧
    resumed.state = .running ∧
    resumed.attemptCount = operation.attemptCount + 1 ∧
    before.putOperation resumed = .ok after

theorem lookup_putOperation (done : before.putOperation operation = .ok after)
    (key : String) :
    after.durableOperations.lookup key = if key = operation.operationId then
      some operation else before.durableOperations.lookup key := by
  cases done
  exact Table.lookup_insert ..

theorem Resumes.irrefl : ¬Resumes messageId before before := by
  rintro ⟨operation, resumed, held, _, _, same, _, _, counted, done⟩
  have stored := lookup_putOperation done operation.operationId
  rw [same, if_pos rfl] at stored
  cases stored.symm.trans held
  omega

theorem Resumes.counted (written : before.putOperation attempt = .ok after)
    (stored : before.durableOperations.lookup operation.operationId =
      some operation) (own : attempt.operationId = operation.operationId)
    (resumes : Resumes messageId before after) :
    attempt.attemptCount = operation.attemptCount + 1 := by
  obtain ⟨other, resumed, held, _, _, same, _, _, counted, done⟩ := resumes
  have first := lookup_putOperation written other.operationId
  have second := lookup_putOperation done other.operationId
  rw [same, if_pos rfl] at second
  by_cases one : other.operationId = operation.operationId
  · rw [one] at held
    cases held.symm.trans stored
    rw [own, if_pos rfl] at first
    cases first.symm.trans second
    exact counted
  · rw [own, if_neg one, held] at first
    cases first.symm.trans second
    omega

/-- Nothing else is stored under the derived id, and the attempts can be
counted. -/
structure Unobstructed (messageId : Uuid) (database : Database) : Prop where
  bound : ∀ operation,
    database.durableOperations.lookup (deliveryId messageId) = some operation →
    operation.Delivers messageId ∧ operation.state.isTerminal = false ∧
      ∀ existing ∈ operation.commandDescriptor,
        existing = deliveryCommand messageId
  countable : ∀ operation,
    (database.durableOperations.lookup (deliveryId messageId)).or
      (database.openDelivery messageId) = some operation →
    operation.attemptCount < 4294967295

theorem requireText_passes (shown : trim text ≠ "") :
    requireText text message runtime = (.ok (), runtime) := by
  rw [requireText, if_neg shown]
  rfl

theorem attempt_runs (quiet : runtime.host.world.Quiet)
    (running : operation.state.isTerminal = false) (message : String)
    (attempt : DurableOperation) :
    ∃ after, (if operation.state = .completed then Program.pure ()
      else do
        refuseTerminal operation message
        persistOperation attempt) runtime = (.ok (), after) := by
  have open' : operation.state ≠ .completed ∧
      ¬(operation.state = .cancelled ∨ operation.state = .failedPermanent) := by
    cases stated : operation.state <;> simp_all [OperationState.isTerminal]
  rw [if_neg open'.1, refuseTerminal, if_neg open'.2]
  exact ⟨_, write_quiet quiet rfl⟩

theorem beginMessageDelivery_takes_up (nowMs : Int)
    (quiet : runtime.host.world.Quiet)
    (chosen : (runtime.database.durableOperations.lookup
      (deliveryId messageId)).or (runtime.database.openDelivery messageId) =
        some operation) (delivers : operation.Delivers messageId)
    (running : operation.state.isTerminal = false)
    (bindable : (runtime.database.durableOperations.lookup
      (deliveryId messageId)).isSome →
        ∀ existing ∈ operation.commandDescriptor,
          existing = deliveryCommand messageId) :
    ∃ after, beginMessageDelivery (deliveryId messageId) messageId
      (deliveryCommand messageId) nowMs runtime = (.ok (), after) := by
  have described : trim (deliveryCommand messageId) ≠ "" :=
    trim_ne_empty (String.toList_append ..) (by decide)
  have named : trim (deliveryId messageId) ≠ "" :=
    trim_ne_empty (String.toList_append ..) (by decide)
  have searching : runtime.tick.host.world.Quiet := quiet
  unfold beginMessageDelivery
  rw [run_bind_ok (requireText_passes described),
    run_bind_ok (operationById_quiet quiet named),
    run_bind_ok (activeMessageDelivery_quiet searching messageId)]
  simp only [tick_database, chosen, Option.getD_some]
  have ensured : ensureMessageEntity operation messageId = .ok () :=
    if_pos delivers
  rw [ensured, ofExcept_ok_bind]
  have ready : runtime.tick.tick.host.world.Quiet := quiet
  cases held : operation.commandDescriptor with
  | none =>
    have binds : operation.bindDescriptor (deliveryCommand messageId) =
        .ok { operation with
          commandDescriptor := some (deliveryCommand messageId) } := by
      rw [DurableOperation.bindDescriptor, held]
    rw [Option.isNone_none, Bool.or_true, if_pos rfl, binds]
    exact attempt_runs ready running _ _
  | some existing =>
    split
    · rename_i bound
      rw [Option.isNone_some, Bool.or_false] at bound
      have binds : operation.bindDescriptor (deliveryCommand messageId) =
          .ok operation := by
        rw [DurableOperation.bindDescriptor, held]
        exact if_pos (bindable bound existing held)
      rw [binds]
      exact attempt_runs ready running _ _
    · exact attempt_runs ready running _ _

theorem open_delivery_is_resumed_iff
    (quiet : runtime.host.world.Quiet)
    (keyed : Ledger.Operations.Keyed runtime.database.ledger.operations)
    (opened : Ledger.Operations.Open runtime.database.ledger.operations
      messageId) :
    ((beginMessageDelivery (deliveryId messageId) messageId
        (deliveryCommand messageId) nowMs runtime).1 = .ok () ∧
      Resumes messageId runtime.database
        (beginMessageDelivery (deliveryId messageId) messageId
          (deliveryCommand messageId) nowMs runtime).2.database) ↔
      Unobstructed messageId runtime.database := by
  rcases ran : beginMessageDelivery (deliveryId messageId) messageId
    (deliveryCommand messageId) nowMs runtime with ⟨outcome, after⟩
  dsimp only
  have found : ∀ operation,
      (runtime.database.durableOperations.lookup (deliveryId messageId)).or
        (runtime.database.openDelivery messageId) = some operation →
      runtime.database.durableOperations.lookup operation.operationId =
        some operation := by
    intro operation chosen
    rcases Option.or_eq_some_iff.mp chosen with stored | ⟨_, active⟩
    · rw [keyed _ _ stored]
      exact stored
    · rcases openDelivery_cases runtime.database messageId with
        ⟨none, _⟩ | ⟨key, other, active', stored, _⟩
      · cases none.symm.trans active
      · cases active'.symm.trans active
        rw [keyed _ _ stored]
        exact stored
  constructor
  · rintro ⟨rfl, resumes⟩
    obtain ⟨operation, bound, chosen, delivers, same, own,
      ⟨_, unchanged⟩ | ⟨running, written⟩⟩ := beginMessageDelivery_ok ran
    · rw [unchanged] at resumes
      exact absurd resumes Resumes.irrefl
    · subst same
      constructor
      · intro stored held
        rw [held, Option.some_or, Option.getD_some] at chosen
        subst chosen
        exact ⟨delivers, running, own (by rw [held]; rfl)⟩
      · intro taken held
        rw [held, Option.getD_some] at chosen
        subst chosen
        have counted := resumes.counted written (found _ held) rfl
        simp only [DurableOperation.beginAttempt] at counted
        omega
  · intro unobstructed
    obtain ⟨operation, chosen, delivers, running, bindable⟩ :
        ∃ operation, (runtime.database.durableOperations.lookup
            (deliveryId messageId)).or
            (runtime.database.openDelivery messageId) = some operation ∧
          operation.Delivers messageId ∧ operation.state.isTerminal = false ∧
          ((runtime.database.durableOperations.lookup
            (deliveryId messageId)).isSome →
            ∀ existing ∈ operation.commandDescriptor,
              existing = deliveryCommand messageId) := by
      cases stored : runtime.database.durableOperations.lookup
        (deliveryId messageId) with
      | some operation =>
        obtain ⟨delivers, running, own⟩ := unobstructed.bound operation stored
        exact ⟨operation, rfl, delivers, running, fun _ => own⟩
      | none =>
        rcases openDelivery_cases runtime.database messageId with
          ⟨_, closed⟩ | ⟨_, operation, active, _, delivers, running⟩
        · exact absurd opened closed
        · exact ⟨operation, active, delivers, running, nofun⟩
    obtain ⟨_, succeeds⟩ :=
      beginMessageDelivery_takes_up nowMs quiet chosen delivers running bindable
    cases ran.symm.trans succeeds
    refine ⟨rfl, ?_⟩
    obtain ⟨_, bound, same, _, rfl, _, ⟨ended, _⟩ | ⟨_, written⟩⟩ :=
      beginMessageDelivery_ok ran
    · rw [chosen, Option.getD_some] at same
      subst same
      rw [show operation.state = .completed from ended] at running
      cases running
    · rw [chosen, Option.getD_some] at same
      subst same
      have few := unobstructed.countable operation chosen
      refine ⟨operation, _, found operation chosen, delivers, running, ?_, ?_,
        ?_, ?_, written⟩
      · rfl
      · exact delivers
      · rfl
      change min (operation.attemptCount + 1) 4294967295 = _
      omega

open OperationCall (unused)

def bookAfter (calls : List OperationCall) : Runtime :=
  (OperationCall.machine unused).run unused calls

def sent : List OperationCall := [.beginMessageDelivery "send" 5 "send" 1]

def sentDelivery : DurableOperation :=
  ⟨"send", .messageDelivery, Uuid.text 5, .running, 1, 1, 1, none, none,
    some "send"⟩

theorem sent_message_is_resumed :
    (beginMessageDelivery (deliveryId 5) 5 (deliveryCommand 5) 2
        (bookAfter sent)).1 = .ok () ∧
      Resumes 5 (bookAfter sent).database
        (beginMessageDelivery (deliveryId 5) 5 (deliveryCommand 5) 2
          (bookAfter sent)).2.database := by
  have free : (bookAfter sent).database.durableOperations.lookup
      (deliveryId 5) = none := by
    decide +kernel
  have active : (bookAfter sent).database.openDelivery 5 =
      some sentDelivery := by
    decide +kernel
  have keyed : Ledger.Operations.Keyed
      (bookAfter sent).database.ledger.operations :=
    ((OperationCall.Sound.of_empty rfl).next _).keyed
  refine (open_delivery_is_resumed_iff (fun _ _ => rfl) keyed
    ⟨"send", sentDelivery, by decide +kernel, ⟨rfl, rfl⟩, rfl⟩).mpr ⟨?_, ?_⟩
  · intro operation stored
    cases free.symm.trans stored
  · rw [free, active]
    rintro _ ⟨⟩
    decide

def sentAgain : List OperationCall :=
  [.beginMessageDelivery (deliveryId 5) 5 (deliveryCommand 5) 1,
    .failMessageDelivery 5 .internal 2,
    .beginMessageDelivery "retry" 5 "retry" 3]

theorem failed_delivery_shadows_the_open_one :
    Ledger.Operations.Open (bookAfter sentAgain).database.ledger.operations 5 ∧
      (beginMessageDelivery (deliveryId 5) 5 (deliveryCommand 5) 4
        (bookAfter sentAgain)).1 =
          .err (.conflict "message delivery operation is already terminal") := by
  refine ⟨⟨"retry", ⟨"retry", .messageDelivery, Uuid.text 5, .running, 3, 3, 1,
    none, none, some "retry"⟩, by decide +kernel, ⟨rfl, rfl⟩, rfl⟩, ?_⟩
  decide +kernel

end Runtime

end Torchat
