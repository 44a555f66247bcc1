import Torchat.Runtime.Pairing
import Torchat.Runtime.Retry
import Torchat.Storage.Endpoints

namespace Torchat

open Foundation Storage

namespace DurableOperation

def pending
    (operationId : String) (operationType : OperationType) (entityId : String)
    (nowMs : Int) (descriptor : String) : DurableOperation where
  operationId := operationId
  operationType := operationType
  entityId := entityId
  state := .pending
  startedAt := nowMs
  updatedAt := nowMs
  attemptCount := 0
  retryAt := none
  errorCode := none
  commandDescriptor := some descriptor

def beginAttempt (nowMs : Int) (operation : DurableOperation) :
    DurableOperation :=
  { operation with
    state := .running
    updatedAt := nowMs
    attemptCount := min (operation.attemptCount + 1) 4294967295
    retryAt := none
    errorCode := none }

def scheduleRetry (retryAt : Int) (errorCode : RuntimeErrorCode) (nowMs : Int)
    (operation : DurableOperation) : DurableOperation :=
  { operation with
    state := .waitingForRetry
    updatedAt := nowMs
    retryAt := some retryAt
    errorCode := some errorCode }

/-- `complete`, `fail_permanently` and the cancellation of a deleted message's
delivery: a terminal state with the code that goes with it. -/
def finish (state : OperationState) (errorCode : Option RuntimeErrorCode)
    (nowMs : Int) (operation : DurableOperation) : DurableOperation :=
  { operation with
    state := state
    updatedAt := nowMs
    retryAt := none
    errorCode := errorCode }

def bindDescriptor (descriptor : String) (operation : DurableOperation) :
    RuntimeResult DurableOperation :=
  match operation.commandDescriptor with
  | some existing =>
    if existing = descriptor then .ok operation
    else .error (.conflict
      "operation id is already bound to a different command payload")
  | none => .ok { operation with commandDescriptor := some descriptor }

end DurableOperation

/-- `RetryClass::NetworkBackoff` under the default policy; `percent` is the
jitter, between -20 and 20. -/
def networkBackoff (attempt : Nat) (percent : Int) : Int :=
  let capped := min (2000 * 2 ^ min attempt 8) 300000
  capped + (capped * percent).tdiv 100

namespace Runtime

def requireText (text message : String) : Call Unit :=
  if trim text = "" then Program.fail (.invalidParams message)
  else Program.pure ()

def operationById (operationId : String) : Call (Option DurableOperation) := do
  requireText operationId "OperationId must not be empty"
  query (·.durableOperations.lookup operationId)

def persistOperation (operation : DurableOperation) : Call Unit :=
  write (Database.putOperation operation)

def ensurePairingEntity
    (operation : DurableOperation) (pairingId : String) : RuntimeResult Unit :=
  if (operation.operationType = .pairing ∨
        operation.operationType = .pairingCancellation) ∧
      operation.entityId = pairingId then .ok ()
  else .error (.conflict "operation does not belong to the requested pairing")

def ensureMessageEntity
    (operation : DurableOperation) (messageId : Uuid) : RuntimeResult Unit :=
  if operation.operationType = .messageDelivery ∧
      operation.entityId = messageId.text then .ok ()
  else .error (.conflict "operation does not belong to the requested message")

def refuseTerminal
    (operation : DurableOperation) (message : String) : Call Unit :=
  if operation.state = .cancelled ∨ operation.state = .failedPermanent then
    Program.fail (.conflict message)
  else Program.pure ()

def featureBeginPairingOperation
    (operationId pairingId descriptor : String) (nowMs : Int) : Call Unit := do
  requireText descriptor "durable pairing command descriptor must not be empty"
  let found ← operationById operationId
  let operation := found.getD
    (.pending operationId .pairingCancellation pairingId nowMs descriptor)
  Program.ofExcept (ensurePairingEntity operation pairingId)
  let operation ← Program.ofExcept (operation.bindDescriptor descriptor)
  if operation.state = .completed then return
  refuseTerminal operation "pairing operation is already terminal"
  persistOperation
    ({ operation with operationType := .pairingCancellation }.beginAttempt nowMs)

def pairingOperation (operationId pairingId : String) :
    Call DurableOperation := do
  let operation ← required (← operationById operationId)
    "pairing operation does not exist"
  Program.ofExcept (ensurePairingEntity operation pairingId)
  return operation

def featureCompletePairingOperation
    (operationId pairingId : String) (nowMs : Int) : Call Unit := do
  let operation ← pairingOperation operationId pairingId
  if operation.state = .completed then return
  persistOperation (operation.finish .completed none nowMs)

def featureFailPairingOperation (operationId pairingId : String)
    (errorCode : RuntimeErrorCode) (nowMs : Int) : Call Unit := do
  let operation ← pairingOperation operationId pairingId
  if operation.state.isTerminal then return
  persistOperation (operation.finish .failedPermanent (some errorCode) nowMs)

def featureRetryPairingOperation (operationId pairingId : String)
    (errorCode : RuntimeErrorCode) (nowMs : Int) : Call Unit := do
  let operation ← pairingOperation operationId pairingId
  if operation.state.isTerminal then return
  let percent ← onHost (Host.jitter 40)
  let retryAt := Retry.saturate
    (nowMs + networkBackoff operation.attemptCount (percent - 20))
  persistOperation (operation.scheduleRetry retryAt errorCode nowMs)

def activeMessageDelivery (messageId : Uuid) :
    Call (Option DurableOperation) := do
  let operations ← query Database.pendingOperations
  return operations.find? fun operation =>
    operation.operationType = .messageDelivery &&
      operation.entityId = messageId.text && !operation.state.isTerminal

def beginMessageDelivery (requestedId : String) (messageId : Uuid)
    (descriptor : String) (nowMs : Int) : Call Unit := do
  requireText descriptor "durable message command descriptor must not be empty"
  let requested ← operationById requestedId
  let active ← activeMessageDelivery messageId
  let operation := (requested.or active).getD
    (.pending requestedId .messageDelivery messageId.text nowMs descriptor)
  Program.ofExcept (ensureMessageEntity operation messageId)
  let operation ←
    if requested.isSome || operation.commandDescriptor.isNone then
      Program.ofExcept (operation.bindDescriptor descriptor)
    else
      Program.pure operation
  if operation.state = .completed then return
  refuseTerminal operation "message delivery operation is already terminal"
  persistOperation (operation.beginAttempt nowMs)

def updateMessageDelivery (messageId : Uuid)
    (change : DurableOperation → DurableOperation) : Call Unit := do
  match ← activeMessageDelivery messageId with
  | none => return
  | some operation => persistOperation (change operation)

def completeMessageDelivery (messageId : Uuid) (nowMs : Int) : Call Unit :=
  updateMessageDelivery messageId (.finish .completed none nowMs)

def retryMessageDelivery (messageId : Uuid) (retryAt : Int)
    (errorCode : RuntimeErrorCode) (nowMs : Int) : Call Unit :=
  updateMessageDelivery messageId (.scheduleRetry retryAt errorCode nowMs)

def failMessageDelivery (messageId : Uuid) (errorCode : RuntimeErrorCode)
    (nowMs : Int) : Call Unit :=
  updateMessageDelivery messageId (.finish .failedPermanent (some errorCode) nowMs)

def requestRelationshipRemoval (operationId descriptor : String)
    (installationId : InstallationId) (preserveHistory : Bool)
    (removalId : String) (removedAt : Int) : Call Bool := do
  requireText installationId "installation id must not be empty"
  requireText removalId "removal id must not be empty"
  requireText descriptor "relationship removal descriptor must not be empty"
  let found ← operationById operationId
  let operation := found.getD
    (.pending operationId .relationshipRemoval installationId removedAt
      descriptor)
  if operation.operationType ≠ .relationshipRemoval ∨
      operation.entityId ≠ installationId then
    Program.fail (.conflict "operation id is already bound to another entity")
  let operation ← Program.ofExcept (operation.bindDescriptor descriptor)
  if operation.state = .completed then return false
  refuseTerminal operation "relationship removal operation is already terminal"
  let operation := operation.beginAttempt removedAt
  persistOperation operation
  let epoch ← query (Database.currentRelationshipEpoch installationId)
  write (Database.removeRelationshipWithId installationId removedAt
    preserveHistory removalId (Database.epochAfter epoch))
  persistOperation (operation.finish .completed none removedAt)
  return true

end Runtime

end Torchat
