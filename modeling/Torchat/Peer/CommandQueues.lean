import Torchat.Foundation.Machine
import Torchat.Relay.Protocol

namespace Torchat.Peer

open Foundation

inductive PeerDeliveryTag
  | message (messageId : String)
  | receipt (messageId : String)
  | readReceipt (receiptId : String)
  | relationshipRemovalAck (removalId : String)
  | ephemeral
  | probe
  | endpointUpdate
  | presence (online : Bool)
  | typing (typing : Bool)
  | conversationFocus (focused : Bool)
  deriving DecidableEq

/-- Where a command waits. -/
inductive Slot
  | durable
  | endpointUpdate
  | probe
  | ephemeral

namespace PeerDeliveryTag

def dedupeKey : PeerDeliveryTag → Option String
  | message messageId => some ("message:" ++ messageId)
  | receipt messageId => some ("receipt:" ++ messageId)
  | readReceipt receiptId => some ("read-receipt:" ++ receiptId)
  | relationshipRemovalAck removalId =>
    some ("relationship-removal-ack:" ++ removalId)
  | _ => none

def slot : PeerDeliveryTag → Slot
  | message _ | receipt _ | readReceipt _ => .durable
  | endpointUpdate => .endpointUpdate
  | probe => .probe
  | _ => .ephemeral

/-- The command carries an MLS ciphertext. -/
def encrypted : PeerDeliveryTag → Bool
  | message _ | receipt _ | readReceipt _ | ephemeral => true
  | _ => false

theorem encrypted_durable {delivery : PeerDeliveryTag}
    (own : delivery.slot = .durable) : delivery.encrypted = true := by
  cases delivery <;> first | rfl | cases own

theorem encrypted_other {delivery : PeerDeliveryTag}
    (own : delivery.slot = .endpointUpdate ∨ delivery.slot = .probe) :
    delivery.encrypted = false := by
  cases delivery <;> first | rfl | rcases own with own | own <;> cases own

end PeerDeliveryTag

/-- What the queues read of a command. -/
structure QueuedCommand where
  messageId : Uuid
  delivery : PeerDeliveryTag
  deriving DecidableEq

structure CommandQueues where
  durable : List QueuedCommand
  endpointUpdate : Option QueuedCommand
  probe : Option QueuedCommand
  ephemeral : Option QueuedCommand
  dedupe : List String

namespace CommandQueues

def empty : CommandQueues := ⟨[], none, none, none, []⟩

def outstanding (queues : CommandQueues) (command : QueuedCommand) : Bool :=
  command.delivery.dedupeKey.any (· ∈ queues.dedupe)

def enqueue (queues : CommandQueues) (command : QueuedCommand) :
    CommandQueues :=
  match command.delivery.slot with
  | .durable =>
    if queues.outstanding command then queues
    else
      { queues with
        dedupe := command.delivery.dedupeKey.toList ++ queues.dedupe
        durable := queues.durable ++ [command] }
  | .endpointUpdate => { queues with endpointUpdate := some command }
  | .probe => { queues with probe := some command }
  | .ephemeral => { queues with ephemeral := some command }

def complete (queues : CommandQueues) (delivery : PeerDeliveryTag) :
    CommandQueues :=
  { queues with
    dedupe := queues.dedupe.filter (delivery.dedupeKey ≠ some ·) }

def popNext (queues : CommandQueues) (sessionReady : Bool) :
    Option QueuedCommand × CommandQueues :=
  match queues.durable, queues.endpointUpdate, queues.probe with
  | command :: rest, _, _ => (some command, { queues with durable := rest })
  | [], some command, _ => (some command, { queues with endpointUpdate := none })
  | [], none, some command => (some command, { queues with probe := none })
  | [], none, none =>
    if sessionReady then (queues.ephemeral, { queues with ephemeral := none })
    else (none, queues)

def pushFront (queues : CommandQueues) (command : QueuedCommand) :
    CommandQueues :=
  match command.delivery.slot with
  | .durable => { queues with durable := command :: queues.durable }
  | .endpointUpdate => { queues with endpointUpdate := some command }
  | .probe => { queues with probe := some command }
  | .ephemeral => { queues with ephemeral := some command }

def ciphertexts (queues : CommandQueues) : List QueuedCommand :=
  queues.durable ++ queues.ephemeral.toList.filter (·.delivery.encrypted)

def quiet (queues : CommandQueues) : Bool :=
  queues.ephemeral.all (!·.delivery.encrypted)

structure Sorted (queues : CommandQueues) : Prop where
  durable : ∀ command ∈ queues.durable, command.delivery.slot = .durable
  endpointUpdate : ∀ command ∈ queues.endpointUpdate,
    command.delivery.slot = .endpointUpdate
  probe : ∀ command ∈ queues.probe, command.delivery.slot = .probe
  ephemeral : ∀ command ∈ queues.ephemeral,
    command.delivery.slot = .ephemeral

end CommandQueues

/-! ## Runs -/

inductive QueueCall
  | enqueue (command : QueuedCommand)
  | popNext (sessionReady : Bool)
  | pushFront (command : QueuedCommand)
  | complete (delivery : PeerDeliveryTag)

/-- The queues with the ciphertexts they have accepted and those that have left,
oldest first. What is put back has not left. -/
structure QueueRun where
  queues : CommandQueues
  accepted : List QueuedCommand
  departed : List QueuedCommand

namespace QueueRun

def next (run : QueueRun) : QueueCall → QueueRun
  | .enqueue command =>
    { run with
      queues := run.queues.enqueue command
      accepted :=
        if command.delivery.encrypted && !run.queues.outstanding command then
          run.accepted ++ [command]
        else
          run.accepted }
  | .popNext ready =>
    let (command, queues) := run.queues.popNext ready
    { run with
      queues
      departed :=
        run.departed ++ command.toList.filter (·.delivery.encrypted) }
  | .pushFront command =>
    { run with
      queues := run.queues.pushFront command
      departed :=
        if command.delivery.encrypted ∧ run.departed.getLast? = some command then
          run.departed.dropLast
        else
          run.departed }
  | .complete delivery => { run with queues := run.queues.complete delivery }

/-- Every ciphertext has left in its turn or waits for it. -/
def InOrder (run : QueueRun) : Prop :=
  run.accepted = run.departed ++ run.queues.ciphertexts

/-- While an encrypted ephemeral frame waits, nothing comes that overtakes or
replaces it; and a ciphertext that is put back is the one that left last. -/
def Spaced (run : QueueRun) : QueueCall → Prop
  | .enqueue command =>
    match command.delivery.slot with
    | .durable => run.queues.outstanding command || run.queues.quiet
    | .ephemeral => run.queues.quiet
    | _ => True
  | .pushFront command =>
    (command.delivery.encrypted → run.departed.getLast? = some command) ∧
      (command.delivery.slot = .ephemeral → run.queues.quiet ∧
        (command.delivery.encrypted → run.queues.durable = []))
  | _ => True

end QueueRun

def queueRuns : Machine QueueRun QueueCall where
  init := ⟨.empty, [], []⟩
  enabled _ _ := True
  next := QueueRun.next

namespace CommandQueues

variable {queues : CommandQueues}

theorem ciphertexts_of_quiet (quiet : queues.quiet = true) :
    queues.ephemeral.toList.filter (·.delivery.encrypted) = [] := by
  revert quiet
  unfold CommandQueues.quiet
  cases queues.ephemeral <;> simp

namespace Sorted

variable (sorted : queues.Sorted)

include sorted

theorem enqueue (command : QueuedCommand) : (queues.enqueue command).Sorted := by
  unfold CommandQueues.enqueue
  split
  · rename_i own
    split
    · exact sorted
    · exact { sorted with durable := by simpa [or_imp, forall_and, own]
        using sorted.durable }
  · exact { sorted with endpointUpdate := by simpa }
  · exact { sorted with probe := by simpa }
  · exact { sorted with ephemeral := by simpa }

theorem pushFront (command : QueuedCommand) :
    (queues.pushFront command).Sorted := by
  unfold CommandQueues.pushFront
  split
  · rename_i own
    exact { sorted with durable := by simpa [own] using sorted.durable }
  · exact { sorted with endpointUpdate := by simpa }
  · exact { sorted with probe := by simpa }
  · exact { sorted with ephemeral := by simpa }

theorem popNext (ready : Bool) :
    (queues.popNext ready).2.Sorted ∧
    queues.ciphertexts =
      (queues.popNext ready).1.toList.filter (·.delivery.encrypted) ++
        (queues.popNext ready).2.ciphertexts := by
  obtain ⟨durable, endpointUpdate, probe, ephemeral, dedupe⟩ := queues
  cases durable with
  | cons head rest =>
    have own := sorted.durable head (.head _)
    refine ⟨{ sorted with durable := ?_ }, ?_⟩
    · exact fun command member => sorted.durable command (.tail _ member)
    · simp [CommandQueues.popNext, ciphertexts,
        PeerDeliveryTag.encrypted_durable own]
  | nil =>
    cases endpointUpdate with
    | some update =>
      have own := sorted.endpointUpdate update rfl
      refine ⟨{ sorted with endpointUpdate := by simp [CommandQueues.popNext] },
        ?_⟩
      simp [CommandQueues.popNext, ciphertexts,
        PeerDeliveryTag.encrypted_other (.inl own)]
    | none =>
      cases probe with
      | some probe =>
        have own := sorted.probe probe rfl
        refine ⟨{ sorted with probe := by simp [CommandQueues.popNext] }, ?_⟩
        simp [CommandQueues.popNext, ciphertexts,
          PeerDeliveryTag.encrypted_other (.inr own)]
      | none =>
        cases ready with
        | false => exact ⟨sorted, rfl⟩
        | true =>
          refine ⟨{ sorted with ephemeral := by simp [CommandQueues.popNext] },
            ?_⟩
          simp [CommandQueues.popNext, ciphertexts]

end Sorted

end CommandQueues

namespace QueueRun.InOrder

variable {run : QueueRun} (inOrder : run.InOrder)

include inOrder

theorem enqueue (spaced : run.Spaced (.enqueue command)) :
    (run.next (.enqueue command)).InOrder := by
  simp only [InOrder, QueueRun.next, CommandQueues.enqueue,
    CommandQueues.ciphertexts] at inOrder ⊢
  simp only [Spaced] at spaced
  cases own : command.delivery.slot with
  | durable =>
    simp only [own] at spaced ⊢
    cases outstanding : run.queues.outstanding command with
    | true => simpa using inOrder
    | false =>
      rw [outstanding] at spaced
      simp [PeerDeliveryTag.encrypted_durable own, inOrder,
        CommandQueues.ciphertexts_of_quiet spaced]
  | endpointUpdate =>
    simpa [PeerDeliveryTag.encrypted_other (.inl own)] using inOrder
  | probe => simpa [PeerDeliveryTag.encrypted_other (.inr own)] using inOrder
  | ephemeral =>
    simp only [own] at spaced ⊢
    have fresh : command.delivery.encrypted = true →
        run.queues.outstanding command = false := by
      unfold CommandQueues.outstanding
      revert own
      cases command.delivery <;> simp [PeerDeliveryTag.slot,
        PeerDeliveryTag.encrypted, PeerDeliveryTag.dedupeKey]
    rw [CommandQueues.ciphertexts_of_quiet spaced] at inOrder
    cases secret : command.delivery.encrypted with
    | true => simp [inOrder, fresh secret, secret]
    | false => simp [inOrder, secret]

theorem pushFront (spaced : run.Spaced (.pushFront command)) :
    (run.next (.pushFront command)).InOrder := by
  obtain ⟨last, alone⟩ := spaced
  simp only [InOrder, QueueRun.next, CommandQueues.pushFront,
    CommandQueues.ciphertexts] at inOrder ⊢
  have back : command.delivery.encrypted = true →
      run.departed.dropLast ++ [command] = run.departed := fun secret =>
    List.dropLast_append_getLast? command (last secret)
  cases own : command.delivery.slot with
  | durable =>
    have secret := PeerDeliveryTag.encrypted_durable own
    simp only [secret, last secret, true_and, if_true]
    rw [inOrder, ← back secret]
    simp
  | endpointUpdate =>
    simpa [PeerDeliveryTag.encrypted_other (.inl own)] using inOrder
  | probe => simpa [PeerDeliveryTag.encrypted_other (.inr own)] using inOrder
  | ephemeral =>
    obtain ⟨quiet, idle⟩ := alone own
    rw [CommandQueues.ciphertexts_of_quiet quiet] at inOrder
    cases secret : command.delivery.encrypted with
    | true =>
      simp [inOrder, idle secret, last secret, secret, back secret]
    | false => simp [inOrder, secret]

theorem next (sorted : run.queues.Sorted) (spaced : run.Spaced call) :
    (run.next call).InOrder ∧ (run.next call).queues.Sorted := by
  cases call with
  | enqueue command => exact ⟨inOrder.enqueue spaced, sorted.enqueue command⟩
  | popNext ready =>
    obtain ⟨after, split⟩ := sorted.popNext ready
    rw [InOrder, split, ← List.append_assoc] at inOrder
    exact ⟨inOrder, after⟩
  | pushFront command =>
    exact ⟨inOrder.pushFront spaced, sorted.pushFront command⟩
  | complete delivery => exact ⟨inOrder, { sorted with }⟩

end QueueRun.InOrder

theorem ciphertexts_keep_their_order
    (reached : (queueRuns.restrict QueueRun.Spaced).Reachable run) :
    run.InOrder := by
  have ordered : run.InOrder ∧ run.queues.Sorted := by
    refine reached.invariant (fun run => run.InOrder ∧ run.queues.Sorted) ?_ ?_
    · exact ⟨rfl, by constructor <;> simp [queueRuns, Machine.restrict,
        CommandQueues.empty]⟩
    · rintro run call ⟨inOrder, sorted⟩ enabled
      exact inOrder.next sorted enabled.2
  exact ordered.1

def ephemeralFrame (messageId : Uuid) : QueuedCommand := ⟨messageId, .ephemeral⟩

def queuedLetter (messageId : Uuid) : QueuedCommand :=
  ⟨messageId, .message messageId.text⟩

def afterCalls (calls : List QueueCall) : QueueRun :=
  queueRuns.run queueRuns.init calls

def spacedCalls : List QueueCall :=
  [.enqueue (queuedLetter 1), .enqueue (ephemeralFrame 2), .popNext true,
    .pushFront (queuedLetter 1), .popNext true, .popNext true]

theorem spaced_frames_keep_their_order :
    (afterCalls spacedCalls).departed = [queuedLetter 1, ephemeralFrame 2] := by
  have inOrder : (afterCalls spacedCalls).InOrder :=
    ciphertexts_keep_their_order (.of_admits spacedCalls ⟨⟨trivial, rfl⟩,
      ⟨trivial, rfl⟩, ⟨trivial, trivial⟩, ⟨trivial, fun _ => rfl, nofun⟩,
      ⟨trivial, trivial⟩, ⟨trivial, trivial⟩, trivial⟩)
  have emptied : (afterCalls spacedCalls).queues.ciphertexts = [] := by
    decide +kernel
  have accepted : (afterCalls spacedCalls).accepted =
      [queuedLetter 1, ephemeralFrame 2] := by
    decide +kernel
  rw [QueueRun.InOrder, emptied, List.append_nil] at inOrder
  rw [← inOrder, accepted]

def overtakingCalls : List QueueCall :=
  [.enqueue (ephemeralFrame 1), .enqueue (queuedLetter 2), .popNext true]

def replacingCalls : List QueueCall :=
  [.enqueue (ephemeralFrame 1), .enqueue (ephemeralFrame 2)]

/-- A message overtakes a frame that waits, and a second frame replaces it. -/
theorem frames_are_overtaken_and_replaced :
    queueRuns.Reachable (afterCalls overtakingCalls) ∧
      ¬ (afterCalls overtakingCalls).InOrder ∧
      queueRuns.Reachable (afterCalls replacingCalls) ∧
      ¬ (afterCalls replacingCalls).InOrder := by
  refine ⟨Machine.Reachable.init.run overtakingCalls ⟨trivial, trivial, trivial,
    trivial⟩, ?_, Machine.Reachable.init.run replacingCalls ⟨trivial, trivial,
    trivial⟩, ?_⟩ <;> unfold QueueRun.InOrder <;> decide +kernel

end Torchat.Peer
