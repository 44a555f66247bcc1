import Mathlib.Logic.Function.Basic
import Torchat.Runtime.Messaging

namespace Torchat

open Foundation Storage Function

namespace DurableOperation

def Delivers (messageId : Uuid) (operation : DurableOperation) : Prop :=
  operation.operationType = .messageDelivery ∧
    operation.entityId = messageId.text

end DurableOperation

structure Ledger.Entry where
  conversationId : InstallationId
  outgoing : Bool
  state : MessageState

/-- The books on messages: the message itself, the contact its delivery is queued
for, the operations, and the conversations there are. -/
structure Ledger where
  messages : Uuid → Option Ledger.Entry
  deliveries : Uuid → Option InstallationId
  operations : String → Option DurableOperation
  conversations : InstallationId → Bool

namespace Ledger

abbrev Operations := String → Option DurableOperation

def Operations.Open (operations : Operations) (messageId : Uuid) : Prop :=
  ∃ key operation, operations key = some operation ∧
    operation.Delivers messageId ∧ operation.state.isTerminal = false

/-- Every operation is kept under its own id, and a message has one open delivery
at the most. -/
structure Operations.Ordered (operations : Operations) : Prop where
  keyed : ∀ {key operation},
    operations key = some operation → operation.operationId = key
  single : ∀ {messageId first second one other},
    operations first = some one → one.Delivers messageId →
    one.state.isTerminal = false →
    operations second = some other → other.Delivers messageId →
    other.state.isTerminal = false → first = second

inductive Worked (messageId : Uuid) (operations : Operations) :
    Operations → Prop
  | unchanged : Worked messageId operations operations
  | continued {key : String} {before after : DurableOperation}
      (found : operations key = some before)
      (delivers : before.Delivers messageId)
      (running : before.state.isTerminal = false)
      (identified : after.operationId = before.operationId)
      (delivered : after.Delivers messageId) :
      Worked messageId operations
        (Function.update operations after.operationId (some after))
  | started {after : DurableOperation}
      (free : operations after.operationId = none)
      (idle : ¬ operations.Open messageId)
      (delivered : after.Delivers messageId) :
      Worked messageId operations
        (Function.update operations after.operationId (some after))

inductive Finished (messageId : Uuid) (operations : Operations) :
    Operations → Prop
  | idle (idle : ¬ operations.Open messageId) :
      Finished messageId operations operations
  | finished {key : String} {before after : DurableOperation}
      (found : operations key = some before)
      (delivers : before.Delivers messageId)
      (running : before.state.isTerminal = false)
      (identified : after.operationId = before.operationId)
      (ended : after.state.isTerminal = true) :
      Finished messageId operations
        (Function.update operations after.operationId (some after))

inductive Elsewhere (operations : Operations) : Operations → Prop
  | put {after : DurableOperation}
      (other : after.operationType ≠ .messageDelivery) :
      Elsewhere operations
        (Function.update operations after.operationId (some after))

section

variable {operations : Operations}

theorem Delivers.unique
    {operation : DurableOperation} (first : operation.Delivers messageId)
    (second : operation.Delivers other) : messageId = other :=
  Uuid.text_injective (first.2.symm.trans second.2)

theorem Operations.Ordered.update (ordered : operations.Ordered)
    (alone : ∀ {messageId}, after.Delivers messageId →
      after.state.isTerminal = false →
      ∀ {key operation}, operations key = some operation →
        operation.Delivers messageId → operation.state.isTerminal = false →
        key = after.operationId) :
    Operations.Ordered (update operations after.operationId (some after)) where
  keyed := by
    intro key operation found
    by_cases same : key = after.operationId
    · subst same
      rw [update_self] at found
      cases found
      rfl
    · rw [update_of_ne same] at found
      exact ordered.keyed found
  single := by
    intro messageId first second one other foundOne ofOne openOne foundOther
      ofOther openOther
    by_cases firstSame : first = after.operationId
    · by_cases secondSame : second = after.operationId
      · rw [firstSame, secondSame]
      · rw [firstSame, update_self] at foundOne
        rw [update_of_ne secondSame] at foundOther
        cases foundOne
        rw [firstSame, alone ofOne openOne foundOther ofOther openOther]
    · rw [update_of_ne firstSame] at foundOne
      by_cases secondSame : second = after.operationId
      · rw [secondSame, update_self] at foundOther
        cases foundOther
        rw [secondSame, alone ofOther openOther foundOne ofOne openOne]
      · rw [update_of_ne secondSame] at foundOther
        exact ordered.single foundOne ofOne openOne foundOther ofOther openOther

theorem Operations.Open.of_update
    (opened : Operations.Open (update operations key (some after)) messageId) :
    (after.Delivers messageId ∧ after.state.isTerminal = false) ∨
      operations.Open messageId := by
  obtain ⟨at_, operation, found, delivers, running⟩ := opened
  by_cases same : at_ = key
  · rw [same, update_self] at found
    cases found
    exact .inl ⟨delivers, running⟩
  · rw [update_of_ne same] at found
    exact .inr ⟨at_, operation, found, delivers, running⟩

theorem Worked.ordered (worked : Worked messageId operations changed)
    (ordered : operations.Ordered) : changed.Ordered := by
  cases worked with
  | unchanged => exact ordered
  | @continued key before after found delivers running identified delivered =>
    have keyed := ordered.keyed found
    refine ordered.update fun ofAfter _ _ _ foundOther ofOther openOther => ?_
    rw [Delivers.unique ofAfter delivered] at ofOther
    rw [identified, keyed]
    exact ordered.single foundOther ofOther openOther found delivers running
  | @started after free idle delivered =>
    refine ordered.update fun ofAfter _ key operation found delivers running => ?_
    rw [Delivers.unique ofAfter delivered] at delivers
    exact absurd ⟨key, operation, found, delivers, running⟩ idle

theorem Worked.open_of_ne
    (worked : Worked messageId operations changed) (different : other ≠ messageId)
    (opened : changed.Open other) : operations.Open other := by
  cases worked with
  | unchanged => exact opened
  | continued found delivers running identified delivered =>
    rcases opened.of_update with ⟨ofOther, _⟩ | opened
    · exact absurd (Delivers.unique ofOther delivered) different
    · exact opened
  | started free idle delivered =>
    rcases opened.of_update with ⟨ofOther, _⟩ | opened
    · exact absurd (Delivers.unique ofOther delivered) different
    · exact opened

section

variable (finished : Finished messageId operations changed)

include finished

theorem Finished.ordered (ordered : operations.Ordered) : changed.Ordered := by
  cases finished with
  | idle => exact ordered
  | finished found delivers running identified ended =>
    refine ordered.update fun _ openAfter => ?_
    rw [ended] at openAfter
    cases openAfter

theorem Finished.open_of_open (opened : changed.Open other) :
    operations.Open other := by
  cases finished with
  | idle => exact opened
  | finished found delivers running identified ended =>
    rcases opened.of_update with ⟨_, openAfter⟩ | opened
    · rw [ended] at openAfter
      cases openAfter
    · exact opened

theorem Finished.closed (ordered : operations.Ordered) :
    ¬ changed.Open messageId := by
  cases finished with
  | idle idle => exact idle
  | @finished key before after found delivers running identified ended =>
    rintro ⟨at_, operation, foundAt, ofAt, openAt⟩
    have keyed := identified.trans (ordered.keyed found)
    by_cases same : at_ = after.operationId
    · rw [same, update_self] at foundAt
      cases foundAt
      rw [ended] at openAt
      cases openAt
    · rw [update_of_ne same] at foundAt
      exact same (keyed ▸
        ordered.single foundAt ofAt openAt found delivers running)

end

theorem Elsewhere.ordered (elsewhere : Elsewhere operations changed)
    (ordered : operations.Ordered) : changed.Ordered := by
  cases elsewhere with
  | put other =>
    exact ordered.update fun delivers => absurd delivers.1 other

theorem Elsewhere.open_of_open (elsewhere : Elsewhere operations changed)
    (opened : changed.Open messageId) : operations.Open messageId := by
  cases elsewhere with
  | put other =>
    rcases opened.of_update with ⟨delivers, _⟩ | opened
    · exact absurd delivers.1 other
    · exact opened

end

def Entry.pending (entry : Entry) : Bool :=
  entry.outgoing && MessageState.isPending entry.state

/-- An outgoing message is queued or being sent exactly when its delivery is
queued, and no delivery of a message that is neither is open. The rest is what
the tables keep for this to last. -/
structure Balanced (ledger : Ledger) : Prop where
  ordered : Operations.Ordered ledger.operations
  filed : ∀ {messageId entry}, ledger.messages messageId = some entry →
    ledger.conversations entry.conversationId = true
  owed : ∀ {messageId contact}, ledger.deliveries messageId = some contact →
    ∃ entry, ledger.messages messageId = some entry ∧
      entry.conversationId = contact ∧ entry.pending = true
  queued : ∀ {messageId entry}, ledger.messages messageId = some entry →
    entry.pending = true → ∃ contact, ledger.deliveries messageId = some contact
  settled : ∀ {messageId entry}, ledger.messages messageId = some entry →
    entry.pending = false → ¬ Operations.Open ledger.operations messageId

/-- `INSERT OR IGNORE`: a delivery that is queued already stays as it is. -/
def enlisted (ledger : Ledger) (messageId : Uuid) (contact : InstallationId) :
    Uuid → Option InstallationId :=
  Function.update ledger.deliveries messageId
    (some ((ledger.deliveries messageId).getD contact))

def mark (ledger : Ledger) (messageId : Uuid) (entry : Entry)
    (state : MessageState) : Uuid → Option Entry :=
  Function.update ledger.messages messageId
    (some { entry with state := state })

/-- The single steps of the books that leave them balanced. -/
inductive Move : Ledger → Ledger → Prop
  | converse {ledger : Ledger} {conversations : InstallationId → Bool}
      (kept : ∀ contact, ledger.conversations contact = true →
        conversations contact = true) :
      Move ledger { ledger with conversations := conversations }
  | operate {ledger : Ledger} {operations : Operations}
      (elsewhere : Elsewhere ledger.operations operations) :
      Move ledger { ledger with operations := operations }
  | queue {ledger : Ledger} {messageId : Uuid} {entry : Entry}
      {operations : Operations}
      (free : ledger.messages messageId = none)
      (pending : entry.pending = true)
      (filed : ledger.conversations entry.conversationId = true)
      (worked : Worked messageId ledger.operations operations) :
      Move ledger
        { ledger with
          messages := Function.update ledger.messages messageId (some entry)
          deliveries := ledger.enlisted messageId entry.conversationId
          operations := operations }
  | send {ledger : Ledger} {messageId : Uuid} {entry : Entry}
      (found : ledger.messages messageId = some entry)
      (pending : entry.pending = true) :
      Move ledger
        { ledger with messages := ledger.mark messageId entry .sending }
  | resend {ledger : Ledger} {messageId : Uuid} {entry : Entry}
      {operations : Operations}
      (found : ledger.messages messageId = some entry)
      (outgoing : entry.outgoing = true)
      (again : entry.state = .failed ∨ entry.state = .queued)
      (worked : Worked messageId ledger.operations operations) :
      Move ledger
        { ledger with
          messages := ledger.mark messageId entry .sending
          deliveries := ledger.enlisted messageId entry.conversationId
          operations := operations }
  | enlist {ledger : Ledger} {messageId : Uuid} {entry : Entry}
      {operations : Operations}
      (found : ledger.messages messageId = some entry)
      (pending : entry.pending = true)
      (worked : Worked messageId ledger.operations operations) :
      Move ledger
        { ledger with
          deliveries := ledger.enlisted messageId entry.conversationId
          operations := operations }
  | postpone {ledger : Ledger} {messageId : Uuid} {entry : Entry}
      {operations : Operations}
      (found : ledger.messages messageId = some entry)
      (outgoing : entry.outgoing = true)
      (undelivered : entry.state ≠ .delivered ∧ entry.state ≠ .read)
      (owed : ∃ contact, ledger.deliveries messageId = some contact)
      (worked : Worked messageId ledger.operations operations) :
      Move ledger
        { ledger with
          messages := ledger.mark messageId entry .queued
          operations := operations }
  | settle {ledger : Ledger} {messageId : Uuid} {entry : Entry}
      {outcome : MessageTransportOutcome} {state : MessageState}
      {operations : Operations}
      (found : ledger.messages messageId = some entry)
      (outgoing : entry.outgoing = true)
      (next : messageStateAfterTransportOutcome entry.state outcome = some state)
      (done : MessageState.isPending state = false)
      (finished : Finished messageId ledger.operations operations) :
      Move ledger
        { ledger with
          messages := ledger.mark messageId entry state
          deliveries := Function.update ledger.deliveries messageId none
          operations := operations }
  | read {ledger : Ledger} {messageId : Uuid} {entry : Entry}
      (found : ledger.messages messageId = some entry)
      (outgoing : entry.outgoing = true)
      (arrived : entry.state = .sent ∨ entry.state = .delivered) :
      Move ledger { ledger with messages := ledger.mark messageId entry .read }
  | requeue {ledger : Ledger} (which : Uuid → Entry → Bool) :
      Move ledger
        { ledger with
          messages := fun messageId =>
            (ledger.messages messageId).map fun entry =>
              if which messageId entry && entry.pending then
                { entry with state := .queued }
              else
                entry }

inductive Acknowledged (messageId : Uuid) (ledger : Ledger) : Ledger → Prop
  | moved {entry : Entry} {state : MessageState}
      (found : ledger.messages messageId = some entry)
      (outgoing : entry.outgoing = true)
      (next : messageStateAfterTransportOutcome entry.state .delivered =
        some state) :
      Acknowledged messageId ledger
        { ledger with messages := ledger.mark messageId entry state }

inductive Received (messageId : Uuid) (ledger : Ledger) : Ledger → Prop
  | unchanged : Received messageId ledger ledger
  | stored {entry : Entry} {conversations : InstallationId → Bool}
      (free : ledger.messages messageId = none)
      (incoming : entry.outgoing = false)
      (filed : ledger.conversations entry.conversationId = true)
      (kept : ∀ contact, ledger.conversations contact = true →
        conversations contact = true) :
      Received messageId ledger
        { ledger with
          messages := Function.update ledger.messages messageId (some entry)
          conversations := conversations }

def dismiss (contact : InstallationId) (ledger : Ledger) : Ledger :=
  { ledger with
    messages := fun messageId => (ledger.messages messageId).map fun entry =>
      if ledger.conversations contact &&
          decide (entry.conversationId = contact) && entry.pending then
        { entry with state := .failed }
      else
        entry
    deliveries := fun messageId =>
      (ledger.deliveries messageId).filter fun owed => decide (owed ≠ contact) }

def Entry.within (ledger : Ledger) (contact : InstallationId) (entry : Entry) :
    Bool :=
  ledger.conversations contact && decide (entry.conversationId = contact)

def forget (contact : InstallationId) (ledger : Ledger) : Ledger :=
  { ledger with
    messages := fun messageId =>
      (ledger.messages messageId).filter fun entry =>
        !entry.within ledger contact
    deliveries := fun messageId =>
      if (ledger.messages messageId).any (·.within ledger contact) then none
      else ledger.deliveries messageId }

def discard (messageId : Uuid) (operations : Operations) (ledger : Ledger) :
    Ledger :=
  { ledger with
    messages := Function.update ledger.messages messageId none
    deliveries := Function.update ledger.deliveries messageId none
    operations := operations }

theorem discard_messages
    {ledger : Ledger} {operations : Operations} :
    (ledger.discard messageId operations).messages other = some entry ↔
      other ≠ messageId ∧ ledger.messages other = some entry := by
  simp only [discard, Function.update_apply]
  split
  · simp [*]
  · simp [*]

/-! ## The books stay balanced -/

variable {state : MessageState}

namespace Balanced

variable {ledger : Ledger}

theorem delivery_of_pending (balanced : ledger.Balanced)
    (found : ledger.messages messageId = some entry)
    (pending : entry.pending = true) :
    ledger.deliveries messageId = some entry.conversationId := by
  obtain ⟨contact, owed⟩ := balanced.queued found pending
  obtain ⟨stored, same, conversation, _⟩ := balanced.owed owed
  cases found.symm.trans same
  rw [owed, conversation]

theorem delivery_of_settled (balanced : ledger.Balanced)
    (found : ledger.messages messageId = some entry)
    (settled : entry.pending = false) : ledger.deliveries messageId = none := by
  cases owed : ledger.deliveries messageId with
  | none => rfl
  | some contact =>
    obtain ⟨stored, same, _, pending⟩ := balanced.owed owed
    cases found.symm.trans same
    rw [settled] at pending
    cases pending

theorem delivery_of_free (balanced : ledger.Balanced)
    (free : ledger.messages messageId = none) :
    ledger.deliveries messageId = none := by
  cases owed : ledger.deliveries messageId with
  | none => rfl
  | some contact =>
    obtain ⟨stored, found, _⟩ := balanced.owed owed
    rw [free] at found
    cases found

variable {operations : Operations}

section

variable (balanced : ledger.Balanced)

include balanced

theorem post (messageId : Uuid) (entry : Entry)
    (filed : ledger.conversations entry.conversationId = true)
    (ordered : operations.Ordered)
    (others : ∀ {other}, other ≠ messageId → operations.Open other →
      Operations.Open ledger.operations other)
    (pending : entry.pending = true → delivery = some entry.conversationId)
    (settled : entry.pending = false →
      delivery = none ∧ ¬ operations.Open messageId) :
    Balanced
      { ledger with
        messages := update ledger.messages messageId (some entry)
        deliveries := update ledger.deliveries messageId delivery
        operations := operations } where
  ordered := ordered
  filed := by
    intro other stored found
    by_cases same : other = messageId
    · subst same
      cases (update_self ..).symm.trans found
      exact filed
    · exact balanced.filed ((update_of_ne same ..).symm.trans found)
  owed := by
    intro other contact owed
    by_cases same : other = messageId
    · subst same
      have written : delivery = some contact := by
        rw [← owed]
        exact (update_self other delivery ledger.deliveries).symm
      refine ⟨entry, update_self .., ?_⟩
      cases awaits : entry.pending with
      | true =>
        exact ⟨Option.some.inj ((pending awaits).symm.trans written), rfl⟩
      | false =>
        cases (settled awaits).1.symm.trans written
    · obtain ⟨stored, found, rest⟩ :=
        balanced.owed ((update_of_ne same ..).symm.trans owed)
      exact ⟨stored, (update_of_ne same ..).trans found, rest⟩
  queued := by
    intro other stored found awaits
    by_cases same : other = messageId
    · subst same
      cases (update_self ..).symm.trans found
      exact ⟨_, (update_self ..).trans (pending awaits)⟩
    · obtain ⟨contact, owed⟩ := balanced.queued
        ((update_of_ne same ..).symm.trans found) awaits
      exact ⟨contact, (update_of_ne same ..).trans owed⟩
  settled := by
    intro other stored found done
    by_cases same : other = messageId
    · subst same
      cases (update_self ..).symm.trans found
      exact (settled done).2
    · intro opened
      exact balanced.settled ((update_of_ne same ..).symm.trans found)
        done (others same opened)

theorem remark {change : Uuid → Entry → Entry}
    (conversation : ∀ messageId entry,
      (change messageId entry).conversationId = entry.conversationId)
    (pending : ∀ messageId entry,
      (change messageId entry).pending = entry.pending) :
    Balanced
      { ledger with
        messages := fun messageId =>
          (ledger.messages messageId).map (change messageId) } where
  ordered := balanced.ordered
  filed := by
    intro messageId stored found
    obtain ⟨entry, original, rfl⟩ := Option.map_eq_some_iff.mp found
    rw [conversation]
    exact balanced.filed original
  owed := by
    intro messageId contact owed
    obtain ⟨entry, found, same, awaits⟩ := balanced.owed owed
    refine ⟨change messageId entry, ?_, ?_, ?_⟩
    · simp only [found, Option.map_some]
    · rw [conversation, same]
    · rw [pending, awaits]
  queued := by
    intro messageId stored found awaits
    obtain ⟨entry, original, rfl⟩ := Option.map_eq_some_iff.mp found
    rw [pending] at awaits
    exact balanced.queued original awaits
  settled := by
    intro messageId stored found done
    obtain ⟨entry, original, rfl⟩ := Option.map_eq_some_iff.mp found
    rw [pending] at done
    exact balanced.settled original done

theorem mark (found : ledger.messages messageId = some entry)
    (same : { entry with state := state }.pending = entry.pending) :
    Balanced { ledger with messages := ledger.mark messageId entry state } := by
  have filed := balanced.filed found
  have pending (awaits : entry.pending = true) :=
    balanced.delivery_of_pending found awaits
  have posted := balanced.post messageId { entry with state := state } filed
    balanced.ordered (fun _ opened => opened)
    (fun awaits => pending (same.symm.trans awaits))
    (fun settled => ⟨balanced.delivery_of_settled found (same.symm.trans settled),
      balanced.settled found (same.symm.trans settled)⟩)
  rw [update_eq_self] at posted
  exact posted

theorem enlist (messageId : Uuid) (entry : Entry)
    (filed : ledger.conversations entry.conversationId = true)
    (known : ∀ stored, ledger.messages messageId = some stored →
      stored.conversationId = entry.conversationId)
    (pending : entry.pending = true)
    (worked : Worked messageId ledger.operations operations) :
    Balanced
      { ledger with
        messages := update ledger.messages messageId (some entry)
        deliveries := ledger.enlisted messageId entry.conversationId
        operations := operations } := by
  refine balanced.post messageId entry filed (worked.ordered balanced.ordered)
    (fun different opened => worked.open_of_ne different opened) (fun _ => ?_)
    fun settled => ?_
  · congr 1
    cases owed : ledger.deliveries messageId with
    | none => rfl
    | some contact =>
      obtain ⟨stored, found, conversation, _⟩ := balanced.owed owed
      rw [← conversation]
      exact known stored found
  · rw [pending] at settled
    cases settled

theorem move (moved : Move ledger after) : after.Balanced := by
  cases moved with
  | converse kept =>
    exact ⟨balanced.ordered, fun found => kept _ (balanced.filed found),
      balanced.owed, balanced.queued, balanced.settled⟩
  | operate elsewhere =>
    exact ⟨elsewhere.ordered balanced.ordered, balanced.filed, balanced.owed,
      balanced.queued, fun found done opened =>
        balanced.settled found done (elsewhere.open_of_open opened)⟩
  | queue free pending filed worked =>
    refine balanced.enlist _ _ filed (fun stored found => ?_) pending worked
    rw [free] at found
    cases found
  | @send messageId entry found pending =>
    refine balanced.mark found ?_
    rw [pending]
    simp only [Entry.pending, Bool.and_eq_true] at pending ⊢
    exact ⟨pending.1, rfl⟩
  | @resend messageId entry operations found outgoing again worked =>
    have filed := balanced.filed found
    refine balanced.enlist messageId { entry with state := .sending } filed
      (fun stored same => ?_) ?_ worked
    · cases found.symm.trans same
      rfl
    · simp only [Entry.pending, outgoing]
      rfl
  | @enlist messageId entry operations found pending worked =>
    have enlisted := balanced.enlist messageId entry (balanced.filed found)
      (fun stored same => by cases found.symm.trans same; rfl) pending worked
    rw [← found, update_eq_self] at enlisted
    exact enlisted
  | @postpone messageId entry operations found outgoing undelivered owed worked =>
    obtain ⟨contact, owed⟩ := owed
    obtain ⟨stored, same, conversation, pending⟩ := balanced.owed owed
    cases found.symm.trans same
    have filed := balanced.filed found
    have delivery := balanced.delivery_of_pending found pending
    have posted := balanced.post messageId { entry with state := .queued }
      filed (worked.ordered balanced.ordered)
      (fun different opened => worked.open_of_ne different opened)
      (fun _ => delivery)
      (fun settled => ?_)
    · rw [update_eq_self] at posted
      exact posted
    · simp only [Entry.pending, outgoing] at settled
      cases settled
  | @settle messageId entry outcome state operations found outgoing next done
      finished =>
      have filed := balanced.filed found
      refine balanced.post messageId { entry with state := state } filed
        (finished.ordered balanced.ordered)
        (fun _ opened => finished.open_of_open opened) (fun pending => ?_)
        fun _ => ⟨rfl, finished.closed balanced.ordered⟩
      simp only [Entry.pending, done, Bool.and_false] at pending
      cases pending
  | @read messageId entry found outgoing arrived =>
    refine balanced.mark found ?_
    rcases arrived with state | state
    · simp only [Entry.pending, state]
      rfl
    · simp only [Entry.pending, state]
      rfl
  | requeue which =>
    refine balanced.remark (fun messageId entry => ?_) fun messageId entry => ?_
    · split
      · rfl
      · rfl
    · split
      · rename_i chosen
        have pending := (Bool.and_eq_true_iff.mp chosen).2
        rw [pending]
        simp only [Entry.pending, Bool.and_eq_true] at pending ⊢
        exact ⟨pending.1, rfl⟩
      · rfl

theorem acknowledged (moved : Acknowledged messageId ledger after)
    (sent : ∀ entry, ledger.messages messageId = some entry →
      entry.state ≠ .sending) : after.Balanced := by
  cases moved with
  | @moved entry state found outgoing next =>
    refine balanced.mark found ?_
    have passed := sent entry found
    simp only [Entry.pending, outgoing, Bool.true_and]
    revert next passed
    cases entry.state <;> cases state <;> decide

theorem received (moved : Received messageId ledger after)
    (idle : ¬ Operations.Open ledger.operations messageId) :
    after.Balanced := by
  cases moved with
  | unchanged => exact balanced
  | @stored entry conversations free incoming filed kept =>
    have posted := balanced.post messageId entry filed balanced.ordered
      (fun _ opened => opened) (fun pending => ?_)
      (fun _ => ⟨balanced.delivery_of_free free, idle⟩)
    · rw [update_eq_self] at posted
      exact posted.move (.converse kept)
    · simp only [Entry.pending, incoming, Bool.false_and] at pending
      cases pending

end

theorem dismiss_messages
    (found : (ledger.dismiss contact).messages messageId = some stored) :
    ∃ entry, ledger.messages messageId = some entry ∧
      stored.conversationId = entry.conversationId ∧
      (entry.within ledger contact = true ∧ entry.pending = true ∧
          stored.pending = false ∨
        (entry.within ledger contact = true → entry.pending = false) ∧
          stored = entry) := by
  obtain ⟨entry, original, rfl⟩ := Option.map_eq_some_iff.mp found
  refine ⟨entry, original, ?_⟩
  cases inside : entry.within ledger contact with
  | false =>
    have apart : (ledger.conversations contact &&
        decide (entry.conversationId = contact)) = false := inside
    simp [apart]
  | true =>
    have met : (ledger.conversations contact &&
        decide (entry.conversationId = contact)) = true := inside
    cases pending : entry.pending with
    | false => simp
    | true =>
      rw [met]
      refine ⟨rfl, .inl ⟨rfl, rfl, ?_⟩⟩
      simp [Entry.pending, MessageState.isPending]

theorem dismiss_deliveries {owed : InstallationId}
    (found : (ledger.dismiss contact).deliveries messageId = some owed) :
    ledger.deliveries messageId = some owed ∧ owed ≠ contact := by
  obtain ⟨original, different⟩ := Option.filter_eq_some_iff.mp found
  exact ⟨original, of_decide_eq_true different⟩

theorem dismiss (balanced : ledger.Balanced)
    (idle : ∀ messageId entry, ledger.messages messageId = some entry →
      entry.conversationId = contact → entry.pending = true →
      ¬ Operations.Open ledger.operations messageId) :
    (ledger.dismiss contact).Balanced where
  ordered := balanced.ordered
  filed := by
    intro messageId stored found
    obtain ⟨entry, original, conversation, _⟩ := dismiss_messages found
    rw [conversation]
    exact balanced.filed original
  owed := by
    intro messageId owed found
    obtain ⟨queued, different⟩ := dismiss_deliveries found
    obtain ⟨entry, original, conversation, pending⟩ := balanced.owed queued
    have apart : entry.conversationId ≠ contact := conversation ▸ different
    refine ⟨entry, ?_, conversation, pending⟩
    simp [Ledger.dismiss, original, apart]
  queued := by
    intro messageId stored found awaits
    obtain ⟨entry, original, _, ⟨_, _, done⟩ | ⟨apart, rfl⟩⟩ :=
      dismiss_messages found
    · rw [done] at awaits
      cases awaits
    · have queued := balanced.delivery_of_pending original awaits
      refine ⟨stored.conversationId, Option.filter_eq_some_iff.mpr
        ⟨queued, decide_eq_true ?_⟩⟩
      rintro rfl
      have inside : stored.within ledger stored.conversationId = true := by
        simp [Entry.within, balanced.filed original]
      rw [apart inside] at awaits
      cases awaits
  settled := by
    intro messageId stored found done
    obtain ⟨entry, original, _, ⟨inside, pending, _⟩ | ⟨_, rfl⟩⟩ :=
      dismiss_messages found
    · exact idle messageId entry original
        (of_decide_eq_true (Bool.and_eq_true_iff.mp inside).2) pending
    · exact balanced.settled original done

theorem forget_messages :
    ((ledger.dismiss contact).forget contact).messages messageId = some stored ↔
      ledger.messages messageId = some stored ∧
        stored.within ledger contact = false := by
  constructor
  · intro found
    obtain ⟨dismissed, kept⟩ := Option.filter_eq_some_iff.mp found
    have outside : stored.within ledger contact = false :=
      Bool.not_eq_true' _ ▸ kept
    obtain ⟨entry, original, conversation, ⟨inside, _⟩ | ⟨_, rfl⟩⟩ :=
      dismiss_messages dismissed
    · simp only [Entry.within] at inside outside
      rw [conversation, inside] at outside
      cases outside
    · exact ⟨original, outside⟩
  · rintro ⟨original, outside⟩
    have apart : (ledger.conversations contact &&
        decide (stored.conversationId = contact)) = false := outside
    refine Option.filter_eq_some_iff.mpr ⟨?_, ?_⟩
    · simp only [Ledger.dismiss, original, Option.map_some, apart,
        Bool.false_and, Bool.false_eq_true, if_false]
    · rw [Bool.not_eq_true']
      exact outside

theorem forget (balanced : ledger.Balanced) (contact : InstallationId) :
    ((ledger.dismiss contact).forget contact).Balanced where
  ordered := balanced.ordered
  filed := by
    intro messageId stored found
    exact balanced.filed (forget_messages.mp found).1
  owed := by
    intro messageId owed found
    have queued : (ledger.dismiss contact).deliveries messageId = some owed := by
      simp only [Ledger.forget] at found
      split at found
      · cases found
      · exact found
    obtain ⟨queued, different⟩ := dismiss_deliveries queued
    obtain ⟨entry, original, conversation, pending⟩ := balanced.owed queued
    have apart : entry.conversationId ≠ contact := conversation ▸ different
    refine ⟨entry, forget_messages.mpr ⟨original, ?_⟩, conversation, pending⟩
    simp [Entry.within, apart]
  queued := by
    intro messageId stored found awaits
    obtain ⟨original, outside⟩ := forget_messages.mp found
    have queued := balanced.delivery_of_pending original awaits
    have apart : (ledger.conversations contact &&
        decide (stored.conversationId = contact)) = false := outside
    have elsewhere : stored.conversationId ≠ contact := by
      rintro rfl
      simp [balanced.filed original] at apart
    refine ⟨stored.conversationId, ?_⟩
    have kept : (ledger.dismiss contact).messages messageId = some stored := by
      simp only [Ledger.dismiss, original, Option.map_some, apart,
        Bool.false_and, Bool.false_eq_true, if_false]
    have outsideStill : stored.within (ledger.dismiss contact) contact = false :=
      outside
    simp only [Ledger.forget, kept, Option.any_some, outsideStill,
      Bool.false_eq_true, if_false]
    exact Option.filter_eq_some_iff.mpr ⟨queued, decide_eq_true elsewhere⟩
  settled := by
    intro messageId stored found done
    exact balanced.settled (forget_messages.mp found).1 done

theorem discard {operations : Operations} (balanced : ledger.Balanced)
    (finished : Finished messageId ledger.operations operations) :
    (ledger.discard messageId operations).Balanced where
  ordered := finished.ordered balanced.ordered
  filed := by
    intro other entry found
    exact balanced.filed (discard_messages.mp found).2
  owed := by
    intro other contact owed
    simp only [Ledger.discard, Function.update_apply] at owed
    split at owed
    · cases owed
    · rename_i apart
      obtain ⟨entry, found, kept⟩ := balanced.owed owed
      exact ⟨entry, discard_messages.mpr ⟨apart, found⟩, kept⟩
  queued := by
    intro other entry found pending
    obtain ⟨apart, found⟩ := discard_messages.mp found
    obtain ⟨contact, owed⟩ := balanced.queued found pending
    exact ⟨contact, by simp [Ledger.discard, apart, owed]⟩
  settled := by
    intro other entry found done opened
    obtain ⟨_, found⟩ := discard_messages.mp found
    exact balanced.settled found done (finished.open_of_open opened)

end Balanced

/-- What may still become of a message: an incoming one keeps its state, a
delivered one may be read, a read one stays read. -/
structure Entry.Follows (later earlier : Entry) : Prop where
  outgoing : later.outgoing = earlier.outgoing
  incoming : earlier.outgoing = false → later.state = earlier.state
  delivered : earlier.state = .delivered →
    later.state = .delivered ∨ later.state = .read
  read : earlier.state = .read → later.state = .read

namespace Entry.Follows

variable {third entry : Entry}

theorem refl (entry : Entry) : entry.Follows entry :=
  ⟨rfl, fun _ => rfl, .inl, id⟩

theorem trans (later : third.Follows second) (earlier : second.Follows first) :
    third.Follows first where
  outgoing := later.outgoing.trans earlier.outgoing
  incoming incoming :=
    (later.incoming (earlier.outgoing.trans incoming)).trans
      (earlier.incoming incoming)
  delivered delivered := by
    rcases earlier.delivered delivered with still | read
    · exact later.delivered still
    · exact .inr (later.read read)
  read read := later.read (earlier.read read)

theorem of_undelivered (outgoing : entry.outgoing = true)
    (undelivered : entry.state ≠ .delivered ∧ entry.state ≠ .read)
    (state : MessageState) : { entry with state := state }.Follows entry where
  outgoing := rfl
  incoming incoming := by
    rw [outgoing] at incoming
    cases incoming
  delivered delivered := absurd delivered undelivered.1
  read read := absurd read undelivered.2

theorem of_outcome (outgoing : entry.outgoing = true)
    (next : messageStateAfterTransportOutcome entry.state outcome = some state) :
    { entry with state := state }.Follows entry where
  outgoing := rfl
  incoming incoming := by
    rw [outgoing] at incoming
    cases incoming
  delivered delivered := by
    rw [delivered] at next
    revert next
    cases outcome <;> cases state <;> simp [messageStateAfterTransportOutcome]
  read read := by
    rw [read] at next
    revert next
    cases outcome <;> cases state <;> simp [messageStateAfterTransportOutcome]

end Entry.Follows

theorem Entry.undelivered_of_pending
    {entry : Entry} (pending : entry.pending = true) :
    entry.outgoing = true ∧ entry.state ≠ .delivered ∧ entry.state ≠ .read := by
  obtain ⟨outgoing, state⟩ := Bool.and_eq_true_iff.mp pending
  refine ⟨outgoing, ?_, ?_⟩
  · intro delivered
    rw [delivered] at state
    cases state
  · intro read
    rw [read] at state
    cases state

def Advances (before after : Ledger) : Prop :=
  ∀ messageId entry, before.messages messageId = some entry →
    ∃ later, after.messages messageId = some later ∧ later.Follows entry

def Retreats (before after : Ledger) : Prop :=
  ∀ messageId entry, before.messages messageId = some entry →
    after.messages messageId = none ∨
    ∃ later, after.messages messageId = some later ∧ later.Follows entry

section

variable {messageId : Uuid}

theorem Advances.refl (ledger : Ledger) : Advances ledger ledger :=
  fun _ entry found => ⟨entry, found, .refl entry⟩

theorem Advances.trans (earlier : Advances first second)
    (later : Advances second third) : Advances first third := by
  intro messageId entry found
  obtain ⟨middle, foundMiddle, followed⟩ := earlier messageId entry found
  obtain ⟨last, foundLast, followedOn⟩ := later messageId middle foundMiddle
  exact ⟨last, foundLast, followedOn.trans followed⟩

theorem Advances.retreats (advanced : Advances before after) :
    Retreats before after :=
  fun messageId entry found => .inr (advanced messageId entry found)

theorem Advances.update
    (written : after.messages = update ledger.messages messageId (some later))
    (followed : ∀ entry, ledger.messages messageId = some entry →
      later.Follows entry) : Advances ledger after := by
  intro other entry found
  rw [written]
  by_cases same : other = messageId
  · subst same
    exact ⟨later, update_self .., followed entry found⟩
  · exact ⟨entry, (update_of_ne same ..).trans found, .refl entry⟩

theorem Advances.mark
    (written : after.messages = ledger.mark messageId entry state)
    (found : ledger.messages messageId = some entry)
    (followed : { entry with state := state }.Follows entry) :
    Advances ledger after := by
  refine Advances.update written fun stored same => ?_
  cases found.symm.trans same
  exact followed

theorem Advances.map {change : Uuid → Entry → Entry}
    (written : ∀ messageId, after.messages messageId =
      (ledger.messages messageId).map (change messageId))
    (followed : ∀ messageId entry,
      (change messageId entry).Follows entry) : Advances ledger after := by
  intro messageId entry found
  refine ⟨change messageId entry, ?_, followed messageId entry⟩
  rw [written, found, Option.map_some]

theorem Move.advances (moved : Move ledger after) : Advances ledger after := by
  cases moved with
  | converse => exact .refl _
  | operate => exact .refl _
  | queue free =>
    refine .update rfl fun stored found => ?_
    rw [free] at found
    cases found
  | send found pending =>
    obtain ⟨outgoing, undelivered⟩ := Entry.undelivered_of_pending pending
    exact .mark rfl found (.of_undelivered outgoing undelivered _)
  | resend found outgoing again =>
    refine .mark rfl found (.of_undelivered outgoing ?_ _)
    rcases again with state | state
    · simp [state]
    · simp [state]
  | enlist => exact .refl _
  | postpone found outgoing undelivered =>
    exact .mark rfl found (.of_undelivered outgoing undelivered _)
  | settle found outgoing next =>
    exact .mark rfl found (.of_outcome outgoing next)
  | @read messageId entry found outgoing arrived =>
    refine .mark rfl found ⟨rfl, fun incoming => ?_, fun _ => .inr rfl,
      fun _ => rfl⟩
    rw [outgoing] at incoming
    cases incoming
  | requeue which =>
    refine .map (fun _ => rfl) fun messageId entry => ?_
    split
    · rename_i chosen
      obtain ⟨outgoing, undelivered⟩ :=
        Entry.undelivered_of_pending (Bool.and_eq_true_iff.mp chosen).2
      exact .of_undelivered outgoing undelivered _
    · exact .refl entry

theorem Acknowledged.advances
    (moved : Acknowledged messageId ledger after) : Advances ledger after := by
  cases moved with
  | moved found outgoing next =>
    exact .mark rfl found (.of_outcome outgoing next)

theorem Received.advances
    (moved : Received messageId ledger after) : Advances ledger after := by
  cases moved with
  | unchanged => exact .refl _
  | stored free =>
    refine .update rfl fun stored found => ?_
    rw [free] at found
    cases found

theorem dismiss_advances (contact : InstallationId) :
    Advances ledger (ledger.dismiss contact) := by
  refine .map (fun _ => rfl) fun messageId entry => ?_
  split
  · rename_i chosen
    obtain ⟨outgoing, undelivered⟩ :=
      Entry.undelivered_of_pending (Bool.and_eq_true_iff.mp chosen).2
    exact .of_undelivered outgoing undelivered _
  · exact .refl entry

theorem forget_retreats (contact : InstallationId) :
    Retreats ledger (ledger.forget contact) := by
  intro messageId entry found
  cases inside : entry.within ledger contact with
  | true => exact .inl (by simp [forget, found, inside])
  | false =>
    exact .inr ⟨entry, by simp [forget, found, inside], .refl entry⟩

theorem discard_retreats (discarded : Uuid) (operations : Operations) :
    Retreats ledger (ledger.discard discarded operations) := by
  intro messageId entry found
  by_cases same : messageId = discarded
  · exact .inl (by simp [discard, same])
  · exact .inr ⟨entry, discard_messages.mpr ⟨same, found⟩, .refl entry⟩

theorem Advances.then_retreats (advanced : Advances before middle)
    (retreated : Retreats middle after) : Retreats before after := by
  intro messageId entry found
  obtain ⟨later, foundLater, followed⟩ := advanced messageId entry found
  rcases retreated messageId later foundLater with gone | ⟨last, kept, followedOn⟩
  · exact .inl gone
  · exact .inr ⟨last, kept, followedOn.trans followed⟩

end

end Ledger

end Torchat
