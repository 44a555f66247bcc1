import Mathlib.Data.Finset.Card
import Torchat.Engine.BridgeScope
import Torchat.Runtime.PairingItems
import Torchat.Storage.CrossedPairing

namespace Torchat

open Foundation Storage Database

namespace Storage

def PairingTables.Outstanding
    (tables : PairingTables) (pairingId : String) : Prop :=
  ∃ row, tables.outbox.lookup pairingId = some row ∧ row.active = true

theorem Retires.active (retires : Retires f selected pairingId)
    (active : (f target row).active = true) : row.active = true := by
  obtain ⟨state, retired, retires⟩ := retires
  rw [PairingRow.active, retires] at active
  split at active
  · rw [retired] at active
    cases active
  · exact active

theorem Retires.outstanding
    {tables tables' : PairingTables} (retires : Retires f selected own)
    (found : tables'.outbox.lookup pairingId =
      (tables.outbox.lookup pairingId).map (f pairingId))
    (outstanding : tables'.Outstanding pairingId) :
    tables.Outstanding pairingId := by
  obtain ⟨row, looked, active⟩ := outstanding
  rw [found] at looked
  obtain ⟨previous, present, rfl⟩ := Option.map_eq_some_iff.mp looked
  exact ⟨previous, present, retires.active active⟩

theorem putPairingInbox_outstanding
    (done : putPairingInbox tables item = .ok tables')
    (outstanding : tables'.Outstanding pairingId) :
    tables.Outstanding pairingId := by
  cases hasSender : item.sender with
  | none => simp [putPairingInbox, hasSender] at done
  | some sender =>
  cases hasCapability : item.capability with
  | none => simp [putPairingInbox, hasSender, hasCapability] at done
  | some capability =>
  cases key : item.pairKey with
  | none =>
    obtain ⟨stored, upserted, outbox, _⟩ := upsertPairingInbox_ok tables
      item sender capability (by simp [PairingTable.FreeFor, key])
    simp only [putPairingInbox, hasSender, hasCapability, key, upserted] at done
    cases done
    rwa [PairingTables.Outstanding, outbox] at outstanding
  | some pairKey =>
    cases superseded : tables.outbox.hasSuperseded pairKey item.pairingId with
    | true =>
      rw [putPairingInbox_superseded hasSender hasCapability key superseded]
        at done
      cases done
      exact outstanding
    | false =>
      obtain ⟨stored, put, outbox, _⟩ :=
        putPairingInbox_ok hasSender hasCapability key superseded
      rw [put] at done
      cases done
      exact crossedOutboxRow_retires.outstanding (outbox pairingId) outstanding

theorem putPairingOutbox_outstanding
    (done : putPairingOutbox tables item = .ok tables')
    (outstanding : tables'.Outstanding pairingId) :
    tables.Outstanding pairingId ∨
      pairingId = item.pairingId ∧ item.state.isOutstanding = true := by
  obtain ⟨row, looked, active⟩ := outstanding
  cases key : item.pairKey with
  | none =>
    obtain ⟨stored, put, _, outbox⟩ := putPairingOutbox_unkeyed tables key
    rw [put] at done
    cases done
    rw [outbox] at looked
    split at looked
    · cases looked
      exact .inr ⟨‹_›, active⟩
    · exact .inl ⟨row, looked, active⟩
  | some pairKey =>
    cases superseded : tables.inbox.hasSuperseded pairKey item.pairingId with
    | true =>
      rw [putPairingOutbox_superseded key superseded] at done
      cases done
      exact .inl ⟨row, looked, active⟩
    | false =>
      obtain ⟨stored, put, _, outbox⟩ := putPairingOutbox_ok key superseded
      rw [put] at done
      cases done
      have present := outbox pairingId
      split at present
      · rw [present] at looked
        cases looked
        exact .inr ⟨‹_›, active⟩
      · exact .inl ((retiredRow_retires rfl).outstanding present
          ⟨row, looked, active⟩)

/-- Whatever is outstanding now was so before. -/
def Database.Settling
    (fresh : String → Prop) (before after : Database) : Prop :=
  ∀ pairingId, after.pairing.Outstanding pairingId →
    before.pairing.Outstanding pairingId ∨ fresh pairingId

instance Database.Settling.frame : Frame (Settling fresh) where
  refl _ _ := .inl
  trans first second pairingId outstanding := by
    cases second pairingId outstanding with
    | inl between => exact first pairingId between
    | inr new => exact .inr new

end Storage

/-! ## What the calls leave outstanding -/

variable {database : Database}

namespace Runtime

open Pairing

variable {fresh : String → Prop}

abbrev Settles (fresh : String → Prop) : Runtime → Runtime → Prop :=
  Within (Database.Settling fresh)

instance : (putPairingInbox item).Keeps (Settles fresh) := by
  have put : (execute (onPairing
      (Storage.putPairingInbox · item))).Keeps (Settling fresh) :=
    .execute fun before after done _ outstanding => by
      obtain ⟨tables, written, rest⟩ := bind_eq_ok.mp done
      cases rest
      exact .inl (putPairingInbox_outstanding written outstanding)
  unfold putPairingInbox
  infer_instance

theorem Within.put_outbox (called : start.Called runtime)
    (settles : item.state.isOutstanding = true →
      start.database.pairing.Outstanding item.pairingId ∨
        fresh item.pairingId) :
    Settles fresh start (putPairingOutbox item runtime).2 := by
  refine .of_write called fun after done pairingId outstanding => ?_
  obtain ⟨tables, written, rest⟩ := bind_eq_ok.mp done
  cases rest
  obtain before | ⟨rfl, active⟩ :=
    putPairingOutbox_outstanding written outstanding
  · exact .inl before
  · exact settles active

theorem putPairingOutbox_settles
    (settles : item.state.isOutstanding = true → fresh item.pairingId) :
    (putPairingOutbox item).Keeps (Settles fresh) :=
  ⟨fun start => Within.put_outbox (Frame.refl start) fun active =>
    .inr (settles active)⟩

theorem putPairingOutbox_over (ended : item.state.isOutstanding = false) :
    (putPairingOutbox item).Keeps (Settles fresh) :=
  putPairingOutbox_settles (by simp [ended])

instance : (inviteStateChanged pairingId state).Keeps (Settles fresh) := by
  unfold inviteStateChanged
  infer_instance

theorem expirePairingItems_settles
    (kept : ∀ item : PairingItem, item.state.isOutstanding = false →
      (put item).Keeps (Settles fresh)) :
    (expirePairingItems items put).Keeps (Settles fresh) := by
  unfold expirePairingItems
  refine .next fun now => ?_
  refine .bind (.forEach fun item member => ?_) fun _ => inferInstance
  obtain ⟨stored, _, expired⟩ := List.mem_filterMap.mp member
  have ended : item.state.isOutstanding = false := by
    unfold expireItem at expired
    split at expired <;> cases expired
    rfl
  exact .bind (kept item ended) fun _ => inferInstance

instance : (expirePairingItems items putPairingOutbox).Keeps (Settles fresh) :=
  expirePairingItems_settles fun _ => putPairingOutbox_over

instance : expirePendingPairings.Keeps (Settles fresh) := by
  have inbox : ∀ items, (expirePairingItems items putPairingInbox).Keeps
      (Settles fresh) :=
    fun items => expirePairingItems_settles fun _ _ => inferInstance
  unfold expirePendingPairings pairingInbox pairingOutbox
  infer_instance

theorem completePairings_settles
    (ended : ∀ item ∈ items, item.state.isOutstanding = false) :
    (completePairings items).Keeps (Settles fresh) :=
  .forEach fun item member =>
    .bind (putPairingOutbox_over (ended item member)) fun _ => inferInstance

instance : completeOutboxPairingsForExistingContacts.Keeps (Settles fresh) := by
  unfold completeOutboxPairingsForExistingContacts pairingOutbox
  refine .next fun _ => .next fun _ => ?_
  refine completePairings_settles fun item member => ?_
  obtain ⟨stored, _, completed⟩ := List.mem_filterMap.mp member
  unfold completeForExistingContact at completed
  dsimp only at completed
  split at completed <;> cases completed
  rfl

instance :
    (reconcileOutboxPairingContact installationId).Keeps (Settles fresh) := by
  unfold reconcileOutboxPairingContact pairingOutbox
  refine .next fun _ => .next fun _ => ?_
  refine .next fun _ => completePairings_settles ?_
  intro item member
  obtain ⟨_, _, completed, _⟩ := mem_reconcileOutboxItems.mp member
  rw [completed]
  rfl

instance : (prepareSubmitPairingCode code).Keeps (Settles fresh) := by
  simp only [prepareSubmitPairingCode, pairingOutbox, fail_bind]
  infer_instance

theorem commitSubmittedPairing_settles (own : fresh item.pairingId) :
    (commitSubmittedPairing item).Keeps (Settles fresh) := by
  have put : (putPairingOutbox (normalizePairingItem item)).Keeps
      (Settles fresh) := putPairingOutbox_settles fun _ => own
  unfold commitSubmittedPairing
  infer_instance

theorem nextStateForPeerOutcome_outstanding
    (moved : nextStateForPeerOutcome state outcome = .ok next)
    (outstanding : next.isOutstanding = true) : state.isOutstanding = true := by
  cases state <;> cases outcome <;> cases moved <;>
    first | rfl | cases outstanding

theorem outstanding_of_item (found : database.outboxItem pairingId = some item)
    (outstanding : item.state.isOutstanding = true) :
    item.pairingId = pairingId ∧ database.pairing.Outstanding pairingId := by
  obtain ⟨row, present, rfl⟩ := Option.map_eq_some_iff.mp found
  exact ⟨rfl, row, present, outstanding⟩

theorem Within.move_outbox (called : start.Called runtime)
    (found : start.database.outboxItem pairingId = some item)
    (follows : next.isOutstanding = true → item.state.isOutstanding = true) :
    Settles fresh start ((do
      putPairingOutbox (normalizePairingItem { item with state := next })
      inviteStateChanged pairingId next) runtime).2 := by
  refine .followed (.put_outbox called fun outstanding => .inl ?_)
    fun _ => inferInstance
  obtain ⟨same, stored⟩ := outstanding_of_item found (follows outstanding)
  change start.database.pairing.Outstanding item.pairingId
  rw [same]
  exact stored

theorem outboxRequired_value
    (ran : outboxRequired pairingId runtime = (.ok item, next)) :
    runtime.database.outboxItem pairingId = some item := by
  obtain ⟨found, _, read, rest⟩ := bind_ok ran
  rw [← (query_ok read).1]
  cases found with
  | none => cases rest
  | some item =>
    cases rest
    rfl

instance : (outboxRequired pairingId).Keeps Called := by
  unfold outboxRequired
  infer_instance

instance :
    (applyPairingPeerOutcome pairingId outcome).Keeps (Settles fresh) := by
  refine ⟨fun start => ?_⟩
  unfold applyPairingPeerOutcome
  refine .after_read (Frame.refl start) inferInstance
    fun item _ ran called => ?_
  cases moved : nextStateForPeerOutcome item.state outcome with
  | error error => exact called.within
  | ok state =>
    rw [ofExcept_ok_bind]
    split
    · exact called.within
    · exact .move_outbox called (outboxRequired_value ran)
        (nextStateForPeerOutcome_outstanding moved)

instance : (finalizePairing pairingId).Keeps (Settles fresh) := by
  refine ⟨fun start => ?_⟩
  unfold finalizePairing
  refine .after_read (Frame.refl start) inferInstance
    fun found runtime _ called => ?_
  cases found with
  | some item => exact Frame.trans called.within (Program.Keeps.run _)
  | none =>
    refine .after_read called inferInstance fun found _ ran called' => ?_
    have stored := (query_ok ran).1
    rw [called.database] at stored
    cases found with
    | none => exact called'.within
    | some item =>
      dsimp only
      split
      · exact called'.within
      cases moved : nextStateForPeerOutcome item.state .welcomePrepared with
      | error error => exact called'.within
      | ok state =>
        exact .move_outbox called' stored.symm
          (nextStateForPeerOutcome_outstanding moved)

theorem archived_over (moved : transitionItem item .archive = .ok archived) :
    archived.state.isOutstanding = false := by
  obtain ⟨state, transited, rest⟩ := bind_eq_ok.mp moved
  cases rest
  unfold transitionInviteState at transited
  split at transited <;> cases transited <;> first | rfl | contradiction

theorem cancelled_over (confirmed : confirmCancel item = .ok (some cancelled)) :
    cancelled.state.isOutstanding = false := by
  unfold confirmCancel commitCancel at confirmed
  split at confirmed
  · cases confirmed
  · split at confirmed <;> cases confirmed
    rfl

instance : (featureArchivePairing pairingId).Keeps (Settles fresh) := by
  unfold featureArchivePairing outboxRequired
  refine .next fun found => ?_
  cases found with
  | some item => infer_instance
  | none =>
    refine .next fun item => ?_
    cases moved : transitionItem item .archive with
    | error error =>
      rw [ofExcept_error_bind]
      infer_instance
    | ok archived =>
      have put := @putPairingOutbox_over fresh _ (archived_over moved)
      rw [ofExcept_ok_bind]
      infer_instance

instance :
    (featureConfirmPairingCancelled pairingId).Keeps (Settles fresh) := by
  have recorded : (Program.modify (recordCancelled pairingId) :
      Program Database RuntimeError Unit).Keeps (Settling fresh) := by
    refine .modify fun database _ outstanding => .inl ?_
    unfold recordCancelled at outstanding
    split at outstanding <;> exact outstanding
  unfold featureConfirmPairingCancelled outboxRequired
  refine .next fun item => ?_
  cases confirmed : confirmCancel item with
  | error error =>
    rw [ofExcept_error_bind]
    infer_instance
  | ok changed =>
    rw [ofExcept_ok_bind]
    cases changed with
    | none => infer_instance
    | some cancelled =>
      have put := @putPairingOutbox_over fresh _ (cancelled_over confirmed)
      infer_instance

end Runtime

/-! ## Runs -/

inductive PairingCall
  | prepareSubmit (code : String)
  | commitSubmitted (item : PairingItem)
  | peerOutcome (pairingId : String) (outcome : PairingPeerOutcome)
  | finalize (pairingId : String)
  | confirmCancelled (pairingId : String)
  | reconcile (installationId : InstallationId)
  | archive (pairingId : String)
  | expire

namespace PairingCall

def run : PairingCall → Runtime.Call Unit
  | .prepareSubmit code => do
      let _ ← Runtime.prepareSubmitPairingCode code
  | .commitSubmitted item => do
      let _ ← Runtime.commitSubmittedPairing item
  | .peerOutcome pairingId outcome =>
    Runtime.applyPairingPeerOutcome pairingId outcome
  | .finalize pairingId => Runtime.finalizePairing pairingId
  | .confirmCancelled pairingId => do
      let _ ← Runtime.featureConfirmPairingCancelled pairingId
  | .reconcile installationId =>
    Runtime.reconcileOutboxPairingContact installationId
  | .archive pairingId => do
      let _ ← Runtime.featureArchivePairing pairingId
  | .expire => Runtime.expirePendingPairings

end PairingCall

/-- `prepared` says that a code was prepared for and nothing was submitted since. -/
structure Submissions where
  database : Database
  prepared : Bool

namespace Submissions

/-- A call with the session and the surroundings it finds. What a failed call
wrote stays here: nothing relies on its transaction being rolled back. -/
structure Label where
  call : PairingCall
  session : RuntimeSession
  host : Host

def machine (start : Database) : Machine Submissions Label where
  init := ⟨start, false⟩
  enabled state label :=
    match label.call with
    | .commitSubmitted _ => state.prepared = true
    | _ => True
  next state label :=
    let (outcome, runtime) :=
      label.call.run ⟨state.database, label.session, label.host⟩
    { database := runtime.database
      prepared :=
        match label.call, outcome with
        | .prepareSubmit _, .ok () => true
        | .commitSubmitted _, _ => false
        | _, _ => state.prepared }

/-- The items of the outbox that are pending or accepted. -/
def outgoing (database : Database) : List PairingItem :=
  Pairing.outstandingItems (pairingOutbox database.pairing)

theorem mem_outgoing :
    item ∈ outgoing database ↔ item.state.isOutstanding = true ∧
      database.outboxItem item.pairingId = some item := by
  unfold outgoing Pairing.outstandingItems pairingOutbox outboxItem
  rw [List.mem_filter, List.mem_map, and_comm, Option.map_eq_some_iff]
  refine and_congr_right fun _ => ⟨?_, ?_⟩
  · rintro ⟨⟨pairingId, row⟩, member, rfl⟩
    exact ⟨row, Table.lookup_eq_some_iff.mpr member, rfl⟩
  · rintro ⟨row, found, same⟩
    exact ⟨(item.pairingId, row), Table.lookup_eq_some_iff.mp found, same⟩

theorem outgoing_nodup (database : Database) : (outgoing database).Nodup := by
  refine .filter _ (.of_map PairingItem.pairingId ?_)
  unfold pairingOutbox
  rw [List.map_map]
  exact database.pairing.outbox.rows.distinct

theorem outgoing_length_le_one :
    (outgoing database).length ≤ 1 ↔
      ∀ first second, database.pairing.Outstanding first →
        database.pairing.Outstanding second → first = second := by
  rw [← List.toFinset_card_of_nodup (outgoing_nodup database),
    Finset.card_le_one]
  simp only [List.mem_toFinset, mem_outgoing]
  constructor
  · intro few first second ⟨row, present, active⟩ ⟨row', present', active'⟩
    have same := few (pairingOutboxItem first row)
      ⟨active, Option.map_eq_some_iff.mpr ⟨row, present, rfl⟩⟩
      (pairingOutboxItem second row')
      ⟨active', Option.map_eq_some_iff.mpr ⟨row', present', rfl⟩⟩
    exact congrArg PairingItem.pairingId same
  · intro single item ⟨active, found⟩ item' ⟨active', found'⟩
    have same := single item.pairingId item'.pairingId
      (Runtime.outstanding_of_item found active).2
      (Runtime.outstanding_of_item found' active').2
    rw [same, found'] at found
    exact (Option.some.inj found).symm

structure Sound (state : Submissions) : Prop where
  single : ∀ first second, state.database.pairing.Outstanding first →
    state.database.pairing.Outstanding second → first = second
  clear : state.prepared = true →
    ∀ pairingId, ¬ state.database.pairing.Outstanding pairingId

/-- The pairing that a call may make outgoing. -/
def fresh : PairingCall → String → Prop
  | .commitSubmitted item, pairingId => pairingId = item.pairingId
  | _, _ => False

theorem run_settles (call : PairingCall) :
    call.run.Keeps (Runtime.Settles (fresh call)) := by
  cases call with
  | commitSubmitted item =>
    have own : fresh (.commitSubmitted item) item.pairingId := rfl
    have committed := Runtime.commitSubmittedPairing_settles own
    unfold PairingCall.run
    infer_instance
  | _ =>
    unfold PairingCall.run
    infer_instance

theorem next_settles (state : Submissions) (label : Label) :
    Settling (fresh label.call) state.database
      ((machine start).next state label).database :=
  ((run_settles label.call).run
    ⟨state.database, label.session, label.host⟩).data

variable {state : Submissions}

theorem Sound.settled {after : Submissions} (sound : state.Sound)
    (settling : Settling (fun _ => False) state.database after.database)
    (prepared : after.prepared = true → state.prepared = true) :
    after.Sound where
  single first second outstanding outstanding' :=
    sound.single first second ((settling first outstanding).resolve_right id)
      ((settling second outstanding').resolve_right id)
  clear ready pairingId outstanding :=
    sound.clear (prepared ready) pairingId
      ((settling pairingId outstanding).resolve_right id)

theorem prepareSubmitPairingCode_clear
    (ran : Runtime.prepareSubmitPairingCode code runtime = (.ok value, next)) :
    ∀ pairingId, ¬ next.database.pairing.Outstanding pairingId := by
  unfold Runtime.prepareSubmitPairingCode at ran
  obtain ⟨_, _, _, ran⟩ := bind_ok ran
  obtain ⟨_, _, _, ran⟩ := bind_ok ran
  obtain ⟨_, _, _, ran⟩ := bind_ok ran
  obtain ⟨_, _, _, ran⟩ := bind_ok ran
  obtain ⟨items, _, read, ran⟩ := bind_ok ran
  obtain ⟨rfl, rfl⟩ := Runtime.query_ok read
  split at ran
  · cases ran
  · rename_i clear
    cases ran
    rintro pairingId ⟨row, present, active⟩
    refine clear (List.any_eq_true.mpr
      ⟨pairingOutboxItem pairingId row, ?_, active⟩)
    exact List.mem_map.mpr ⟨_, Table.lookup_eq_some_iff.mp present, rfl⟩

theorem Sound.prepare (sound : state.Sound) (code : String)
    (session : RuntimeSession) (host : Host) :
    ((machine start).next state ⟨.prepareSubmit code, session, host⟩).Sound := by
  have settling := @next_settles start state ⟨.prepareSubmit code, session, host⟩
  rcases ran : PairingCall.run (.prepareSubmit code)
    ⟨state.database, session, host⟩ with ⟨outcome, after⟩
  simp only [machine, ran] at settling ⊢
  cases outcome with
  | ok _ =>
    obtain ⟨_, _, prepared, rest⟩ := bind_ok ran
    cases rest
    have clear := prepareSubmitPairingCode_clear prepared
    exact ⟨fun first _ outstanding => absurd outstanding (clear first),
      fun _ => clear⟩
  | err | crash => exact sound.settled settling id

theorem Sound.next (sound : state.Sound)
    (enabled : (machine start).enabled state label) :
    ((machine start).next state label).Sound := by
  obtain ⟨call, session, host⟩ := label
  have settling := @next_settles start state ⟨call, session, host⟩
  cases call with
  | prepareSubmit code => exact sound.prepare code session host
  | commitSubmitted item =>
    have own : ∀ pairingId, _ → pairingId = item.pairingId :=
      fun pairingId outstanding => (settling pairingId outstanding).resolve_left
        (sound.clear enabled pairingId)
    refine ⟨fun first second outstanding outstanding' => ?_, ?_⟩
    · rw [own first outstanding, own second outstanding']
    · rintro ⟨⟩
  | _ => exact sound.settled settling id

/-- Whatever is prepared, submitted, decided by the peer, finalized, cancelled,
reconciled, archived and let expire in whatever order: the outbox holds one
pending or accepted item at the most. -/
theorem one_outgoing_pairing_at_most
    {start : Database} (few : (outgoing start).length ≤ 1)
    (reached : (machine start).Reachable state) :
    (outgoing state.database).length ≤ 1 := by
  have sound : Sound state := by
    refine reached.invariant Sound ⟨outgoing_length_le_one.mp few, ?_⟩ ?_
    · rintro ⟨⟩
    · exact fun _ _ sound enabled => sound.next enabled
  exact outgoing_length_le_one.mpr sound.single

def quietly (call : PairingCall) : Label :=
  ⟨call, .new, .initial (.calm 0)⟩

/-- A request is submitted, accepted and finalized, and another follows. -/
def submittedTwice : List Label :=
  [.prepareSubmit "1234 5678", .commitSubmitted (Pairing.sampleItem "first" none),
    .peerOutcome "first" .offerReceived, .finalize "first",
    .prepareSubmit "8765 4321",
    .commitSubmitted (Pairing.sampleItem "second" none)].map quietly

theorem second_request_is_the_only_one_outgoing :
    let state := (machine .empty).run (machine .empty).init submittedTwice
    (outgoing state.database).map PairingItem.pairingId = ["second"] ∧
      (outgoing state.database).length ≤ 1 := by
  refine ⟨by decide +kernel, one_outgoing_pairing_at_most (by decide)
    (.run .init submittedTwice ?_)⟩
  refine ⟨trivial, ?_, trivial, trivial, trivial, ?_, trivial⟩
  · change Submissions.prepared _ = true
    decide +kernel
  · change Submissions.prepared _ = true
    decide +kernel

end Submissions

end Torchat
