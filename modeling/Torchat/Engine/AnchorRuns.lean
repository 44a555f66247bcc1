import Torchat.Crypto.AntiRollback
import Torchat.Engine.Machine
import Torchat.Storage.Tombstones

namespace Torchat

open Foundation Storage Crypto

/-! # The secure anchor over the runs of an engine

What the anchor is shown of an engine is its table of MLS snapshots: the
versions of their rows, at the commits and at the starts. -/

namespace Storage

def Database.nextVersion
    (database : Database) (conversationId : InstallationId) : Nat :=
  (database.conversationMls.lookup conversationId).elim 1
    fun row => row.stateVersion + 1

def Database.snapshotsWith
    (database : Database) (conversationId : InstallationId) (snapshot : Bytes) :
    Table InstallationId MlsRow :=
  database.conversationMls.insert conversationId
    ⟨snapshot, database.nextVersion conversationId⟩

def Call.snapshot : Call → Option (InstallationId × Bytes)
  | upsertSnapshot conversationId snapshot
  | putConversationMlsSnapshot conversationId snapshot
  | persistOutboundEncryption _ _ conversationId snapshot
  | persistOutboundEncryptionAndClaim _ _ conversationId snapshot _ _ _
  | persistReceiptEncryption _ _ conversationId snapshot _ _ _ =>
    some (conversationId, snapshot)
  | _ => none

namespace Database

variable {before : Database} {contact : InstallationId}

def Stores (conversationId : InstallationId) (snapshot : Bytes)
    (before after : Database) : Prop :=
  after.conversationMls = before.conversationMls ∨
    after.conversationMls = before.snapshotsWith conversationId snapshot

theorem Stores.of_settle
    (stores : ∀ after, result = .ok after →
      Stores contact snapshot before after) :
    Stores contact snapshot before (before.settle result) := by
  cases result with
  | error error => exact .inl rfl
  | ok after => exact stores after rfl

theorem Stores.of_settleReturning {result : RuntimeResult (α × Database)}
    (stores : ∀ value after, result = .ok (value, after) →
      Stores contact snapshot before after) :
    Stores contact snapshot before (before.settleReturning result) := by
  cases result with
  | error error => exact .inl rfl
  | ok answer => exact stores answer.1 answer.2 rfl

theorem upsertSnapshot_stores
    (done : before.upsertSnapshot contact snapshot = .ok after) :
    after.conversationMls = before.snapshotsWith contact snapshot := by
  obtain ⟨_, written⟩ := requireRow_bind_eq_ok.mp done
  cases written
  rfl

theorem putConversationMlsSnapshot_stores
    (done : before.putConversationMlsSnapshot contact snapshot =
      .ok after) : Stores contact snapshot before after := by
  unfold putConversationMlsSnapshot at done
  split at done
  · cases done
    exact .inl rfl
  · exact .inr (upsertSnapshot_stores done)

theorem persistOutboundEncryption_stores
    (done : before.persistOutboundEncryption messageId wire contact
      snapshot = .ok after) : Stores contact snapshot before after := by
  unfold persistOutboundEncryption at done
  split at done
  · have stores := putConversationMlsSnapshot_stores done
    exact stores
  · cases done

theorem persistOutboundEncryptionAndClaim_stores
    (done : before.persistOutboundEncryptionAndClaim messageId wire
      contact snapshot nextAttemptAt ackDeadline nowMs =
        .ok (claimed, after)) :
    Stores contact snapshot before after := by
  unfold persistOutboundEncryptionAndClaim at done
  split at done
  · obtain ⟨stored, written, answered⟩ := bind_eq_ok.mp done
    have placed := upsertSnapshot_stores written
    cases answered
    exact .inr placed
  · cases done
    exact .inl rfl

theorem persistReceiptEncryption_stores
    (done : before.persistReceiptEncryption messageId wire contact
      snapshot nextAttemptAt lastError nowMs = .ok (claimed, after)) :
    Stores contact snapshot before after := by
  unfold persistReceiptEncryption at done
  split at done
  · obtain ⟨stored, written, answered⟩ := bind_eq_ok.mp done
    have placed := upsertSnapshot_stores written
    cases answered
    exact .inr placed
  · cases done
    exact .inl rfl

theorem removeRelationshipWithId_erases
    (done : before.removeRelationshipWithId contact removedAt preserve
      removalId epoch = .ok after) :
    after.conversationMls = before.conversationMls ∨
      after.conversationMls = before.conversationMls.erase contact := by
  obtain ⟨_, rfl⟩ := removeRelationshipWithId_eq_ok.mp done
  split
  · exact .inl rfl
  · obtain ⟨messages, deliveries, removed, _⟩ := @locallyRemoved_eq before
      contact removedAt preserve removalId epoch
    rw [removed]
    simp only [forgetSession]
    split
    · exact .inr rfl
    · exact .inl rfl

end Database

open Database in
theorem Call.perform_conversationMls (call : Call) (database : Database) :
    (call.perform database).conversationMls = database.conversationMls ∨
    (∃ contact, (call.perform database).conversationMls =
      database.conversationMls.erase contact) ∨
    ∃ conversationId snapshot, call.snapshot = some (conversationId, snapshot) ∧
      (call.perform database).conversationMls =
        database.snapshotsWith conversationId snapshot := by
  have stored : ∀ conversationId snapshot,
      call.snapshot = some (conversationId, snapshot) →
      Stores conversationId snapshot database (call.perform database) →
      (call.perform database).conversationMls = database.conversationMls ∨
      (∃ contact, (call.perform database).conversationMls =
        database.conversationMls.erase contact) ∨
      ∃ conversationId snapshot,
        call.snapshot = some (conversationId, snapshot) ∧
        (call.perform database).conversationMls =
          database.snapshotsWith conversationId snapshot :=
    fun conversationId snapshot brought stores =>
      stores.imp_right fun placed => .inr ⟨_, _, brought, placed⟩
  cases concerned : call.concernsStanding with
  | false =>
    exact .inl (congrArg (·.2.2.1) (perform_standing call database concerned))
  | true =>
    cases call
    case upsertSnapshot =>
      exact stored _ _ rfl (.of_settle fun _ done =>
        .inr (upsertSnapshot_stores done))
    case putConversationMlsSnapshot =>
      exact stored _ _ rfl (.of_settle fun _ done =>
        putConversationMlsSnapshot_stores done)
    case persistOutboundEncryption =>
      exact stored _ _ rfl (.of_settle fun _ done =>
        persistOutboundEncryption_stores done)
    case persistOutboundEncryptionAndClaim =>
      exact stored _ _ rfl (.of_settleReturning fun _ _ done =>
        persistOutboundEncryptionAndClaim_stores done)
    case persistReceiptEncryption =>
      exact stored _ _ rfl (.of_settleReturning fun _ _ done =>
        persistReceiptEncryption_stores done)
    case removeRelationshipWithId contact removedAt preserve removalId
        epoch =>
      cases done : database.removeRelationshipWithId contact removedAt
          preserve removalId epoch with
      | error error =>
        refine .inl ?_
        simp only [perform, done, settle]
      | ok after =>
        simp only [perform, done, settle]
        exact (removeRelationshipWithId_erases done).imp_right
          fun erased => .inl ⟨contact, erased⟩
    case applyRemoteRelationshipRemoval =>
      refine .inl (settle_view conversationMls fun after done => ?_)
      obtain ⟨_, rfl⟩ := applyRemoteRelationshipRemoval_eq_ok.mp done
      split
      · rfl
      · rfl
    case putContactPeerEndpoint =>
      refine .inl (settle_view conversationMls fun after done => ?_)
      obtain rfl | ⟨_, rfl⟩ := putContactPeerEndpoint_eq done <;> rfl
    case markPeerConnected =>
      refine .inl (settle_view conversationMls fun after done => ?_)
      unfold Database.markPeerConnected at done
      split at done <;>
        · cases done
          rfl
    case beginVerifiedRelationship => exact .inl rfl
    all_goals cases concerned

end Storage

namespace Crypto

/-- A store that never goes back: of two checkpoints of a conversation it keeps
the one with the higher version. -/
structure MlsEpochAnchor.Monotone
    {σ ε : Type} (anchor : MlsEpochAnchor σ ε) : Prop where
  reads : ∀ conversationId store, ∃ anchored,
    anchor.highestCheckpoint conversationId store = .ok anchored
  records : ∀ conversationId checkpoint store, ∃ after,
    anchor.recordCheckpoint conversationId checkpoint store = .ok after ∧
      (∃ top, anchor.highestCheckpoint conversationId after = .ok (some top) ∧
        (top = checkpoint ∨
          anchor.highestCheckpoint conversationId store = .ok (some top)) ∧
        checkpoint.stateVersion ≤ top.stateVersion ∧
        ∀ anchored,
          anchor.highestCheckpoint conversationId store = .ok (some anchored) →
          anchored.stateVersion ≤ top.stateVersion) ∧
      ∀ other, other ≠ conversationId →
        anchor.highestCheckpoint other after =
          anchor.highestCheckpoint other store

def MlsEpochAnchor.highestRecorded :
    MlsEpochAnchor (InstallationId → Option AnchoredMlsCheckpoint)
      EngineError where
  highestCheckpoint conversationId store := .ok (store conversationId)
  recordCheckpoint conversationId checkpoint store :=
    .ok fun other =>
      if other = conversationId ∧ (store conversationId).all fun anchored =>
          decide (anchored.stateVersion ≤ checkpoint.stateVersion) then
        some checkpoint
      else
        store other

theorem MlsEpochAnchor.highestRecorded_monotone :
    MlsEpochAnchor.highestRecorded.Monotone where
  reads contact store := ⟨store contact, rfl⟩
  records contact checkpoint store := by
    refine ⟨_, rfl, ?_, ?_⟩
    · simp only [highestRecorded, true_and]
      cases held : store contact with
      | none => exact ⟨checkpoint, by simp, .inl rfl, le_rfl, nofun⟩
      | some anchored =>
        by_cases higher : anchored.stateVersion ≤ checkpoint.stateVersion
        · refine ⟨checkpoint, by simp [higher], .inl rfl, le_rfl, ?_⟩
          rintro _ ⟨⟩
          exact higher
        · refine ⟨anchored, by simp [higher], .inr rfl, by omega, ?_⟩
          rintro _ ⟨⟩
          exact le_rfl
    · intro other differs
      simp [highestRecorded, differs]

end Crypto

namespace Anchoring

section

variable (P : Primitives) (epoch : P.Group → Nat)
  (anchor : MlsEpochAnchor σ EngineError)

def checkpoint (row : MlsRow) (conversation : P.Group) :
    AnchoredMlsCheckpoint :=
  ⟨row.stateVersion, epoch conversation, P.sha256 row.snapshot⟩

def recordCheckpoint (database : Database) (conversationId : InstallationId) :
    Program σ EngineError Unit := do
  match database.conversationMls.lookup conversationId with
  | none => return
  | some row =>
    let conversation ← Program.ofExcept
      ((P.restore row.snapshot).mapError EngineError.storage)
    Program.execute (anchor.recordCheckpoint conversationId
      (checkpoint P epoch row conversation))

def candidate (database : Database) (conversationId : InstallationId)
    (conversation : P.Group) : AnchoredMlsCheckpoint :=
  match database.conversationMls.lookup conversationId with
  | some row => checkpoint P epoch row conversation
  | none => ⟨epoch conversation, epoch conversation, []⟩

def loadConversation (database : Database) (conversationId : InstallationId)
    (snapshot : Bytes) : Program σ EngineError (InstallationId × P.Group) := do
  let conversation ← Program.ofExcept
    ((P.restore snapshot).mapError (Actor.restoreError conversationId))
  let candidate := candidate P epoch database conversationId conversation
  match ← Program.executeReturning
      (validateSnapshotCheckpoint anchor conversationId candidate) with
  | .ready => return (conversationId, conversation)
  | .rePairRequired =>
    Program.fail (.storage ("MLS conversation snapshot for " ++
      conversationId ++ ": re-pair required"))

def loadConversations (database : Database) :
    List (InstallationId × MlsRow) →
      Program σ EngineError (List (InstallationId × P.Group))
  | [] => return []
  | (conversationId, row) :: rest => do
      let first ←
        loadConversation P epoch anchor database conversationId row.snapshot
      return first :: (← loadConversations database rest)

def loadEngineTechnicalStateWithAnchor (database : Database) :
    Program σ EngineError (List (InstallationId × P.Group)) :=
  loadConversations P epoch anchor database database.conversationMls.entries

/-! ## Runs -/

structure State (σ : Type) where
  database : Database
  store : σ

/-- A call of a transaction that was committed, or one outside of any; the
record of a checkpoint that follows a commit; a start. A transaction that was
rolled back, a checkpoint that could not be recorded and a crash leave
nothing. -/
inductive Event
  | call (call : Call)
  | record (conversationId : InstallationId)
  | restart

def Event.genuine : Event → Bool
  | .call made => made.snapshot.all fun entry => (P.restore entry.2).isOk
  | _ => true

def next (state : State σ) : Event → State σ
  | .call call => { state with database := call.perform state.database }
  | .record conversationId =>
    { state with
      store := (recordCheckpoint P epoch anchor state.database conversationId
        state.store).2 }
  | .restart =>
    { state with
      store := (loadEngineTechnicalStateWithAnchor P epoch anchor
        state.database state.store).2 }

def machine (blank : σ) : Machine (State σ) Event where
  init := ⟨.empty, blank⟩
  enabled _ event := Event.genuine P event = true
  next := next P epoch anchor

def Restarts (state : State σ) : Prop :=
  ∃ conversations after,
    loadEngineTechnicalStateWithAnchor P epoch anchor state.database
        state.store = (.ok conversations, after) ∧
      conversations.map Prod.fst = state.database.conversationMls.keys

/-- A snapshot is stored where there is one already, or where the anchor knows
of none. -/
def Continues (state : State σ) : Event → Prop
  | .call call => ∀ entry ∈ call.snapshot,
      state.database.conversationMls.contains entry.1 = true ∨
        anchor.highestCheckpoint entry.1 state.store = .ok none
  | _ => True

end

section

variable {P : Primitives} {anchor : MlsEpochAnchor σ EngineError}

structure Behind (P : Primitives) (row : MlsRow)
    (anchored : AnchoredMlsCheckpoint) : Prop where
  hashed : anchored.snapshotHash ≠ []
  version : anchored.stateVersion ≤ row.stateVersion
  same : anchored.stateVersion = row.stateVersion →
    anchored.snapshotHash = P.sha256 row.snapshot

structure Sound (P : Primitives) (anchor : MlsEpochAnchor σ EngineError)
    (database : Database) (store : σ) : Prop where
  restores : ∀ conversationId row,
    database.conversationMls.lookup conversationId = some row →
    ∃ conversation, P.restore row.snapshot = .ok conversation
  behind : ∀ conversationId row anchored,
    database.conversationMls.lookup conversationId = some row →
    anchor.highestCheckpoint conversationId store = .ok (some anchored) →
    Behind P row anchored

theorem Sound.call (sound : Sound P anchor database store) {call : Call}
    (genuine : Event.genuine P (.call call) = true)
    (continues : Continues anchor ⟨database, store⟩ (.call call)) :
    Sound P anchor (call.perform database) store := by
  obtain same | ⟨contact, erased⟩ |
      ⟨conversationId, snapshot, brought, placed⟩ :=
    call.perform_conversationMls database
  · refine ⟨fun id row found => ?_, fun id row anchored found => ?_⟩
    · rw [same] at found
      exact sound.restores id row found
    · rw [same] at found
      exact sound.behind id row anchored found
  · have kept : ∀ id row,
        (call.perform database).conversationMls.lookup id = some row →
        database.conversationMls.lookup id = some row := by
      intro id row found
      rw [erased, Table.lookup_erase] at found
      split at found
      · cases found
      · exact found
    exact ⟨fun id row found => sound.restores id row (kept id row found),
      fun id row anchored found => sound.behind id row anchored
        (kept id row found)⟩
  · simp only [Event.genuine, brought, Option.all_some] at genuine
    have placeable := continues (conversationId, snapshot) brought
    refine ⟨fun id row found => ?_, fun id row anchored found held => ?_⟩
    · rw [placed, Database.snapshotsWith, Table.lookup_insert] at found
      split at found
      · cases found
        cases restored : P.restore snapshot with
        | ok conversation => exact ⟨conversation, rfl⟩
        | error error =>
          rw [restored] at genuine
          cases genuine
      · exact sound.restores id row found
    · rw [placed, Database.snapshotsWith, Table.lookup_insert] at found
      split at found
      · rename_i own
        subst own
        cases found
        rcases placeable with present | unknown
        · obtain ⟨row, stored⟩ := Table.contains_iff.mp present
          have older := sound.behind id row anchored stored held
          have above : anchored.stateVersion < database.nextVersion id := by
            rw [Database.nextVersion, stored]
            exact Nat.lt_succ_of_le older.version
          exact ⟨older.hashed, above.le, fun equal => absurd equal above.ne⟩
        · cases held.symm.trans unknown
      · exact sound.behind id row anchored found held

variable (epoch : P.Group → Nat) (monotone : anchor.Monotone)
  (hashed : ∀ snapshot, P.sha256 snapshot ≠ [])

include monotone hashed

section

variable (sound : Sound P anchor database store)

include sound

theorem Sound.recorded
    (found : database.conversationMls.lookup contact = some row)
    (conversation : P.Group) :
    ∃ after, anchor.recordCheckpoint contact
        (checkpoint P epoch row conversation) store = .ok after ∧
      Sound P anchor database after := by
  obtain ⟨after, recorded, ⟨top, held, origin, _, _⟩, others⟩ :=
    monotone.records contact (checkpoint P epoch row conversation) store
  refine ⟨after, recorded, sound.restores, ?_⟩
  intro id other anchored stored known
  by_cases own : id = contact
  · subst own
    cases found.symm.trans stored
    cases held.symm.trans known
    rcases origin with rfl | before
    · exact ⟨hashed row.snapshot, le_rfl, fun _ => rfl⟩
    · exact sound.behind id row top found before
  · rw [others id own] at known
    exact sound.behind id other anchored stored known

theorem recordCheckpoint_sound (contact : InstallationId) :
    Sound P anchor database
      (recordCheckpoint P epoch anchor database contact store).2 := by
  unfold recordCheckpoint
  cases found : database.conversationMls.lookup contact with
  | none => exact sound
  | some row =>
    obtain ⟨conversation, restored⟩ := sound.restores contact row found
    obtain ⟨after, recorded, kept⟩ :=
      sound.recorded epoch monotone hashed found conversation
    simp only [restored, mapError_ok, ofExcept_ok_bind]
    rw [run_execute_ok recorded]
    exact kept

theorem loadConversation_arrives
    (found : database.conversationMls.lookup contact = some row) :
    (loadConversation P epoch anchor database contact
      row.snapshot).Arrives store fun loaded after =>
        loaded.1 = contact ∧ Sound P anchor database after := by
  obtain ⟨conversation, restored⟩ := sound.restores contact row found
  obtain ⟨after, recorded, kept⟩ :=
    sound.recorded epoch monotone hashed found conversation
  obtain ⟨anchored, known⟩ := monotone.reads contact store
  have ready : validateCheckpoint anchored
      (checkpoint P epoch row conversation) = .ready := by
    cases anchored with
    | none => rfl
    | some anchored =>
      have older := sound.behind contact row anchored found known
      exact (validateCheckpoint_of_hash older.hashed).mpr
        ⟨older.version, older.same⟩
  have validated : validateSnapshotCheckpoint anchor contact
      (candidate P epoch database contact conversation) store =
        .ok (.ready, after) := by
    simp only [candidate, found, validateSnapshotCheckpoint, known, ready,
      recorded, bind, Except.bind, pure, Except.pure]
  refine ⟨(contact, conversation), after, ?_, rfl, kept⟩
  have answered : executeReturning (validateSnapshotCheckpoint anchor
      contact (candidate P epoch database contact conversation))
      store = (.ok .ready, after) := by
    rw [executeReturning, validated]
  simp only [loadConversation, restored, mapError_ok,
    ofExcept_ok_bind]
  rw [run_bind_ok answered]
  rfl

theorem loadConversations_arrives
    (stored : ∀ entry ∈ entries,
      database.conversationMls.lookup entry.1 = some entry.2) :
    (loadConversations P epoch anchor database entries).Arrives store
      fun conversations after =>
        conversations.map Prod.fst = entries.map Prod.fst ∧
          Sound P anchor database after := by
  induction entries generalizing store with
  | nil => exact .pure ⟨rfl, sound⟩
  | cons entry rest induction =>
    refine .bind (.mono (loadConversation_arrives epoch monotone hashed sound
      (stored entry (.head _))) ?_)
    rintro first next ⟨named, kept⟩
    refine .bind (.mono (induction kept fun other member =>
      stored other (.tail _ member)) ?_)
    rintro others after ⟨same, held⟩
    exact .pure ⟨by rw [List.map_cons, List.map_cons, named, same], held⟩

theorem loadEngineTechnicalStateWithAnchor_arrives :
    (loadEngineTechnicalStateWithAnchor P epoch anchor database).Arrives store
      fun conversations after =>
        conversations.map Prod.fst = database.conversationMls.keys ∧
          Sound P anchor database after :=
  loadConversations_arrives epoch monotone hashed sound fun _ member =>
    Table.lookup_eq_some_iff.mpr member

end

theorem Sound.next (sound : Sound P anchor state.database state.store)
    (genuine : Event.genuine P event = true)
    (continues : Continues anchor state event) :
    Sound P anchor (next P epoch anchor state event).database
      (next P epoch anchor state event).store := by
  cases event with
  | call call => exact sound.call genuine continues
  | record contact =>
    exact recordCheckpoint_sound epoch monotone hashed sound contact
  | restart =>
    obtain ⟨conversations, after, ran, _, kept⟩ :=
      loadEngineTechnicalStateWithAnchor_arrives epoch monotone hashed sound
    simp only [Anchoring.next, ran]
    exact kept

/-- As long as no snapshot is stored anew for a conversation the anchor has a
checkpoint of, a start on the latest database finds every conversation ready. -/
theorem restart_raises_no_alarm
    {blank : σ} {state : State σ}
    (reached : ((machine P epoch anchor blank).restrict
      (Continues anchor)).Reachable state) :
    Restarts P epoch anchor state := by
  have sound : Sound P anchor state.database state.store := by
    refine reached.invariant
      (fun state => Sound P anchor state.database state.store) ?_ ?_
    · exact ⟨nofun, nofun⟩
    · intro state event held enabled
      exact held.next epoch monotone hashed enabled.1 enabled.2
  obtain ⟨conversations, after, ran, named, _⟩ :=
    loadEngineTechnicalStateWithAnchor_arrives epoch monotone hashed
      sound
  exact ⟨conversations, after, ran, named⟩

end

/-! ## Removal and pairing

The row of a removed contact takes the count of its versions along; the anchor
keeps what it was shown. -/

instance Continues.decidable : Decidable (Continues anchor state event) :=
  match event with
  | .call call =>
    inferInstanceAs (Decidable (∀ entry ∈ call.snapshot, _ ∨ _))
  | .record _ | .restart => inferInstanceAs (Decidable True)

section

variable (P : Primitives) (epoch : P.Group → Nat)
  (anchor : MlsEpochAnchor σ EngineError) (blank : σ) (state : State σ)
  (event : Event)

instance : Decidable ((machine P epoch anchor blank).enabled state event) :=
  inferInstanceAs (Decidable (Event.genuine P event = true))

instance : Decidable (((machine P epoch anchor blank).restrict
      (Continues anchor)).enabled state event) :=
  inferInstanceAs (Decidable
    (Event.genuine P event = true ∧ Continues anchor state event))

end

def marked : Primitives :=
  { Primitives.plain "me" with sha256 := fun snapshot => 0 :: snapshot }

instance : DecidableEq marked.Group := inferInstanceAs (DecidableEq Bytes)

def length (group : marked.Group) : Nat := List.length (α := UInt8) group

abbrev markedMachine :
    Machine (State (InstallationId → Option AnchoredMlsCheckpoint)) Event :=
  machine marked length .highestRecorded fun _ => none

def pairing (inviteId : String) (snapshot : Bytes) : List Event :=
  [.call (.consumeInvite inviteId),
    .call (.putContact ⟨"alice", "Alice", "key", "fingerprint", none, false,
      false, .verified, .peerOnly⟩),
    .call (.putConversation ⟨"alice", .active, "", 0, 0⟩),
    .call (.beginVerifiedRelationship "alice" 5),
    .call (.putConversationMlsSnapshot "alice" snapshot)]

def talking : List Event :=
  [.call (.upsertSnapshot "alice" [1, 2]), .record "alice",
    .call (.putConversationMlsSnapshot "alice" [1, 2, 3]), .record "alice"]

def parting : Event :=
  .call (.removeRelationshipWithId "alice" 9 true "removal" 2)

def talked : State (InstallationId → Option AnchoredMlsCheckpoint) :=
  markedMachine.run markedMachine.init
    (pairing "first" [1] ++ talking ++ [.restart] ++ talking)

theorem talked_reachable :
    (markedMachine.restrict (Continues .highestRecorded)).Reachable talked :=
  .of_admits _ (by decide +kernel)

theorem talking_restarts :
    Restarts marked length .highestRecorded talked :=
  restart_raises_no_alarm length MlsEpochAnchor.highestRecorded_monotone
    (fun _ => List.cons_ne_nil _ _) talked_reachable

def pairedAgain : State (InstallationId → Option AnchoredMlsCheckpoint) :=
  markedMachine.run markedMachine.init
    (pairing "first" [1] ++ talking ++ [parting] ++ pairing "second" [1, 1])

/-- The engine does not start any more. -/
theorem pairing_again_raises_an_alarm :
    markedMachine.Reachable pairedAgain ∧
      (loadEngineTechnicalStateWithAnchor marked length .highestRecorded
        pairedAgain.database pairedAgain.store).1 =
        .err (.storage
          "MLS conversation snapshot for alice: re-pair required") ∧
      ¬Restarts marked length .highestRecorded pairedAgain := by
  refine ⟨Machine.Reachable.init.run _ (by decide +kernel), ?_⟩
  rw [and_iff_left_of_imp]
  · decide +kernel
  · rintro refused ⟨conversations, after, ran, _⟩
    rw [ran] at refused
    cases refused

end Anchoring

end Torchat
