import Mathlib.Data.Finset.Basic
import Torchat.Core.Invite
import Torchat.Core.RelayPayload
import Torchat.Foundation.Machine
import Torchat.Storage.Endpoints

namespace Torchat.Peer

open Foundation Torchat.Core PeerEndpointBundle

/-- A row of `contact_peer_endpoints`: the bundle as JSON, and its sequence in a
signed column of its own. -/
structure EndpointRow where
  bundle : Core.PeerEndpointBundle
  sequence : Int64
  deriving DecidableEq

def EndpointRow.of (endpoint : Core.PeerEndpointBundle) : EndpointRow :=
  ⟨endpoint, endpoint.sequence.toInt64⟩

structure PendingEndpoint where
  payload : RelayPayloadV1
  sequence : Int64
  deriving DecidableEq

/-- The tables the endpoints of contacts depend on, with the public key of each
contact. -/
structure EndpointStore where
  contacts : Table InstallationId String
  tombstones : Finset InstallationId
  endpoints : Table InstallationId EndpointRow
  pending : Table InstallationId PendingEndpoint
  deriving DecidableEq

namespace EndpointStore

def contactPeerEndpoint (store : EndpointStore) (contact : InstallationId) :
    Option Core.PeerEndpointBundle :=
  (store.endpoints.lookup contact).map EndpointRow.bundle

def putContactPeerEndpoint (store : EndpointStore)
    (endpoint : Core.PeerEndpointBundle) : Except String EndpointStore :=
  if endpoint.installationId ∈ store.tombstones then
    .ok store
  else
    let row := EndpointRow.of endpoint
    match store.endpoints.lookup endpoint.installationId with
    | some current =>
      if current.sequence < row.sequence then
        .ok { store with
          endpoints := store.endpoints.insert endpoint.installationId row }
      else
        .ok store
    | none => do
        refuseIf (¬ store.contacts.contains endpoint.installationId)
          "FOREIGN KEY constraint failed"
        return { store with
          endpoints := store.endpoints.insert endpoint.installationId row }

def putPendingPeerEndpointInbox (store : EndpointStore)
    (contact : InstallationId) (record : PendingEndpoint) : EndpointStore :=
  let newer := (store.pending.lookup contact).all fun current =>
    decide (current.sequence < record.sequence)
  if newer then { store with pending := store.pending.insert contact record }
  else store

section Engine

variable (crypto : Crypto) (self : InstallationId)

def peerEndpointRequiresUpdate (previous : Option Core.PeerEndpointBundle)
    (endpoint : Core.PeerEndpointBundle) (now : Int64) : Except String Bool :=
  match previous with
  | some previous =>
    if endpoint.sequence ≤ previous.sequence then .ok false
    else do
      endpoint.validateSuccessor crypto previous now
      return true
  | none => do
      endpoint.validate crypto now
      return true

def applyPeerEndpoint
    (store : EndpointStore) (endpoint : Core.PeerEndpointBundle)
    (now : Int64) : Except String EndpointStore := do
  if ← peerEndpointRequiresUpdate crypto
      (store.contactPeerEndpoint endpoint.installationId) endpoint now then
    store.putContactPeerEndpoint endpoint
  else
    return store

def endpointUpdated (store : EndpointStore) (endpoint : Core.PeerEndpointBundle)
    (now : Int64) : Except String EndpointStore := do
  let previous ← required (store.contactPeerEndpoint endpoint.installationId)
    "peer endpoint update has no known predecessor"
  endpoint.validateSuccessor crypto previous now
  store.putContactPeerEndpoint endpoint

/-- What an authenticated session passes on of an update: nothing where its own
view of the peer's endpoint is as new. -/
def receiveEndpointUpdate (peerId peerKey : String)
    (peerEndpoint : Core.PeerEndpointBundle) (update : PeerEndpointUpdate)
    (now : Int64) : Except String (Option Core.PeerEndpointBundle) := do
  refuseIf
    (update.endpoint.installationId ≠ peerId ∨
      update.endpoint.identityPublicKey ≠ peerKey)
    "peer endpoint update changed authenticated identity"
  if update.endpoint.sequence ≤ peerEndpoint.sequence then return none
  update.validate crypto peerEndpoint now
  return some update.endpoint

def bootstrapEndpoint (store : EndpointStore) (payload : RelayPayloadV1)
    (sender : String) (now : Int64) : Except String EndpointStore := do
  let endpoint ← payload.verifyPeerEndpointBootstrap crypto sender self
  match store.contacts.lookup endpoint.installationId with
  | none =>
    return store.putPendingPeerEndpointInbox endpoint.installationId
      ⟨payload, endpoint.sequence.toInt64⟩
  | some publicKey =>
    refuseIf (trim publicKey ≠ "" ∧ publicKey ≠ endpoint.identityPublicKey)
      "peer endpoint bootstrap identity does not match contact"
    store.applyPeerEndpoint crypto endpoint now

def applyPendingPeerEndpoint (store : EndpointStore) (contact : InstallationId)
    (now : Int64) : Except String EndpointStore := do
  match store.pending.lookup contact with
  | none => return store
  | some record =>
    let endpoint ←
      record.payload.verifyPeerEndpointBootstrap crypto contact self
    let store ← store.applyPeerEndpoint crypto endpoint now
    return { store with pending := store.pending.erase contact }

def pair (store : EndpointStore) (contact : InstallationId)
    (publicKey : String) : EndpointStore :=
  { store with
    contacts := store.contacts.insert contact publicKey
    tombstones := store.tombstones.erase contact }

/-- A removal by the other side leaves the endpoint's row. -/
def remove (store : EndpointStore) (contact : InstallationId) (remote : Bool) :
    EndpointStore :=
  { store with
    tombstones := insert contact store.tombstones
    endpoints := if remote then store.endpoints else store.endpoints.erase contact
    pending := if remote then store.pending else store.pending.erase contact }

end Engine

end EndpointStore

inductive EndpointEvent
  | applied (endpoint : Core.PeerEndpointBundle) (now : Int64)
  | updated (endpoint : Core.PeerEndpointBundle) (now : Int64)
  | framed
      (peerId peerKey : String) (peerEndpoint : Core.PeerEndpointBundle)
      (update : PeerEndpointUpdate) (now : Int64)
  | bootstrapped (payload : RelayPayloadV1) (sender : String) (now : Int64)
  | paired (contact : InstallationId) (publicKey : String) (now : Int64)
  | removed (contact : InstallationId) (remote : Bool)

namespace EndpointStore

def orKeep (store : EndpointStore) (result : Except String EndpointStore) :
    EndpointStore :=
  match result with
  | .ok later => later
  | .error _ => store

def next (crypto : Crypto) (self : InstallationId) (store : EndpointStore) :
    EndpointEvent → EndpointStore
  | .applied endpoint now =>
    store.orKeep (store.applyPeerEndpoint crypto endpoint now)
  | .updated endpoint now =>
    store.orKeep (store.endpointUpdated crypto endpoint now)
  | .framed peerId peerKey peerEndpoint update now =>
    match receiveEndpointUpdate crypto peerId peerKey peerEndpoint update
      now with
    | .ok (some endpoint) =>
      store.orKeep (store.endpointUpdated crypto endpoint now)
    | _ => store
  | .bootstrapped payload sender now =>
    store.orKeep (store.bootstrapEndpoint crypto self payload sender now)
  | .paired contact publicKey now =>
    let store := store.pair contact publicKey
    store.orKeep (store.applyPendingPeerEndpoint crypto self contact now)
  | .removed contact remote => store.remove contact remote

end EndpointStore

def endpointStore (crypto : Crypto) (self : InstallationId) :
    Machine EndpointStore EndpointEvent where
  init := ⟨.empty, ∅, .empty, .empty⟩
  enabled _ _ := True
  next := EndpointStore.next crypto self

def firstNegative : UInt64 := 0x8000000000000000

def Crosses (lower upper : UInt64) : Prop :=
  lower < firstNegative ∧ firstNegative ≤ upper
  deriving Decidable

theorem toInt_toInt64 (value : UInt64) :
    value.toInt64.toInt = Storage.signedColumn value.toNat := by
  show value.toBitVec.toInt = (BitVec.ofNat 64 value.toNat).toInt
  rw [← UInt64.toNat_toBitVec, BitVec.ofNat_toNat, BitVec.setWidth_eq]

theorem toInt64_lt_iff (less : lower < upper) :
    lower.toInt64 < upper.toInt64 ↔ ¬ Crosses lower upper := by
  have column : ∀ value : UInt64, value.toInt64.toInt =
      if 2 * value.toNat < 2 ^ 64 then (value.toNat : Int)
      else value.toNat - 2 ^ 64 := by
    intro value
    show value.toBitVec.toInt = _
    rfl
  have half : firstNegative.toNat = 2 ^ 63 := rfl
  have lowerFits := lower.toNat_lt
  have upperFits := upper.toNat_lt
  rw [UInt64.lt_iff_toNat_lt] at less
  rw [Int64.lt_iff_toInt_lt, column, column, Crosses, UInt64.lt_iff_toNat_lt,
    UInt64.le_iff_toNat_le, half]
  split <;> split <;> omega

/-! ## What an operation can do to the stored endpoints -/

section Moves

variable {crypto : Crypto} {self : InstallationId}

def Moves (crypto : Crypto) (before after : EndpointStore) : Prop :=
  after.endpoints = before.endpoints ∨
  ∃ endpoint now,
    after.endpoints =
      before.endpoints.insert endpoint.installationId (.of endpoint) ∧
    endpoint.Valid crypto now ∧
    ∀ row, before.endpoints.lookup endpoint.installationId = some row →
      row.bundle.sequence < endpoint.sequence

theorem Moves.refl (store : EndpointStore) : Moves crypto store store :=
  .inl rfl

namespace EndpointStore

theorem moves_orKeep
    (moves : ∀ later, result = .ok later → Moves crypto store later) :
    Moves crypto store (store.orKeep result) := by
  cases result with
  | error error => exact .refl store
  | ok later => exact moves later rfl

variable {store : EndpointStore}

theorem putContactPeerEndpoint_moves (valid : endpoint.Valid crypto now)
    (newer : ∀ row, store.endpoints.lookup endpoint.installationId = some row →
      row.bundle.sequence < endpoint.sequence)
    (put : store.putContactPeerEndpoint endpoint = .ok later) :
    Moves crypto store later := by
  simp only [putContactPeerEndpoint] at put
  split at put
  · obtain rfl := Except.ok.inj put
    exact .refl store
  · split at put
    · split at put
      · obtain rfl := Except.ok.inj put
        exact .inr ⟨endpoint, now, rfl, valid, newer⟩
      · obtain rfl := Except.ok.inj put
        exact .refl store
    · rw [refuseIf_bind_eq_ok] at put
      obtain rfl := Except.ok.inj put.2
      exact .inr ⟨endpoint, now, rfl, valid, newer⟩

theorem applyPeerEndpoint_moves
    (applied : store.applyPeerEndpoint crypto endpoint now = .ok later) :
    Moves crypto store later := by
  obtain ⟨requires, checked, rest⟩ := bind_eq_ok.mp applied
  cases requires with
  | false =>
    obtain rfl := Except.ok.inj rest
    exact .refl store
  | true =>
    unfold peerEndpointRequiresUpdate contactPeerEndpoint at checked
    cases found : store.endpoints.lookup endpoint.installationId with
    | none =>
      simp only [found, Option.map_none, bind_eq_ok] at checked
      obtain ⟨_, valid, -⟩ := checked
      refine putContactPeerEndpoint_moves (validate_eq_ok_iff.mp valid) ?_ rest
      intro row held
      rw [found] at held
      cases held
    | some current =>
      simp only [found, Option.map_some] at checked
      split at checked
      · cases checked
      · obtain ⟨_, passed, -⟩ := bind_eq_ok.mp checked
        obtain ⟨valid, -, -, newer⟩ :=
          validateSuccessor_eq_ok_iff.mp passed
        refine putContactPeerEndpoint_moves valid ?_ rest
        intro row held
        rw [found] at held
        obtain rfl := Option.some.inj held
        exact newer

theorem endpointUpdated_moves
    (updated : store.endpointUpdated crypto endpoint now = .ok later) :
    Moves crypto store later := by
  simp only [endpointUpdated, required_bind_eq_ok] at updated
  obtain ⟨previous, found, updated⟩ := updated
  obtain ⟨_, passed, rest⟩ := bind_eq_ok.mp updated
  obtain ⟨valid, -, -, newer⟩ :=
    validateSuccessor_eq_ok_iff.mp passed
  refine putContactPeerEndpoint_moves valid ?_ rest
  intro row held
  rw [contactPeerEndpoint, held] at found
  obtain rfl := Option.some.inj found
  exact newer

theorem bootstrapEndpoint_moves
    (done : store.bootstrapEndpoint crypto self payload sender now =
      .ok later) : Moves crypto store later := by
  obtain ⟨endpoint, -, rest⟩ := bind_eq_ok.mp done
  split at rest
  · obtain rfl := Except.ok.inj rest
    simp only [putPendingPeerEndpointInbox]
    split
    · exact .inl rfl
    · exact .refl store
  · rw [refuseIf_bind_eq_ok] at rest
    exact applyPeerEndpoint_moves rest.2

theorem applyPendingPeerEndpoint_moves
    (done : store.applyPendingPeerEndpoint crypto self contact now =
      .ok later) : Moves crypto store later := by
  unfold applyPendingPeerEndpoint at done
  split at done
  · obtain rfl := Except.ok.inj done
    exact .refl store
  · obtain ⟨endpoint, -, rest⟩ := bind_eq_ok.mp done
    obtain ⟨applied, apply, result⟩ := bind_eq_ok.mp rest
    obtain rfl := Except.ok.inj result
    have moves : Moves crypto store applied := applyPeerEndpoint_moves apply
    exact moves

end EndpointStore

theorem next_moves (store : EndpointStore) (event : EndpointEvent)
    (kept : ∀ contact remote, event ≠ .removed contact remote) :
    Moves crypto store (store.next crypto self event) := by
  cases event with
  | applied endpoint now =>
    exact EndpointStore.moves_orKeep
      fun _ => EndpointStore.applyPeerEndpoint_moves
  | updated endpoint now =>
    exact EndpointStore.moves_orKeep
      fun _ => EndpointStore.endpointUpdated_moves
  | framed peerId peerKey peerEndpoint update now =>
    simp only [EndpointStore.next]
    split
    · exact EndpointStore.moves_orKeep
        fun _ => EndpointStore.endpointUpdated_moves
    · exact .refl store
  | bootstrapped payload sender now =>
    exact EndpointStore.moves_orKeep
      fun _ => EndpointStore.bootstrapEndpoint_moves
  | paired contact publicKey now =>
    have moves : Moves crypto (store.pair contact publicKey)
        (store.next crypto self (.paired contact publicKey now)) :=
      EndpointStore.moves_orKeep
        fun _ => EndpointStore.applyPendingPeerEndpoint_moves
    exact moves
  | removed contact remote => exact absurd rfl (kept contact remote)

structure EndpointRow.Sound
    (crypto : Crypto) (contact : InstallationId) (row : EndpointRow) : Prop where
  named : row.bundle.installationId = contact
  column : row.sequence = row.bundle.sequence.toInt64
  valid : ∃ now, row.bundle.Valid crypto now

def EndpointStore.Sound (crypto : Crypto) (store : EndpointStore) : Prop :=
  ∀ contact row, store.endpoints.lookup contact = some row →
    row.Sound crypto contact

theorem Moves.sound (moves : Moves crypto before after)
    (sound : before.Sound crypto) : after.Sound crypto := by
  intro contact row found
  obtain same | ⟨endpoint, now, inserted, valid, -⟩ := moves
  · rw [same] at found
    exact sound contact row found
  · rw [inserted, Table.lookup_insert] at found
    split at found
    · obtain rfl := Option.some.inj found
      subst contact
      exact ⟨rfl, rfl, now, valid⟩
    · exact sound contact row found

theorem Moves.sequence_le (moves : Moves crypto before after)
    (found : before.endpoints.lookup contact = some row) :
    ∃ later, after.endpoints.lookup contact = some later ∧
      row.bundle.sequence ≤ later.bundle.sequence := by
  obtain same | ⟨endpoint, now, inserted, -, newer⟩ := moves
  · rw [same]
    exact ⟨row, found, UInt64.le_refl _⟩
  · rw [inserted, Table.lookup_insert]
    split
    · subst contact
      exact ⟨_, rfl, UInt64.le_of_lt (newer row found)⟩
    · exact ⟨row, found, UInt64.le_refl _⟩

theorem EndpointStore.lookup_remove
    (store : EndpointStore) (removed contact : InstallationId) (remote : Bool) :
    (store.remove removed remote).endpoints.lookup contact =
      if remote = false ∧ removed = contact then none
      else store.endpoints.lookup contact := by
  cases remote with
  | true => simp [remove]
  | false => simp [remove, eq_comm]

variable {store : EndpointStore}

theorem next_sequence_le (kept : ∀ remote, event ≠ .removed contact remote)
    (found : store.endpoints.lookup contact = some row) :
    ∃ later,
      (store.next crypto self event).endpoints.lookup contact = some later ∧
      row.bundle.sequence ≤ later.bundle.sequence := by
  by_cases removal : ∃ other remote, event = .removed other remote
  · obtain ⟨other, remote, rfl⟩ := removal
    have different : other ≠ contact := by
      rintro rfl
      exact kept remote rfl
    refine ⟨row, ?_, UInt64.le_refl _⟩
    rw [EndpointStore.next, EndpointStore.lookup_remove,
      if_neg (fun both => different both.2)]
    exact found
  · simp only [not_exists] at removal
    exact (next_moves store event removal).sequence_le found

theorem next_sound (event : EndpointEvent) (sound : store.Sound crypto) :
    (store.next crypto self event).Sound crypto := by
  by_cases removal : ∃ other remote, event = .removed other remote
  · obtain ⟨other, remote, rfl⟩ := removal
    intro contact row found
    rw [EndpointStore.next, EndpointStore.lookup_remove] at found
    split at found
    · cases found
    · exact sound contact row found
  · simp only [not_exists] at removal
    exact (next_moves store event removal).sound sound

theorem EndpointStore.Sound.of_reachable
    (reached : (endpointStore crypto self).Reachable store) :
    store.Sound crypto := by
  refine reached.invariant (EndpointStore.Sound crypto) ?_ ?_
  · intro contact row found
    cases found
  · intro store event sound _
    exact next_sound event sound

theorem run_sequence_le
    (kept : ∀ event ∈ events, ∀ remote, event ≠ .removed contact remote)
    (found : store.endpoints.lookup contact = some row) :
    ∃ later,
      ((endpointStore crypto self).run store events).endpoints.lookup contact =
        some later ∧
      row.bundle.sequence ≤ later.bundle.sequence := by
  induction events generalizing store row with
  | nil => exact ⟨row, found, UInt64.le_refl _⟩
  | cons event rest induction =>
    obtain ⟨next, foundNext, first⟩ :=
      next_sequence_le (kept event List.mem_cons_self) found
    obtain ⟨later, foundLater, others⟩ :=
      induction (fun event member => kept event (.tail _ member)) foundNext
    exact ⟨later, foundLater, UInt64.le_trans first others⟩

end Moves

def outline (endpoint : Core.PeerEndpointBundle) : PeerEndpointBundle where
  installationId := endpoint.installationId
  identityPublicKey := endpoint.identityPublicKey
  onionAddress := endpoint.onionAddress
  sequence := endpoint.sequence.toNat
  expiresAt := endpoint.expiresAt.map Int64.toInt
  capabilities := endpoint.capabilities

structure Mirrors (store : EndpointStore) (database : Storage.Database) :
    Prop where
  contacts : ∀ contact,
    database.contacts.contains contact = store.contacts.contains contact
  tombstones : ∀ contact,
    database.relationshipTombstones.contains contact = true ↔
      contact ∈ store.tombstones
  endpoints : ∀ contact,
    database.contactPeerEndpoints.lookup contact =
      (store.endpoints.lookup contact).map fun row => outline row.bundle

theorem Mirrors.insert
    (mirrors : Mirrors store database) (endpoint : Core.PeerEndpointBundle) :
    Mirrors
      { store with
        endpoints :=
          store.endpoints.insert endpoint.installationId (.of endpoint) }
      { database with
        contactPeerEndpoints :=
          database.contactPeerEndpoints.insert endpoint.installationId
            (outline endpoint) } where
  contacts := mirrors.contacts
  tombstones := mirrors.tombstones
  endpoints contact := by
    rw [Table.lookup_insert, Table.lookup_insert]
    split
    · rfl
    · exact mirrors.endpoints contact

theorem Mirrors.putContactPeerEndpoint
    (mirrors : Mirrors store database) (sound : store.Sound crypto)
    (put : store.putContactPeerEndpoint endpoint = .ok later) :
    ∃ after,
      database.putContactPeerEndpoint (outline endpoint) = .ok after ∧
      Mirrors later after := by
  simp only [EndpointStore.putContactPeerEndpoint] at put
  simp only [Storage.Database.putContactPeerEndpoint]
  by_cases removed : endpoint.installationId ∈ store.tombstones
  · rw [if_pos removed] at put
    obtain rfl := Except.ok.inj put
    exact ⟨database, if_pos ((mirrors.tombstones _).mpr removed), mirrors⟩
  rw [if_neg removed] at put
  have held := mirrors.endpoints endpoint.installationId
  have kept : ¬ database.relationshipTombstones.contains
      (outline endpoint).installationId = true :=
    mt (mirrors.tombstones _).mp removed
  rw [if_neg kept]
  cases found : store.endpoints.lookup endpoint.installationId with
  | none =>
    rw [found, Option.map_none] at held
    simp only [found, refuseIf_bind_eq_ok] at put
    obtain ⟨known, result⟩ := put
    obtain rfl := Except.ok.inj result
    rw [not_not] at known
    refine ⟨_, ?_, mirrors.insert endpoint⟩
    simp only [outline] at held ⊢
    rw [held]
    simp only [mirrors.contacts, known]
    rfl
  | some row =>
    rw [found, Option.map_some] at held
    have column := (sound _ row found).column
    simp only [found, EndpointRow.of, column, Int64.lt_iff_toInt_lt,
      toInt_toInt64] at put
    simp only [outline] at held ⊢
    rw [held]
    split at put
    case isTrue advanced =>
      obtain rfl := Except.ok.inj put
      exact ⟨_, if_pos advanced, mirrors.insert endpoint⟩
    case isFalse stuck =>
      obtain rfl := Except.ok.inj put
      exact ⟨_, if_neg stuck, mirrors⟩

/-! ## Successors -/

section Successors

variable (crypto : Crypto) (self : InstallationId)

/-- The event hands the endpoint to the tables at that time: the checks made
before the tables are looked at have passed. -/
def Hands (store : EndpointStore) (event : EndpointEvent)
    (endpoint : Core.PeerEndpointBundle) (now : Int64) : Prop :=
  match event with
  | .applied offered time | .updated offered time =>
    offered = endpoint ∧ time = now
  | .framed peerId peerKey peerEndpoint update time =>
    EndpointStore.receiveEndpointUpdate crypto peerId peerKey peerEndpoint
      update time = .ok (some endpoint) ∧ time = now
  | .bootstrapped payload sender time =>
    payload.verifyPeerEndpointBootstrap crypto sender self = .ok endpoint ∧
    time = now ∧
    ∃ publicKey,
      store.contacts.lookup endpoint.installationId = some publicKey ∧
      (trim publicKey = "" ∨ publicKey = endpoint.identityPublicKey)
  | .paired contact _ time =>
    time = now ∧
    ∃ record, store.pending.lookup contact = some record ∧
      record.payload.verifyPeerEndpointBootstrap crypto contact self =
        .ok endpoint
  | .removed _ _ => False

variable {crypto} {self}
variable {store : EndpointStore} {endpoint : Core.PeerEndpointBundle}
variable {now : Int64} {row : EndpointRow}

namespace EndpointStore

theorem putContactPeerEndpoint_of_row
    (present : endpoint.installationId ∉ store.tombstones)
    (found : store.endpoints.lookup endpoint.installationId = some row)
    (column : row.sequence = row.bundle.sequence.toInt64)
    (newer : row.bundle.sequence < endpoint.sequence) :
    ∃ later, store.putContactPeerEndpoint endpoint = .ok later ∧
      (later.contactPeerEndpoint endpoint.installationId = some endpoint ↔
        ¬ Crosses row.bundle.sequence endpoint.sequence) := by
  have advances : row.sequence < (EndpointRow.of endpoint).sequence ↔
      ¬ Crosses row.bundle.sequence endpoint.sequence := by
    rw [column]
    exact toInt64_lt_iff newer
  simp only [putContactPeerEndpoint, if_neg present, found]
  by_cases crosses : Crosses row.bundle.sequence endpoint.sequence
  · rw [if_neg (mt advances.mp (not_not.mpr crosses))]
    refine ⟨store, rfl, ?_⟩
    simp only [contactPeerEndpoint, found, Option.map_some]
    refine ⟨fun equal => ?_, fun stays => absurd crosses stays⟩
    obtain rfl := Option.some.inj equal
    exact absurd newer (UInt64.lt_irrefl _)
  · rw [if_pos (advances.mpr crosses)]
    refine ⟨_, rfl, ?_⟩
    simp only [contactPeerEndpoint, Table.lookup_insert, if_true,
      Option.map_some]
    exact ⟨fun _ => crosses, fun _ => rfl⟩

section

variable (found : store.endpoints.lookup endpoint.installationId = some row)
  (passed : endpoint.validateSuccessor crypto row.bundle now = .ok ())

include found passed

theorem applyPeerEndpoint_of_successor :
    store.applyPeerEndpoint crypto endpoint now =
      store.putContactPeerEndpoint endpoint := by
  obtain ⟨-, -, -, newer⟩ :=
    validateSuccessor_eq_ok_iff.mp passed
  simp only [applyPeerEndpoint, contactPeerEndpoint, found, Option.map_some,
    peerEndpointRequiresUpdate, if_neg (UInt64.not_le.mpr newer), passed]
  rfl

theorem endpointUpdated_of_successor :
    store.endpointUpdated crypto endpoint now =
      store.putContactPeerEndpoint endpoint := by
  simp only [endpointUpdated, contactPeerEndpoint, found, Option.map_some,
    required]
  exact congrArg (· >>= fun _ => store.putContactPeerEndpoint endpoint) passed

end

theorem bootstrapEndpoint_of_verified
    {payload : RelayPayloadV1} {publicKey : String}
    (verified : payload.verifyPeerEndpointBootstrap crypto sender self =
      .ok endpoint)
    (known : store.contacts.lookup endpoint.installationId = some publicKey)
    (same : trim publicKey = "" ∨ publicKey = endpoint.identityPublicKey) :
    store.bootstrapEndpoint crypto self payload sender now =
      store.applyPeerEndpoint crypto endpoint now := by
  have accepted :
      ¬ (trim publicKey ≠ "" ∧ publicKey ≠ endpoint.identityPublicKey) := by
    rintro ⟨named, other⟩
    exact same.elim named other
  simp only [bootstrapEndpoint, verified, known, refuseIf, if_neg accepted,
    bind, Except.bind]

theorem applyPendingPeerEndpoint_of_verified
    (pending : store.pending.lookup contact = some record)
    (verified : record.payload.verifyPeerEndpointBootstrap crypto contact self =
      .ok endpoint)
    (applied : store.applyPeerEndpoint crypto endpoint now = .ok later) :
    store.applyPendingPeerEndpoint crypto self contact now =
      .ok { later with pending := later.pending.erase contact } := by
  simp only [applyPendingPeerEndpoint, pending, verified, applied, bind,
    Except.bind]
  rfl

end EndpointStore

theorem verifyPeerEndpointBootstrap_names {payload : RelayPayloadV1}
    (verified : payload.verifyPeerEndpointBootstrap crypto sender self =
      .ok endpoint) : endpoint.installationId = sender := by
  cases payload with
  | peerEndpointBootstrap version card recipient offered =>
    obtain ⟨_, -, rest⟩ := bind_eq_ok.mp verified
    simp only [refuseIf_bind_eq_ok, not_or, not_not, ne_eq] at rest
    obtain ⟨fromSender, -, ⟨ofCard, -⟩, result⟩ := rest
    obtain rfl := Except.ok.inj result
    exact ofCard.trans fromSender
  | _ => cases verified

theorem stored_iff_of_hands {event : EndpointEvent} (sound : store.Sound crypto)
    (hands : Hands crypto self store event endpoint now)
    (present : endpoint.installationId ∉ store.tombstones)
    (found : store.endpoints.lookup endpoint.installationId = some row)
    (passed : endpoint.validateSuccessor crypto row.bundle now = .ok ()) :
    (store.next crypto self event).contactPeerEndpoint
        endpoint.installationId = some endpoint ↔
      ¬ Crosses row.bundle.sequence endpoint.sequence := by
  have column := (sound _ row found).column
  obtain ⟨-, -, -, newer⟩ :=
    validateSuccessor_eq_ok_iff.mp passed
  obtain ⟨later, put, stored⟩ :=
    EndpointStore.putContactPeerEndpoint_of_row present found column newer
  have applied := EndpointStore.applyPeerEndpoint_of_successor found passed
  have updated := EndpointStore.endpointUpdated_of_successor found passed
  cases event with
  | applied offered time =>
    obtain ⟨rfl, rfl⟩ := hands
    rw [EndpointStore.next, applied, put]
    exact stored
  | updated offered time =>
    obtain ⟨rfl, rfl⟩ := hands
    rw [EndpointStore.next, updated, put]
    exact stored
  | framed peerId peerKey peerEndpoint update time =>
    obtain ⟨received, rfl⟩ := hands
    simp only [EndpointStore.next, received]
    rw [updated, put]
    exact stored
  | bootstrapped payload sender time =>
    obtain ⟨verified, rfl, publicKey, known, same⟩ := hands
    rw [EndpointStore.next,
      EndpointStore.bootstrapEndpoint_of_verified verified known same,
      applied, put]
    exact stored
  | paired contact publicKey time =>
    obtain ⟨rfl, record, pending, verified⟩ := hands
    obtain rfl := verifyPeerEndpointBootstrap_names verified
    let paired := store.pair endpoint.installationId publicKey
    have lifted : endpoint.installationId ∉ paired.tombstones :=
      Finset.notMem_erase _ _
    have held : paired.endpoints.lookup endpoint.installationId = some row :=
      found
    obtain ⟨later, put, stored⟩ :=
      EndpointStore.putContactPeerEndpoint_of_row lifted held column newer
    have done := EndpointStore.applyPendingPeerEndpoint_of_verified
      (show paired.pending.lookup endpoint.installationId = some record from
        pending) verified
      ((EndpointStore.applyPeerEndpoint_of_successor held passed).trans put)
    rw [EndpointStore.next, done]
    exact stored
  | removed contact remote => exact hands.elim

theorem EndpointStore.Sound.identity (sound : store.Sound crypto)
    (found : store.endpoints.lookup contact = some row)
    (owns : installationIdFromPublicKey crypto key = contact)
    (only : ∀ other, installationIdFromPublicKey crypto other = contact →
      other = key) :
    crypto.decode64 row.bundle.identityPublicKey = some key.toList := by
  obtain ⟨named, -, now, valid⟩ := sound contact row found
  obtain ⟨other, decoded, installation⟩ := valid.identity
  obtain rfl := only other (installation.symm.trans named)
  exact decoded

end Successors

theorem endpoint_successor_is_stored_iff
    (crypto : Crypto)
    (self : InstallationId)
    (store : EndpointStore)
    (reached : (endpointStore crypto self).Reachable store)
    (contact : InstallationId)
    (row : EndpointRow)
    (found : store.endpoints.lookup contact = some row) :
    (∀ key, installationIdFromPublicKey crypto key = contact →
      (∀ other, installationIdFromPublicKey crypto other = contact →
        other = key) →
      crypto.decode64 row.bundle.identityPublicKey = some key.toList) ∧
    (∀ events,
      (∀ event ∈ events, ∀ remote, event ≠ .removed contact remote) →
      ∃ later,
        ((endpointStore crypto self).run store events).endpoints.lookup
          contact = some later ∧
        row.bundle.sequence ≤ later.bundle.sequence) ∧
    (∀ event endpoint now,
      Hands crypto self store event endpoint now →
      contact ∉ store.tombstones →
      endpoint.validateSuccessor crypto row.bundle now = .ok () →
      ((store.next crypto self event).contactPeerEndpoint contact =
          some endpoint ↔
        ¬ Crosses row.bundle.sequence endpoint.sequence)) := by
  have sound := EndpointStore.Sound.of_reachable reached
  refine ⟨fun key owns only => sound.identity found owns only,
    fun events kept => run_sequence_le kept found, ?_⟩
  intro event endpoint now hands present passed
  obtain ⟨-, same, -, -⟩ :=
    PeerEndpointBundle.validateSuccessor_eq_ok_iff.mp passed
  obtain rfl : endpoint.installationId = contact :=
    same.trans (sound contact row found).named
  exact stored_iff_of_hands sound hands present found passed

def sampleOnion : String :=
  String.ofList (List.replicate 56 'a') ++ ".onion"

def sampleEndpoint (sequence : UInt64) : Core.PeerEndpointBundle :=
  .new .plain () sampleOnion sequence 0 none

def sampleContact : InstallationId := installationId .plain ()

def sampleStore : EndpointStore where
  contacts := Table.empty.insert sampleContact (publicKey .plain ())
  tombstones := Finset.erase ∅ sampleContact
  endpoints := Table.empty.insert sampleContact (.of (sampleEndpoint 1))
  pending := .empty

theorem sampleStore_reachable :
    (endpointStore .plain "self").Reachable sampleStore := by
  let machine := endpointStore .plain "self"
  let events : List EndpointEvent :=
    [.paired sampleContact (publicKey .plain ()) 0,
      .applied (sampleEndpoint 1) 0]
  have reached : machine.Reachable (machine.run machine.init events) :=
    Machine.Reachable.init.run events ⟨trivial, trivial, trivial⟩
  have arrives : machine.run machine.init events = sampleStore := by
    decide +kernel
  rwa [arrives] at reached

theorem negative_successor_is_not_stored :
    (endpointStore .plain "self").Reachable sampleStore ∧
    sampleStore.contactPeerEndpoint sampleContact = some (sampleEndpoint 1) ∧
    sampleContact ∉ sampleStore.tombstones ∧
    (sampleEndpoint firstNegative).validateSuccessor .plain (sampleEndpoint 1)
      0 = .ok () ∧
    (sampleStore.next .plain "self"
      (.updated (sampleEndpoint firstNegative) 0)).contactPeerEndpoint
        sampleContact ≠ some (sampleEndpoint firstNegative) := by
  exact ⟨sampleStore_reachable, by decide +kernel, by decide +kernel,
    by decide +kernel, by decide +kernel⟩

theorem sampleSuccessor_is_stored :
    (sampleStore.next .plain "self"
      (.updated (sampleEndpoint 2) 0)).contactPeerEndpoint sampleContact =
        some (sampleEndpoint 2) := by
  have found : sampleStore.endpoints.lookup sampleContact =
      some (.of (sampleEndpoint 1)) := by
    decide +kernel
  obtain ⟨-, -, stored⟩ := endpoint_successor_is_stored_iff .plain "self"
    sampleStore sampleStore_reachable sampleContact _ found
  exact (stored (.updated (sampleEndpoint 2) 0) (sampleEndpoint 2) 0 ⟨rfl, rfl⟩
    (Finset.notMem_erase _ _) (by decide +kernel)).mpr (by decide)

end Torchat.Peer
