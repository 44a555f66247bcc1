import Torchat.Storage.Calls

namespace Torchat.Storage

open Foundation

/-! ## The sequence of a capability

A sequence is a `u64`; the column that holds it is signed. -/

theorem signedColumn_eq (bounded : value < 2 ^ 64) :
    signedColumn value =
      if value < 2 ^ 63 then (value : Int) else (value : Int) - 2 ^ 64 := by
  have small : value % 2 ^ 64 = value := Nat.mod_eq_of_lt bounded
  rw [signedColumn, BitVec.toInt_eq_toNat_cond, BitVec.toNat_ofNat, small]
  split <;> split <;> omega

/-- A sequence that is not greater passes for one that is not smaller only where
the two are equal or the sign of the column tells them apart. -/
theorem signedColumn_le_of_le_iff {stored sequence : Nat}
    (storedBounded : stored < 2 ^ 64) (bounded : sequence < 2 ^ 64) :
    signedColumn stored ≤ signedColumn sequence ∧ sequence ≤ stored ↔
      sequence = stored ∨ 2 ^ 63 ≤ stored ∧ sequence < 2 ^ 63 := by
  rw [signedColumn_eq storedBounded, signedColumn_eq bounded]
  split <;> split <;> omega

/-! ## Calls on the capability received from a contact -/

inductive PeerCapabilityCall
  | put
      (capabilityId : String) (secret : Bytes) (sequence : UInt64)
      (issuedAt : Int) (expiresAt : Option Int)
  | revoke

namespace PeerCapabilityCall

def toCall (contact : InstallationId) : PeerCapabilityCall → Call
  | put capabilityId secret sequence issuedAt expiresAt =>
    .putPeerEndpointCapability contact capabilityId secret sequence.toNat
      issuedAt expiresAt
  | revoke => .revokePeerEndpointCapability contact

end PeerCapabilityCall

namespace Database

def capabilityActive (database : Database) (contact : InstallationId) : Prop :=
  ∃ row, database.peerEndpointCapabilities.lookup contact = some row ∧
    row.revoked = false

def capabilityRevoked
    (database : Database) (contact : InstallationId) (sequence : Nat) : Prop :=
  ∃ row, database.peerEndpointCapabilities.lookup contact = some row ∧
    row.revoked = true ∧ row.sequence = sequence

/-- Sequences come from `u64` values. -/
def CapabilitySequenced (contact : InstallationId) (database : Database) : Prop :=
  ∀ row, database.peerEndpointCapabilities.lookup contact = some row →
    row.sequence < 2 ^ 64

def AdmitsCapability (contact : InstallationId) (capabilityId : String)
    (database : Database) : Prop :=
  database.contacts.contains contact = true ∧
    uniqueCapability database.peerEndpointCapabilities contact capabilityId =
      .ok ()

theorem putPeerEndpointCapability_lookup
    (database : Database) (contact : InstallationId) (capabilityId : String)
    (secret : Bytes) (sequence : Nat) (issuedAt : Int) (expiresAt : Option Int) :
    (AdmitsCapability contact capabilityId database ∧
      (∀ row, database.peerEndpointCapabilities.lookup contact = some row →
        signedColumn row.sequence ≤ signedColumn sequence) ∧
      (database.settle (database.putPeerEndpointCapability contact capabilityId
        secret sequence issuedAt expiresAt)).peerEndpointCapabilities.lookup
          contact =
        some ⟨capabilityId, secret, sequence, issuedAt, expiresAt, false⟩) ∨
    (¬(AdmitsCapability contact capabilityId database ∧
      ∀ row, database.peerEndpointCapabilities.lookup contact = some row →
        signedColumn row.sequence ≤ signedColumn sequence) ∧
      database.settle (database.putPeerEndpointCapability contact capabilityId
        secret sequence issuedAt expiresAt) = database) := by
  have current : (database.peerEndpointCapabilities.lookup contact).all
      (fun row => decide (signedColumn row.sequence ≤ signedColumn sequence)) =
        true ↔
      ∀ row, database.peerEndpointCapabilities.lookup contact = some row →
        signedColumn row.sequence ≤ signedColumn sequence := by
    cases database.peerEndpointCapabilities.lookup contact <;> simp
  unfold putPeerEndpointCapability AdmitsCapability
  simp only [← current]
  cases (database.peerEndpointCapabilities.lookup contact).all
      (fun row => decide (signedColumn row.sequence ≤ signedColumn sequence)) with
  | false => exact .inr ⟨by simp, rfl⟩
  | true =>
    cases database.contacts.contains contact with
    | false => exact .inr ⟨by simp, rfl⟩
    | true =>
      cases uniqueCapability database.peerEndpointCapabilities contact
          capabilityId with
      | error error =>
        refine .inr ⟨by simp, ?_⟩
        simp [settle, requireRow, bind, Except.bind]
      | ok =>
        refine .inl ⟨by simp, by simp, ?_⟩
        simp [settle, requireRow, bind, Except.bind, pure, Except.pure]

end Database

namespace PeerCapabilityCall

variable {database : Database}

/-- A revoked capability becomes active only by a put with a greater sequence. -/
def RenewsLater (contact : InstallationId) (database : Database)
    (call : PeerCapabilityCall) : Prop :=
  ∀ revokedAt, database.capabilityRevoked contact revokedAt →
    ((call.toCall contact).perform database).capabilityActive contact →
    ∃ capabilityId secret sequence issuedAt expiresAt,
      call = put capabilityId secret sequence issuedAt expiresAt ∧
        revokedAt < sequence.toNat

/-- A put meets the revoked capability with the sequence it was revoked at, or
with one below `2 ^ 63` where that was not. -/
def Repeats (contact : InstallationId) (database : Database) :
    PeerCapabilityCall → Prop
  | put capabilityId _ sequence _ _ =>
    database.AdmitsCapability contact capabilityId ∧
      ∃ revokedAt, database.capabilityRevoked contact revokedAt ∧
        (sequence.toNat = revokedAt ∨
          2 ^ 63 ≤ revokedAt ∧ sequence.toNat < 2 ^ 63)
  | revoke => False

theorem perform_revoke_lookup (contact : InstallationId) (database : Database) :
    ((revoke.toCall contact).perform database).peerEndpointCapabilities.lookup
        contact =
      (database.peerEndpointCapabilities.lookup contact).map fun row =>
        { row with revoked := true } := by
  simp [toCall, Call.perform, Database.settle,
    Database.revokePeerEndpointCapability]

theorem revoke_renewsLater : revoke.RenewsLater contact database := by
  rintro _ _ ⟨row, found, active⟩
  rw [perform_revoke_lookup] at found
  obtain ⟨_, _, rfl⟩ := Option.map_eq_some_iff.mp found
  cases active

section

variable (sequenced : database.CapabilitySequenced contact)

include sequenced

theorem put_renewsLater_iff (capabilityId : String) (secret : Bytes)
    (sequence : UInt64) (issuedAt : Int) (expiresAt : Option Int) :
    (put capabilityId secret sequence issuedAt expiresAt).RenewsLater contact
        database ↔
      ¬(put capabilityId secret sequence issuedAt expiresAt).Repeats contact
        database := by
  have bounded : sequence.toNat < 2 ^ 64 := sequence.toNat_lt
  constructor
  · rintro renews ⟨admitted, revokedAt, revoked, repeated⟩
    obtain ⟨row, found, _, rfl⟩ := id revoked
    have accepted := (signedColumn_le_of_le_iff (sequenced row found) bounded).mpr
      repeated
    have active : (((put capabilityId secret sequence issuedAt expiresAt).toCall
        contact).perform database).capabilityActive contact := by
      rcases database.putPeerEndpointCapability_lookup contact capabilityId
          secret sequence.toNat issuedAt expiresAt with
        ⟨_, _, written⟩ | ⟨refused, _⟩
      · exact ⟨_, written, rfl⟩
      · refine absurd ⟨admitted, fun other same => ?_⟩ refused
        cases found.symm.trans same
        exact accepted.1
    obtain ⟨_, _, _, _, _, same, later⟩ := renews _ revoked active
    cases same
    exact absurd accepted.2 (Nat.not_le.mpr later)
  · intro apart revokedAt revoked active
    refine ⟨capabilityId, secret, sequence, issuedAt, expiresAt, rfl, ?_⟩
    obtain ⟨row, found, isRevoked, rfl⟩ := id revoked
    rcases database.putPeerEndpointCapability_lookup contact capabilityId secret
        sequence.toNat issuedAt expiresAt with
      ⟨admitted, accepted, _⟩ | ⟨_, unchanged⟩
    · by_contra earlier
      refine apart ⟨admitted, _, revoked, ?_⟩
      exact (signedColumn_le_of_le_iff (sequenced row found) bounded).mp
        ⟨accepted row found, Nat.not_lt.mp earlier⟩
    · obtain ⟨other, same, stillActive⟩ := active
      simp only [toCall, Call.perform, unchanged] at same
      cases found.symm.trans same
      rw [isRevoked] at stillActive
      cases stillActive

theorem renewsLater_iff (call : PeerCapabilityCall) :
    call.RenewsLater contact database ↔ ¬call.Repeats contact database := by
  cases call with
  | put capabilityId secret sequence issuedAt expiresAt =>
    exact put_renewsLater_iff sequenced capabilityId secret sequence issuedAt
      expiresAt
  | revoke => exact iff_of_true revoke_renewsLater not_false

theorem perform_sequenced (call : PeerCapabilityCall) :
    ((call.toCall contact).perform database).CapabilitySequenced contact := by
  intro row found
  cases call with
  | revoke =>
    rw [perform_revoke_lookup] at found
    obtain ⟨before, present, rfl⟩ := Option.map_eq_some_iff.mp found
    exact sequenced before present
  | put capabilityId secret sequence issuedAt expiresAt =>
    rcases database.putPeerEndpointCapability_lookup contact capabilityId
        secret sequence.toNat issuedAt expiresAt with
      ⟨_, _, written⟩ | ⟨_, unchanged⟩
    · cases written.symm.trans found
      exact sequence.toNat_lt
    · simp only [toCall, Call.perform, unchanged] at found
      exact sequenced row found

end

def performAll (contact : InstallationId) (database : Database)
    (calls : List PeerCapabilityCall) : Database :=
  machine.run database (calls.map (toCall contact))

theorem performAll_sequenced (sequenced : database.CapabilitySequenced contact)
    (calls : List PeerCapabilityCall) :
    (performAll contact database calls).CapabilitySequenced contact := by
  induction calls generalizing database with
  | nil => exact sequenced
  | cons call rest induction =>
    exact induction (perform_sequenced sequenced call)

end PeerCapabilityCall

open PeerCapabilityCall

/-- Whatever calls are made for a contact, in any order, revocations are final
exactly when no put repeats the sequence of a revoked capability. -/
theorem revocation_is_final_iff
    (contact : InstallationId) (database : Database)
    (sequenced : database.CapabilitySequenced contact)
    (calls : List PeerCapabilityCall) :
    (∀ earlier call later, calls = earlier ++ call :: later →
      call.RenewsLater contact (performAll contact database earlier)) ↔
    ∀ earlier call later, calls = earlier ++ call :: later →
      ¬call.Repeats contact (performAll contact database earlier) := by
  refine forall_congr' fun earlier => forall_congr' fun call =>
    forall_congr' fun later => imp_congr_right fun _ => ?_
  exact renewsLater_iff (performAll_sequenced sequenced earlier) call

def knowingAlice : Database :=
  Call.perform .empty (.putContact
    ⟨"alice", "Alice", "key", "fingerprint", none, false, false, .verified,
      .peerOnly⟩)

def offerAndRenewal : List PeerCapabilityCall :=
  [.put "capability" [1] 1 0 none, .revoke, .put "renewal" [2] 2 0 none]

theorem renewal_with_a_greater_sequence :
    knowingAlice.peerEndpointCapabilities.lookup "alice" = none ∧
      ∀ earlier call later, offerAndRenewal = earlier ++ call :: later →
        call.RenewsLater "alice" (performAll "alice" knowingAlice earlier) := by
  have unknown : knowingAlice.peerEndpointCapabilities.lookup "alice" =
      none := by
    decide +kernel
  refine ⟨unknown, (revocation_is_final_iff "alice" knowingAlice
    (fun row found => ?_) offerAndRenewal).mpr ?_⟩
  · rw [unknown] at found
    cases found
  · rintro (_ | ⟨first, _ | ⟨second, _ | ⟨third, rest⟩⟩⟩) call later split
    · cases split
      rintro ⟨_, _, ⟨_, found, _⟩, _⟩
      cases unknown.symm.trans found
    · cases split
      exact id
    · cases split
      rintro ⟨_, _, ⟨row, found, _, rfl⟩, repeated⟩
      have stored : (performAll "alice" knowingAlice
          [.put "capability" [1] 1 0 none, .revoke]
          ).peerEndpointCapabilities.lookup "alice" =
          some ⟨"capability", [1], 1, 0, none, true⟩ := by decide +kernel
      cases stored.symm.trans found
      revert repeated
      decide
    · cases rest <;> cases split

def offerReplayed : List PeerCapabilityCall :=
  [.put "capability" [1] 1 0 none, .revoke, .put "capability" [1] 1 0 none]

theorem replayed_offer_revives_the_capability :
    (performAll "alice" knowingAlice (offerReplayed.take 2)).capabilityRevoked
        "alice" 1 ∧
      (performAll "alice" knowingAlice offerReplayed).capabilityActive "alice" := by
  refine ⟨⟨⟨"capability", [1], 1, 0, none, true⟩, ?_, rfl, rfl⟩,
    ⟨"capability", [1], 1, 0, none, false⟩, ?_, rfl⟩
  · decide +kernel
  · decide +kernel

end Torchat.Storage
