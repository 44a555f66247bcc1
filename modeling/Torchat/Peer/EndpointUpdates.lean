import Torchat.Engine.EndpointRuns
import Torchat.Peer.ContactEndpoints

namespace Torchat.Peer

open Foundation Torchat.Core EndpointStore PeerEndpointBundle

def nextSequence (sequence : UInt64) : UInt64 :=
  if sequence = 0xffffffffffffffff then sequence else sequence + 1

section

variable (crypto : Crypto) (identity : crypto.SigningKey)

def endpointWithCapability (endpoint : Core.PeerEndpointBundle)
    (capabilityId : String) : Core.PeerEndpointBundle :=
  if capabilityMarker capabilityId ∈ endpoint.capabilities then endpoint
  else
    let marked := { endpoint with
      sequence := nextSequence endpoint.sequence
      capabilities :=
        endpoint.capabilities ++ [capabilityMarker capabilityId] }
    { marked with signature := sign crypto identity marked.signingBytes }

/-- The device's own bundle in force, and the updates queued for a contact,
oldest first. -/
structure Announcer where
  base : Option Core.PeerEndpointBundle
  updates : List PeerEndpointUpdate

/-- The onion service is available, or the bundle in force is another one:
`OnionServiceLost` leaves none, a start takes over the stored one. -/
inductive Report
  | available (onionAddress : String) (issuedAt : Int64)
  | replaced (base : Option Core.PeerEndpointBundle)

def reportedEndpoint (base : Option Core.PeerEndpointBundle)
    (onionAddress : String) (issuedAt : Int64) : Core.PeerEndpointBundle :=
  .new crypto identity onionAddress
    (base.elim 1 fun endpoint =>
      if Actor.sameAddress endpoint.onionAddress onionAddress then
        endpoint.sequence
      else
        nextSequence endpoint.sequence)
    issuedAt none

/-- The contact is told of a bundle with a larger sequence. A report that does
not make a valid bundle changes nothing. -/
def Announcer.report (announcer : Announcer) : Report → Announcer
  | .replaced base => { announcer with base }
  | .available address time =>
    let endpoint :=
      reportedEndpoint crypto identity announcer.base address time
    match endpoint.validate crypto time with
    | .error _ => announcer
    | .ok () =>
      { base := some endpoint
        updates := match announcer.base with
          | some base =>
            if base.sequence < endpoint.sequence then
              announcer.updates ++ [⟨base.sequence, endpoint⟩]
            else
              announcer.updates
          | none => announcer.updates }

end

/-- The updates that go out ahead of a frame of a session, and the sequence that
the answer to the frame confirms. -/
def outgoingUpdates (sent : UInt64) :
    List PeerEndpointUpdate → List PeerEndpointUpdate × Option UInt64
  | [] => ([], none)
  | update :: rest =>
    if update.endpoint.sequence ≤ sent then outgoingUpdates sent rest
    else
      let (later, latest) := outgoingUpdates update.endpoint.sequence rest
      (update :: later, latest <|> some update.endpoint.sequence)

/-! The same bundles in the engine's outline. -/

theorem toNat_nextSequence (sequence : UInt64) :
    (nextSequence sequence).toNat = min (sequence.toNat + 1) (2 ^ 64 - 1) := by
  have fits := sequence.toNat_lt
  unfold nextSequence
  split
  · rename_i full
    subst full
    decide
  · rename_i room
    have below : sequence.toNat ≠ 2 ^ 64 - 1 := fun full =>
      room (UInt64.toNat_inj.mp full)
    change (sequence.toNat + 1) % 2 ^ 64 = _
    omega

variable {announcer : Announcer}

section

variable {crypto : Crypto} {identity : crypto.SigningKey}

theorem outline_endpointWithCapability
    (endpoint : Core.PeerEndpointBundle) (capabilityId : String) :
    outline (endpointWithCapability crypto identity endpoint capabilityId) =
      Torchat.endpointWithCapability (outline endpoint) capabilityId := by
  unfold endpointWithCapability Torchat.endpointWithCapability
  by_cases marked : capabilityMarker capabilityId ∈ endpoint.capabilities
  · rw [if_pos marked, if_pos (show _ ∈ (outline endpoint).capabilities from
      marked)]
  · rw [if_neg marked, if_neg (show _ ∉ (outline endpoint).capabilities from
      marked)]
    simp only [outline, toNat_nextSequence]

theorem outline_reportedEndpoint
    {P : Primitives} (own : P.installationId = installationId crypto identity)
    (key : P.publicKey = publicKey crypto identity)
    (base : Option Core.PeerEndpointBundle) (onionAddress : String)
    (issuedAt : Int64) :
    outline (reportedEndpoint crypto identity base onionAddress issuedAt) =
      Actor.newEndpoint P onionAddress
        (Actor.endpointSequence (base.map outline) onionAddress) := by
  unfold reportedEndpoint Actor.newEndpoint Actor.endpointSequence
  cases base with
  | none => simp [outline, new, own, key]
  | some endpoint =>
    cases same : Actor.sameAddress endpoint.onionAddress onionAddress with
    | true => simp [outline, new, own, key, same]
    | false => simp [outline, new, own, key, same, toNat_nextSequence]

/-! ## What the contact makes of an update -/

theorem marker_mem_endpointWithCapability
    (endpoint : Core.PeerEndpointBundle) (capabilityId : String) :
    capabilityMarker capabilityId ∈
      (endpointWithCapability crypto identity endpoint
        capabilityId).capabilities := by
  unfold endpointWithCapability
  split
  · assumption
  · simp

def Announcer.Plain (crypto : Crypto) (identity : crypto.SigningKey)
    (announcer : Announcer) : Prop :=
  ∀ update ∈ announcer.updates, ∃ onionAddress sequence issuedAt,
    update.endpoint =
      .new crypto identity onionAddress sequence issuedAt none

theorem Announcer.Plain.report
    (plain : announcer.Plain crypto identity) (report : Report) :
    (announcer.report crypto identity report).Plain crypto identity := by
  intro update member
  cases report with
  | replaced base => exact plain update member
  | available onionAddress issuedAt =>
    simp only [Announcer.report] at member
    split at member
    · exact plain update member
    split at member
    · split at member
      · rcases List.mem_append.mp member with member | member
        · exact plain update member
        · cases List.mem_singleton.mp member
          exact ⟨_, _, _, rfl⟩
      · exact plain update member
    · exact plain update member

theorem Announcer.Plain.reports
    (plain : announcer.Plain crypto identity) (reports : List Report) :
    (reports.foldl (Announcer.report crypto identity) announcer).Plain crypto
      identity := by
  induction reports generalizing announcer with
  | nil => exact plain
  | cons report rest induction => exact induction (plain.report report)

variable {update : PeerEndpointUpdate}

theorem validate_eq_ok_iff :
    update.validate crypto previous now = .ok () ↔
      update.previousSequence = previous.sequence ∧
        update.endpoint.validateSuccessor crypto previous now = .ok () := by
  simp only [PeerEndpointUpdate.validate, refuseIf_bind_eq_ok, not_not, ne_eq]

theorem receiveEndpointUpdate_eq_some_iff
    (named : update.endpoint.installationId = peerId)
    (keyed : update.endpoint.identityPublicKey = peerKey) :
    receiveEndpointUpdate crypto peerId peerKey peerEndpoint
        update now = .ok (some update.endpoint) ↔
      update.validate crypto peerEndpoint now = .ok () := by
  simp only [receiveEndpointUpdate, refuseIf_bind_eq_ok, named,
    keyed, ne_eq, not_true_eq_false, or_self, not_false_eq_true, true_and]
  constructor
  · intro received
    split at received
    · cases received
    · obtain ⟨_, passed, _⟩ := bind_eq_ok.mp received
      exact passed
  · intro passed
    obtain ⟨_, succeeds⟩ := validate_eq_ok_iff.mp passed
    obtain ⟨_, _, _, newer⟩ :=
      validateSuccessor_eq_ok_iff.mp succeeds
    rw [if_neg (UInt64.not_le.mpr newer), passed]
    rfl

/-- The update is taken, and leaves the contact with the new address and with
its own marker. -/
structure Reaches (crypto : Crypto) (self : InstallationId)
    (store : EndpointStore) (peerId peerKey : String)
    (stored : Core.PeerEndpointBundle) (update : PeerEndpointUpdate)
    (capabilityId : String) (now : Int64) : Prop where
  accepted : EndpointStore.receiveEndpointUpdate crypto peerId peerKey stored
    update now = .ok (some update.endpoint)
  moved : ∃ bundle,
    (store.next crypto self (.framed peerId peerKey stored update
      now)).contactPeerEndpoint peerId = some bundle ∧
    bundle.onionAddress = update.endpoint.onionAddress ∧
    capabilityMarker capabilityId ∈ bundle.capabilities

theorem contactPeerEndpoint_framed
    {store : EndpointStore} (sound : store.Sound crypto)
    (found : store.endpoints.lookup update.endpoint.installationId = some row)
    (keyed : update.endpoint.identityPublicKey = peerKey)
    (passed : update.validate crypto row.bundle now = .ok ()) :
    (store.next crypto self (.framed update.endpoint.installationId peerKey
        row.bundle update now)).contactPeerEndpoint
        update.endpoint.installationId =
      if update.endpoint.installationId ∈ store.tombstones ∨
          Crosses row.bundle.sequence update.endpoint.sequence then
        some row.bundle
      else
        some update.endpoint := by
  obtain ⟨_, succeeds⟩ := validate_eq_ok_iff.mp passed
  obtain ⟨_, _, _, newer⟩ :=
    validateSuccessor_eq_ok_iff.mp succeeds
  have kept : store.contactPeerEndpoint update.endpoint.installationId =
      some row.bundle := by
    rw [contactPeerEndpoint, found]
    rfl
  simp only [next,
    (receiveEndpointUpdate_eq_some_iff rfl keyed).mpr passed]
  rw [endpointUpdated_of_successor found succeeds]
  by_cases removed : update.endpoint.installationId ∈ store.tombstones
  · rw [if_pos (.inl removed), putContactPeerEndpoint,
      if_pos removed]
    exact kept
  have advances : row.sequence < (EndpointRow.of update.endpoint).sequence ↔
      ¬ Crosses row.bundle.sequence update.endpoint.sequence := by
    rw [(sound _ row found).column]
    exact toInt64_lt_iff newer
  simp only [putContactPeerEndpoint, found, removed, if_false,
    false_or]
  by_cases crosses : Crosses row.bundle.sequence update.endpoint.sequence
  · rw [if_neg (mt advances.mp (not_not.mpr crosses)), if_pos crosses]
    exact kept
  · rw [if_pos (advances.mpr crosses), if_neg crosses]
    simp only [orKeep, contactPeerEndpoint,
      Table.lookup_insert, if_true, Option.map_some]
    rfl

end

/-- No queued update brings a contact its own bundle for the new address: what
is queued has no marker. Only a contact whose tables do not take the update, and
whose bundle has the new address already, is left with both. -/
theorem address_change_reaches_iff
    (crypto : Crypto) (self : InstallationId) (identity : crypto.SigningKey)
    (onionAddress capabilityId : String) (sequence : UInt64)
    (issuedAt now : Int64) (issued : Core.PeerEndpointBundle)
    (made : issued = endpointWithCapability crypto identity
      (.new crypto identity onionAddress sequence issuedAt none) capabilityId)
    (store : EndpointStore)
    (reached : (endpointStore crypto self).Reachable store)
    (held : store.contactPeerEndpoint (installationId crypto identity) =
      some issued)
    (base : Option Core.PeerEndpointBundle) (reports : List Report)
    (update : PeerEndpointUpdate)
    (queued : update ∈ (reports.foldl (Announcer.report crypto identity)
      ⟨base, []⟩).updates) :
    Reaches crypto self store (installationId crypto identity)
        (publicKey crypto identity) issued update capabilityId now ↔
      update.validate crypto issued now = .ok () ∧
        (installationId crypto identity ∈ store.tombstones ∨
          Crosses issued.sequence update.endpoint.sequence) ∧
        issued.onionAddress = update.endpoint.onionAddress := by
  have sound := EndpointStore.Sound.of_reachable reached
  have plain : Announcer.Plain crypto identity ⟨base, []⟩ := nofun
  obtain ⟨address, number, time, endpoint⟩ := plain.reports reports update queued
  have named : update.endpoint.installationId =
      installationId crypto identity := by
    rw [endpoint]
    rfl
  have keyed : update.endpoint.identityPublicKey =
      publicKey crypto identity := by
    rw [endpoint]
    rfl
  have unmarked : capabilityMarker capabilityId ∉
      update.endpoint.capabilities := by
    rw [endpoint]
    exact capabilityMarker_notMem capabilityId
  have marked : capabilityMarker capabilityId ∈ issued.capabilities := by
    rw [made]
    exact marker_mem_endpointWithCapability _ capabilityId
  obtain ⟨row, found, rfl⟩ := Option.map_eq_some_iff.mp held
  rw [← named] at found ⊢
  constructor
  · rintro ⟨accepted, bundle, stored, moved, member⟩
    have passed :=
      (receiveEndpointUpdate_eq_some_iff rfl keyed).mp accepted
    rw [contactPeerEndpoint_framed sound found keyed passed] at stored
    split at stored
    · rename_i refused
      cases stored
      exact ⟨passed, refused, moved⟩
    · cases stored
      exact absurd member unmarked
  · rintro ⟨passed, refused, moved⟩
    refine ⟨(receiveEndpointUpdate_eq_some_iff rfl keyed).mpr passed,
      row.bundle, ?_, moved, marked⟩
    rw [contactPeerEndpoint_framed sound found keyed passed, if_pos refused]

def issuedEndpoint : Core.PeerEndpointBundle :=
  endpointWithCapability .plain () (sampleEndpoint 1) "0123456789abcdef"

def pairedStore : EndpointStore where
  contacts :=
    Table.empty.insert issuedEndpoint.installationId (publicKey .plain ())
  tombstones := Finset.erase ∅ issuedEndpoint.installationId
  endpoints :=
    Table.empty.insert issuedEndpoint.installationId (.of issuedEndpoint)
  pending := .empty

theorem pairedStore_reachable :
    (endpointStore .plain "contact").Reachable pairedStore := by
  let machine := endpointStore .plain "contact"
  let events : List EndpointEvent :=
    [.paired sampleContact (publicKey .plain ()) 0, .applied issuedEndpoint 0]
  have reached : machine.Reachable (machine.run machine.init events) :=
    Machine.Reachable.init.run events ⟨trivial, trivial, trivial⟩
  have arrives : machine.run machine.init events = pairedStore := by
    decide +kernel
  rwa [arrives] at reached

theorem pairedStore_holds_issued :
    pairedStore.contactPeerEndpoint sampleContact = some issuedEndpoint := by
  decide +kernel

def otherOnion : String :=
  String.ofList (List.replicate 56 'b') ++ ".onion"

def movedEndpoint : Core.PeerEndpointBundle :=
  .new .plain () otherOnion 2 0 none

def movedUpdate : PeerEndpointUpdate := ⟨1, movedEndpoint⟩

def movedAnnouncer : Announcer :=
  [Report.available otherOnion 0].foldl (Announcer.report .plain ())
    ⟨some (sampleEndpoint 1), []⟩

theorem reportedEndpoint_otherOnion :
    reportedEndpoint .plain () (some (sampleEndpoint 1)) otherOnion 0 =
      movedEndpoint := by
  have differs : Actor.sameAddress (sampleEndpoint 1).onionAddress otherOnion =
      false := by
    decide +kernel
  have number : nextSequence (sampleEndpoint 1).sequence = 2 := by decide
  simp only [reportedEndpoint, Option.elim_some, differs, Bool.false_eq_true,
    if_false, number, movedEndpoint]

theorem movedAnnouncer_updates : movedAnnouncer.updates = [movedUpdate] := by
  have passed : movedEndpoint.validate .plain 0 = .ok () := by decide +kernel
  have newer : (sampleEndpoint 1).sequence < movedEndpoint.sequence := by decide
  simp only [movedAnnouncer, List.foldl_cons, List.foldl_nil, Announcer.report,
    reportedEndpoint_otherOnion, passed, if_pos newer]
  rfl

theorem movedUpdate_skipped :
    receiveEndpointUpdate .plain sampleContact
      (publicKey .plain ()) issuedEndpoint movedUpdate 0 = .ok none := by
  decide +kernel

theorem moved_update_does_not_reach :
    ¬Reaches .plain "contact" pairedStore sampleContact (publicKey .plain ())
      issuedEndpoint movedUpdate "0123456789abcdef" 0 := by
  have queued : movedUpdate ∈ movedAnnouncer.updates := by
    rw [movedAnnouncer_updates]
    exact List.mem_singleton_self movedUpdate
  have reaches := address_change_reaches_iff .plain "contact" () sampleOnion
    "0123456789abcdef" 1 0 0 issuedEndpoint rfl pairedStore
    pairedStore_reachable pairedStore_holds_issued (some (sampleEndpoint 1))
    [.available otherOnion 0] movedUpdate queued
  intro held
  obtain ⟨passed, _⟩ := reaches.mp held
  obtain ⟨named, _⟩ := validate_eq_ok_iff.mp passed
  revert named
  decide

def announcing : Actor (.plain "me") :=
  .assemble (.plain "me")
    { Storage.Database.empty with
      endpointUpdateOutbox :=
        Table.empty.insert ("contact", 2) ⟨1, outline movedUpdate.endpoint⟩ }
    .empty false none 0 (.initial (.calm 0))

/-- The update goes out on a session; the contact passes over it and keeps the
old address; the answer to the probe deletes the update. -/
theorem moved_update_is_passed_over_and_deleted :
    movedAnnouncer.updates = [movedUpdate] ∧
    outgoingUpdates 0 [movedUpdate] = ([movedUpdate], some 2) ∧
    pairedStore.contactPeerEndpoint sampleContact = some issuedEndpoint ∧
    (pairedStore.next .plain "contact" (.framed sampleContact
      (publicKey .plain ()) issuedEndpoint movedUpdate 0)).contactPeerEndpoint
      sampleContact = some issuedEndpoint ∧
    ¬Reaches .plain "contact" pairedStore sampleContact (publicKey .plain ())
      issuedEndpoint movedUpdate "0123456789abcdef" 0 ∧
    (Actor.completeUpdates .persisted "contact" (some 2)
      announcing).2.database.endpointUpdateOutbox.entries = [] := by
  refine ⟨movedAnnouncer_updates, rfl, pairedStore_holds_issued, ?_, ?_, ?_⟩
  · simp only [EndpointStore.next, movedUpdate_skipped]
    exact pairedStore_holds_issued
  · rintro ⟨accepted, _⟩
    cases accepted
  · decide +kernel

end Torchat.Peer
