import Torchat.Peer.Agreement
import Torchat.Peer.EndpointUpdates
import Torchat.Storage.Renewal

namespace Torchat.Peer

open Foundation Torchat.Core Storage

/-! ## The engine and its listener

The capabilities issued to contacts stand in the database. The listener decides
by a table of its own, which the engine fills while the listener runs. -/

/-- As a ghost, `closed` holds the capabilities that were revoked, or whose
contact was removed, since the last one was issued to the contact. -/
structure Access where
  database : Database
  localPeerEndpoint : Option Core.PeerEndpointBundle
  listener : Option (Table InstallationId AuthorizedPeer)
  closed : List (InstallationId × String)

structure Draw where
  capabilityId : String
  secret : Bytes
  nowSecs : Int

namespace Access

def authorized (access : Access) (peer : InstallationId) :
    Option AuthorizedPeer :=
  access.listener.bind (·.lookup peer)

def held (access : Access) (contact : InstallationId) :
    List (InstallationId × String) :=
  match access.database.contactEndpointCapabilities.lookup contact with
  | none => []
  | some row => [(contact, row.capabilityId)]

def write (access : Access) (database : Database) : Access :=
  { access with database }

def close (contact : InstallationId) (access : Access) : Access :=
  { access with closed := access.held contact ++ access.closed }

def putContactEndpointCapability (contact : InstallationId) (draw : Draw)
    (access : Access) : RuntimeResult Access := do
  let database ← access.database.putContactEndpointCapability contact
    draw.capabilityId draw.secret draw.nowSecs
  return { access with
    database
    closed := access.closed.filter fun pair => pair.1 ≠ contact }

def call (access : Access) (call : Call) : Access :=
  match call with
  | .putContactEndpointCapability contact capabilityId secret nowSecs =>
    match access.putContactEndpointCapability contact
        ⟨capabilityId, secret, nowSecs⟩ with
    | .ok after => after
    | .error _ => access
  | .revokeContactEndpointCapability contact =>
    close contact (access.write (call.perform access.database))
  | .removeRelationshipWithId contact _ _ _ epoch =>
    if trim contact = "" ∨ access.database.staleRemoval contact epoch then
      access
    else
      close contact (access.write (call.perform access.database))
  | _ => { access with database := call.perform access.database }

def ensureContactEndpointCapability (contact : InstallationId) (draw : Draw) :
    Program Access RuntimeError String := do
  match ← Program.read fun access =>
      access.database.activeContactCapability contact draw.nowSecs with
  | some capabilityId => return capabilityId
  | none =>
    Program.execute (putContactEndpointCapability contact draw)
    return draw.capabilityId

def localCapabilityCredentials (contact : InstallationId) :
    Program Access RuntimeError (String × Bytes) := do
  match ← Program.read fun access =>
      access.database.contactEndpointCapabilities.lookup contact with
  | some row => return (row.capabilityId, row.secret)
  | none =>
    Program.fail (.storage
      ("local endpoint capability is missing for contact " ++ contact))

section

variable (crypto : Crypto) (identity : crypto.SigningKey)

def localEndpointForContact
    (contact : InstallationId) (endpoint : Core.PeerEndpointBundle)
    (draw : Draw) : Program Access RuntimeError Core.PeerEndpointBundle := do
  return endpointWithCapability crypto identity endpoint
    (← ensureContactEndpointCapability contact draw)

/-- The entry is replaced or added; none is ever taken away. -/
def authorizeContact (endpoint localEndpoint : Core.PeerEndpointBundle)
    (inboundCapabilityId : String) (capabilitySecret : Bytes)
    (access : Access) : Access :=
  { access with
    listener := access.listener.map fun table =>
      table.insert endpoint.installationId
        { publicKey := endpoint.identityPublicKey
          endpoint
          localEndpoint
          inboundCapabilityId
          capabilitySecret } }

/-- A session that takes over a newer endpoint of its peer puts it into the
peer's entry and leaves the capability there as it is. -/
def serveUpdate (endpoint : Core.PeerEndpointBundle) (access : Access) :
    Access :=
  { access with
    listener := access.listener.map fun table =>
      table.modify endpoint.installationId fun entry =>
        { entry with publicKey := endpoint.identityPublicKey, endpoint } }

def authorizeFromDatabase
    (contact : InstallationId) (endpoint base : Core.PeerEndpointBundle)
    (draw : Draw) : Program Access RuntimeError Unit := do
  let credentials ← localCapabilityCredentials contact
  let localEndpoint ← localEndpointForContact crypto identity contact base draw
  Program.modify (authorizeContact endpoint localEndpoint credentials.1
    credentials.2)

/-- What happens with the endpoint of a contact, when it comes in and when the
listener is filled from the database. -/
def admitContact (contact : InstallationId) (endpoint : Core.PeerEndpointBundle)
    (draw : Draw) : Program Access RuntimeError Unit := do
  let _ ← ensureContactEndpointCapability contact draw
  match ← Program.read fun access =>
      (access.listener, access.localPeerEndpoint) with
  | (some _, some base) =>
    authorizeFromDatabase crypto identity contact endpoint base draw
  | _ => return

def admitContacts (stored : InstallationId → Option Core.PeerEndpointBundle)
    (draws : InstallationId → Draw) : Program Access RuntimeError Unit := do
  Program.forEach (← Program.read fun access => access.database.contacts.keys)
    fun contact =>
      match stored contact with
      | none => Program.pure ()
      | some endpoint =>
        admitContact crypto identity contact endpoint (draws contact)

def refreshPeerAuthorizations
    (stored : InstallationId → Option Core.PeerEndpointBundle)
    (draws : InstallationId → Draw) : Program Access RuntimeError Unit := do
  match ← Program.read fun access =>
      (access.listener, access.localPeerEndpoint) with
  | (some _, some _) => admitContacts crypto identity stored draws
  | _ => return

def beginRun (stored : InstallationId → Option Core.PeerEndpointBundle)
    (draws : InstallationId → Draw) : Program Access RuntimeError Unit := do
  Program.modify fun access => { access with listener := some .empty }
  admitContacts crypto identity stored draws

end

end Access

/-! ## Runs -/

/-- `updated` is an endpoint that passed the checks of a session, `applied` one
that the engine takes over, from a session or from the relay. Labels carry the
stored bundles in full, of which the database keeps the outline. -/
inductive AccessEvent
  | called (call : Call)
  | located (endpoint : Option Core.PeerEndpointBundle)
  | updated (endpoint : Core.PeerEndpointBundle)
  | applied (endpoint : Core.PeerEndpointBundle) (draw : Draw)
  | refreshed
      (stored : InstallationId → Option Core.PeerEndpointBundle)
      (draws : InstallationId → Draw)
  | begun
      (stored : InstallationId → Option Core.PeerEndpointBundle)
      (draws : InstallationId → Draw)
  | ended

namespace Access

def Stores (access : Access)
    (stored : InstallationId → Option Core.PeerEndpointBundle) : Prop :=
  ∀ contact, (stored contact).map outline =
    access.database.contactPeerEndpoints.lookup contact

def next (crypto : Crypto) (identity : crypto.SigningKey) (access : Access) :
    AccessEvent → Access
  | .called call => access.call call
  | .located endpoint => { access with localPeerEndpoint := endpoint }
  | .updated endpoint => access.serveUpdate endpoint
  | .applied endpoint draw =>
    (admitContact crypto identity endpoint.installationId endpoint draw
      access).2
  | .refreshed stored draws =>
    (refreshPeerAuthorizations crypto identity stored draws access).2
  | .begun stored draws => (beginRun crypto identity stored draws access).2
  | .ended => { access with listener := none }

end Access

def accessMachine (crypto : Crypto) (identity : crypto.SigningKey) :
    Machine Access AccessEvent where
  init := ⟨.empty, none, none, []⟩
  enabled access
    | .refreshed stored _ | .begun stored _ => access.Stores stored
    | _ => True
  next := Access.next crypto identity

namespace Access

def Admits (access : Access) (capabilityId : String) : Prop :=
  ∃ peer entry, access.authorized peer = some entry ∧
    entry.inboundCapabilityId = capabilityId ∧ capabilityId ≠ "" ∧
    entry.capabilitySecret ≠ []

def Refuses
    (crypto : Crypto) (fromSlice : FromSlice) (identity : crypto.SigningKey)
    (access : Access) (capabilityId : String) : Prop :=
  ∀ serverNonce sessionId received challenged,
    checkHello crypto fromSlice identity access.authorized serverNonce sessionId
      received = .ok challenged →
    challenged.hello.capabilityId ≠ capabilityId

def Unused (access : Access) (capabilityId : String) : Prop :=
  ∀ pair ∈ access.closed, pair.2 ≠ capabilityId

def MeetsCall (access : Access) : Call → Prop
  | .putContactEndpointCapability _ capabilityId _ _ =>
    access.Unused capabilityId
  | .revokeContactEndpointCapability contact =>
    ∀ row,
      access.database.contactEndpointCapabilities.lookup contact = some row →
      ¬access.Admits row.capabilityId
  | .removeRelationshipWithId contact .. =>
    ∀ row,
      access.database.contactEndpointCapabilities.lookup contact = some row →
      row.revoked = true ∧ ¬access.Admits row.capabilityId
  | _ => True

def Meets (access : Access) : AccessEvent → Prop
  | .called call => access.MeetsCall call
  | .applied _ draw => access.Unused draw.capabilityId
  | .refreshed _ draws | .begun _ draws =>
    ∀ contact, access.Unused (draws contact).capabilityId
  | .located _ | .updated _ | .ended => True

structure Shut (access : Access) : Prop where
  unique : ∀ contact other row another,
    access.database.contactEndpointCapabilities.lookup contact = some row →
    access.database.contactEndpointCapabilities.lookup other = some another →
    row.capabilityId = another.capabilityId → contact = other
  dead : ∀ pair ∈ access.closed, ∀ contact row,
    access.database.contactEndpointCapabilities.lookup contact = some row →
    row.capabilityId = pair.2 → row.revoked = true
  barred : ∀ pair ∈ access.closed, ¬access.Admits pair.2

variable {crypto : Crypto} {identity : crypto.SigningKey}
  {access after : Access} {contact : InstallationId} {draw : Draw}

theorem refuses_of_not_admits (shut : ¬access.Admits capabilityId) :
    access.Refuses crypto fromSlice identity capabilityId := by
  rintro serverNonce sessionId received challenged passed rfl
  obtain ⟨found, presented, same, secret⟩ := checkHello_capability passed
  exact shut ⟨_, _, found, same.symm, presented, secret⟩

theorem Shut.of_same (shut : access.Shut)
    (capabilities : after.database.contactEndpointCapabilities =
      access.database.contactEndpointCapabilities)
    (listener : ∀ peer entry, after.authorized peer = some entry →
      access.authorized peer = some entry)
    (closed : ∀ pair ∈ after.closed, pair ∈ access.closed) : after.Shut where
  unique := by
    rw [capabilities]
    exact shut.unique
  dead pair member := by
    rw [capabilities]
    exact shut.dead pair (closed pair member)
  barred pair member := by
    rintro ⟨peer, entry, found, rest⟩
    exact shut.barred pair (closed pair member)
      ⟨peer, entry, listener peer entry found, rest⟩

theorem putContactEndpointCapability_cases
    (done : access.putContactEndpointCapability contact draw = .ok after) :
    ∃ row : EndpointCapability,
      row.capabilityId = draw.capabilityId ∧ row.revoked = false ∧
      (∀ other another,
        access.database.contactEndpointCapabilities.lookup other =
          some another →
        another.capabilityId = draw.capabilityId → other = contact) ∧
      after = { access with
        database := { access.database with
          contactEndpointCapabilities :=
            access.database.contactEndpointCapabilities.insert contact row }
        closed := access.closed.filter fun pair => pair.1 ≠ contact } := by
  obtain ⟨database, put, same⟩ := bind_eq_ok.mp done
  cases same
  obtain ⟨_, put⟩ := requireRow_bind_eq_ok.mp put
  obtain ⟨_, unique, put⟩ := bind_eq_ok.mp put
  cases put
  refine ⟨_, rfl, rfl, fun other another found same => ?_, rfl⟩
  exact Database.unique_of_uniqueCapability unique found same

theorem putContactEndpointCapability_shut
    (shut : access.Shut) (unused : access.Unused draw.capabilityId)
    (done : access.putContactEndpointCapability contact draw = .ok after) :
    after.Shut := by
  obtain ⟨row, issued, live, unique, rfl⟩ :=
    putContactEndpointCapability_cases done
  constructor
  · intro first second one two foundFirst foundSecond same
    simp only [Table.lookup_insert] at foundFirst foundSecond
    split at foundFirst
    · cases foundFirst
      split at foundSecond
      · simp_all
      · have := unique second two foundSecond (same.symm.trans issued)
        simp_all
    · split at foundSecond
      · cases foundSecond
        have := unique first one foundFirst (same.trans issued)
        simp_all
      · exact shut.unique first second one two foundFirst foundSecond same
  · intro pair member other another found same
    have kept := (List.mem_filter.mp member).1
    simp only [Table.lookup_insert] at found
    split at found
    · cases found
      exact absurd (same.symm.trans issued) (unused pair kept)
    · exact shut.dead pair kept other another found same
  · intro pair member
    exact shut.barred pair (List.mem_filter.mp member).1

/-- A call that closes nothing keeps closed capabilities out, given that it does
not draw one of them. -/
def Keeping (drawn : Set String) (before after : Access) : Prop :=
  before.Shut → (∀ capabilityId ∈ drawn, before.Unused capabilityId) →
    after.Shut ∧ ∀ pair ∈ after.closed, pair ∈ before.closed

instance : Frame (Keeping drawn) where
  refl _ shut _ := ⟨shut, fun _ member => member⟩
  trans first second shut unused := by
    obtain ⟨shut, closed⟩ := first shut unused
    obtain ⟨shut, again⟩ := second shut fun capabilityId member pair inside =>
      unused capabilityId member pair (closed pair inside)
    exact ⟨shut, fun pair member => closed pair (again pair member)⟩

theorem ensureContactEndpointCapability_keeps
    (member : draw.capabilityId ∈ drawn) :
    (ensureContactEndpointCapability contact draw).Keeps (Keeping drawn) := by
  have put : (execute (putContactEndpointCapability contact draw) :
      Program Access RuntimeError Unit).Keeps (Keeping drawn) := by
    refine .execute fun access after done shut unused => ?_
    refine ⟨putContactEndpointCapability_shut shut (unused _ member) done, ?_⟩
    obtain ⟨_, _, _, _, rfl⟩ := putContactEndpointCapability_cases done
    exact fun pair inside => (List.mem_filter.mp inside).1
  refine .next fun active => ?_
  cases active with
  | some capabilityId => exact inferInstance
  | none => exact .bind put fun _ => inferInstance

theorem ensureContactEndpointCapability_live
    (ran : ensureContactEndpointCapability contact draw access =
      (.ok capabilityId, after)) :
    ∃ row, after.database.contactEndpointCapabilities.lookup contact =
      some row ∧ row.revoked = false := by
  obtain ⟨active, _, asked, ran⟩ := bind_ok ran
  obtain ⟨found, rfl⟩ := Prod.mk.inj asked
  have found := Outcome.ok.inj found
  cases active with
  | some active =>
    cases ran
    exact Database.live_of_activeContactCapability found
  | none =>
    obtain ⟨_, _, put, ran⟩ := bind_ok ran
    cases ran
    obtain ⟨row, _, live, _, rfl⟩ :=
      putContactEndpointCapability_cases (Program.execute_eq_ok put)
    exact ⟨row, (Table.lookup_insert _ _ _ _).trans (if_pos rfl), live⟩

theorem authorizeContact_shut
    (shut : access.Shut) (unused : access.Unused capabilityId) :
    (authorizeContact endpoint localEndpoint capabilityId secret
      access).Shut where
  unique := shut.unique
  dead := shut.dead
  barred pair member := by
    rintro ⟨peer, entry, found, same, rest⟩
    refine shut.barred pair member ⟨peer, entry, ?_, same, rest⟩
    unfold authorized authorizeContact at found
    unfold authorized
    cases running : access.listener with
    | none =>
      rw [running] at found
      cases found
    | some table =>
      rw [running] at found
      simp only [Option.map_some, Option.bind_some, Table.lookup_insert] at found ⊢
      split at found
      · cases found
        exact absurd same.symm (unused pair member)
      · exact found

theorem authorized_serveUpdate
    (found : (serveUpdate endpoint access).authorized peer = some entry) :
    ∃ before, access.authorized peer = some before ∧
      entry.inboundCapabilityId = before.inboundCapabilityId ∧
      entry.capabilitySecret = before.capabilitySecret := by
  unfold authorized serveUpdate at found
  unfold authorized
  cases running : access.listener with
  | none =>
    rw [running] at found
    cases found
  | some table =>
    rw [running] at found
    simp only [Option.map_some, Option.bind_some, Table.lookup_modify] at found ⊢
    split at found
    · obtain ⟨before, stored, rfl⟩ := Option.map_eq_some_iff.mp found
      exact ⟨before, stored, rfl, rfl⟩
    · exact ⟨entry, found, rfl, rfl⟩

theorem serveUpdate_shut (shut : access.Shut) :
    (serveUpdate endpoint access).Shut where
  unique := shut.unique
  dead := shut.dead
  barred pair member := by
    rintro ⟨peer, entry, found, same, presented, secret⟩
    obtain ⟨before, stored, sameId, sameSecret⟩ := authorized_serveUpdate found
    exact shut.barred pair member ⟨peer, before, stored, sameId.symm.trans same,
      presented, sameSecret ▸ secret⟩

theorem authorizeFromDatabase_keeps (member : draw.capabilityId ∈ drawn)
    (found : access.database.contactEndpointCapabilities.lookup contact =
      some row) (live : row.revoked = false) :
    Keeping drawn access
      (authorizeFromDatabase crypto identity contact endpoint base draw
        access).2 := by
  have credentials : localCapabilityCredentials contact access =
      (.ok (row.capabilityId, row.secret), access) := by
    simp only [localCapabilityCredentials, run_bind, run_read,
      found]
    rfl
  have ensured : (localEndpointForContact crypto identity contact base
      draw).Keeps (Keeping drawn) :=
    .bind (ensureContactEndpointCapability_keeps member) fun _ => inferInstance
  rw [authorizeFromDatabase, run_bind_ok credentials]
  refine bind_end (Keeping drawn access) (ensured.run access)
    fun localEndpoint later ran => ?_
  have kept := ensured.run access
  rw [ran] at kept
  intro shut unused
  obtain ⟨shutLater, closed⟩ := kept shut unused
  refine ⟨authorizeContact_shut shutLater fun pair inside same => ?_, closed⟩
  have revoked := shut.dead pair (closed pair inside) contact row found same.symm
  rw [live] at revoked
  cases revoked

theorem admitContact_keeps (member : draw.capabilityId ∈ drawn) :
    (admitContact crypto identity contact endpoint draw).Keeps
      (Keeping drawn) := by
  have ensured : (ensureContactEndpointCapability contact draw).Keeps
      (Keeping drawn) :=
    ensureContactEndpointCapability_keeps member
  refine ⟨fun access => ?_⟩
  refine bind_end (Keeping drawn access) (ensured.run access)
    fun capabilityId later ran => ?_
  have kept := ensured.run access
  rw [ran] at kept
  refine Frame.trans kept ?_
  obtain ⟨row, found, live⟩ := ensureContactEndpointCapability_live ran
  rw [run_bind_ok (run_read _ _)]
  rcases later.listener with _ | _ <;>
    rcases later.localPeerEndpoint with _ | base
  · exact Frame.refl later
  · exact Frame.refl later
  · exact Frame.refl later
  · exact authorizeFromDatabase_keeps member found live

theorem admitContacts_keeps
    (member : ∀ contact, (draws contact).capabilityId ∈ drawn) :
    (admitContacts crypto identity stored draws).Keeps (Keeping drawn) := by
  refine .next fun contacts => .forEach fun contact _ => ?_
  cases stored contact with
  | none => exact inferInstance
  | some endpoint => exact admitContact_keeps (member contact)

theorem Keeping.of_shut
    (keeping : Keeping drawn before after) (shut : before.Shut)
    (unused : ∀ capabilityId ∈ drawn, before.Unused capabilityId) :
    after.Shut :=
  (keeping shut unused).1

/-! ## What closes a capability -/

theorem close_shut (shut : access.Shut) (contact : InstallationId)
    (meets : ∀ row,
      access.database.contactEndpointCapabilities.lookup contact = some row →
      row.revoked = true ∧ ¬access.Admits row.capabilityId) :
    (access.close contact).Shut := by
  have closes : ∀ pair ∈ access.held contact, ∃ row,
      access.database.contactEndpointCapabilities.lookup contact = some row ∧
        pair.2 = row.capabilityId := by
    intro pair member
    unfold held at member
    cases found : access.database.contactEndpointCapabilities.lookup contact with
    | none =>
      rw [found] at member
      cases member
    | some row =>
      rw [found] at member
      cases List.mem_singleton.mp member
      exact ⟨row, rfl, rfl⟩
  constructor
  · exact shut.unique
  · intro pair member other another stored same
    rcases List.mem_append.mp member with now | before
    · obtain ⟨row, found, named⟩ := closes pair now
      obtain rfl := shut.unique other contact another row stored found
        (same.trans named)
      exact (meets another stored).1
    · exact shut.dead pair before other another stored same
  · intro pair member
    rcases List.mem_append.mp member with now | before
    · obtain ⟨row, found, named⟩ := closes pair now
      rw [named]
      exact (meets row found).2
    · exact shut.barred pair before

theorem revoked_shut (shut : access.Shut) (contact : InstallationId) :
    Shut { access with
      database := { access.database with
        contactEndpointCapabilities :=
          access.database.contactEndpointCapabilities.modify contact fun row =>
            { row with revoked := true } } } := by
  have stems : ∀ other row,
      (access.database.contactEndpointCapabilities.modify contact fun row =>
        { row with revoked := true }).lookup other = some row →
      ∃ before,
        access.database.contactEndpointCapabilities.lookup other = some before ∧
        row.capabilityId = before.capabilityId ∧
        (before.revoked = true → row.revoked = true) := by
    intro other row found
    rw [Table.lookup_modify] at found
    split at found
    · obtain ⟨before, stored, rfl⟩ := Option.map_eq_some_iff.mp found
      exact ⟨before, stored, rfl, fun _ => rfl⟩
    · exact ⟨row, found, rfl, id⟩
  constructor
  · intro first second one two foundOne foundTwo same
    obtain ⟨before, stored, named, _⟩ := stems first one foundOne
    obtain ⟨another, storedToo, namedToo, _⟩ := stems second two foundTwo
    exact shut.unique first second before another stored storedToo
      (named.symm.trans (same.trans namedToo))
  · intro pair member other row found same
    obtain ⟨before, stored, named, kept⟩ := stems other row found
    exact kept (shut.dead pair member other before stored
      (named.symm.trans same))
  · exact shut.barred

theorem call_shut (shut : access.Shut) (call : Call)
    (meets : access.MeetsCall call) : (access.call call).Shut := by
  cases concerned : call.concernsIssued with
  | true =>
    cases call
    case putContactEndpointCapability contact capabilityId secret nowSecs =>
      unfold Access.call
      dsimp only
      split
      · rename_i done
        refine putContactEndpointCapability_shut shut ?_ done
        exact meets
      · exact shut
    case revokeContactEndpointCapability contact =>
      refine close_shut (revoked_shut shut contact) contact ?_
      intro row found
      rw [Table.lookup_modify, if_pos rfl] at found
      obtain ⟨before, stored, rfl⟩ := Option.map_eq_some_iff.mp found
      exact ⟨rfl, meets before stored⟩
    all_goals cases concerned
  | false =>
    have same := Call.perform_issued call access.database concerned
    have written : (access.write (call.perform access.database)).Shut :=
      shut.of_same same (fun _ _ => id) fun _ => id
    cases call
    case removeRelationshipWithId contact removedAt preserveHistory removalId
        epoch =>
      unfold Access.call
      dsimp only
      split
      · exact shut
      · refine close_shut written contact fun row found => ?_
        rw [write, same] at found
        exact meets row found
    case putContactEndpointCapability => cases concerned
    case revokeContactEndpointCapability => cases concerned
    all_goals exact written

theorem next_shut
    (shut : access.Shut) (event : AccessEvent) (meets : access.Meets event) :
    (access.next crypto identity event).Shut := by
  cases event with
  | called call => exact call_shut shut call meets
  | located endpoint => exact shut.of_same rfl (fun _ _ => id) fun _ => id
  | updated endpoint => exact serveUpdate_shut shut
  | applied endpoint draw =>
    have kept : (admitContact crypto identity endpoint.installationId endpoint
        draw).Keeps (Keeping {draw.capabilityId}) :=
      admitContact_keeps (Set.mem_singleton _)
    refine (kept.run access).of_shut shut ?_
    rintro _ rfl
    exact meets
  | refreshed stored draws =>
    have kept : (refreshPeerAuthorizations crypto identity stored draws).Keeps
        (Keeping (Set.range fun contact => (draws contact).capabilityId)) := by
      refine .next fun parts => ?_
      rcases parts with ⟨_ | _, _ | _⟩
      · exact inferInstance
      · exact inferInstance
      · exact inferInstance
      · exact admitContacts_keeps Set.mem_range_self
    refine (kept.run access).of_shut shut ?_
    rintro _ ⟨contact, rfl⟩
    exact meets contact
  | begun stored draws =>
    have kept : (admitContacts crypto identity stored draws).Keeps
        (Keeping (Set.range fun contact => (draws contact).capabilityId)) :=
      admitContacts_keeps Set.mem_range_self
    have bound : Shut { access with listener := some .empty } :=
      shut.of_same rfl nofun fun _ => id
    refine (kept.run _).of_shut bound ?_
    rintro _ ⟨contact, rfl⟩
    exact meets contact
  | ended => exact shut.of_same rfl nofun fun _ => id

end Access

/-- Where every revocation and removal finds the listener without the capability
(and every removal finds it revoked), no handshake gets in with a closed
capability in any run of the engine and its listener. -/
theorem closed_capabilities_are_refused
    (crypto : Crypto) (fromSlice : FromSlice) (identity : crypto.SigningKey)
    {access : Access}
    (reached : ((accessMachine crypto identity).restrict
      Access.Meets).Reachable access)
    {contact : InstallationId} {capabilityId : String}
    (closed : (contact, capabilityId) ∈ access.closed) :
    access.Refuses crypto fromSlice identity capabilityId := by
  have shut : access.Shut := by
    refine reached.invariant Access.Shut ⟨nofun, nofun, nofun⟩ ?_
    intro state event shut enabled
    exact Access.next_shut shut event enabled.2
  exact Access.refuses_of_not_admits (shut.barred _ closed)

def sampleDraw : Draw := ⟨"1234567890abcdef", sampleSecret, 0⟩

def aliceId : InstallationId :=
  installationIdFromPublicKey .plain SampleClient.alice.key

def knowingAlice : AccessEvent :=
  .called (.putContact
    ⟨aliceId, "alice", "", "", none, false, false, .verified, .peerOnly⟩)

def beginning : AccessEvent := .begun (fun _ => none) fun _ => sampleDraw

def neverAdmitted : List AccessEvent :=
  [knowingAlice,
    .called (.putContactEndpointCapability aliceId "1234567890abcdef"
      sampleSecret 0),
    .called (.revokeContactEndpointCapability aliceId)]

theorem neverAdmitted_is_refused :
    Access.Refuses sampleCrypto sampleFromSlice .bob
      ((accessMachine sampleCrypto .bob).run
        (accessMachine sampleCrypto .bob).init neverAdmitted)
      "1234567890abcdef" := by
  have admitted : ((accessMachine sampleCrypto .bob).restrict
      Access.Meets).Admits (accessMachine sampleCrypto .bob).init
        neverAdmitted := by
    refine ⟨⟨trivial, trivial⟩, ⟨trivial, nofun⟩, ⟨trivial, ?_⟩, trivial⟩
    rintro row _ ⟨_, _, found, _⟩
    cases found
  have reached := Machine.Reachable.init.run _ admitted
  exact closed_capabilities_are_refused sampleCrypto sampleFromSlice .bob
    reached (show (aliceId, _) ∈ _ from .head _)

def admitting : List AccessEvent :=
  [knowingAlice, .located (some (sampleBundle .bob 4 "b.onion")), beginning,
    .applied (sampleBundle .alice 3 "a.onion") sampleDraw]

def revokedAccess : Access :=
  (accessMachine sampleCrypto .bob).run (accessMachine sampleCrypto .bob).init
    (admitting ++ [.called (.revokeContactEndpointCapability aliceId)])

def removedAccess : Access :=
  (accessMachine sampleCrypto .bob).run (accessMachine sampleCrypto .bob).init
    (admitting ++
      [.called (.removeRelationshipWithId aliceId 0 true "removal" 0), .ended,
        beginning, .applied (sampleBundle .alice 3 "a.onion") sampleDraw])

theorem Access.not_refuses
    {access : Access} (nonce : Key32) (sessionId : Uuid) (received : Received)
    (passes : (checkHello crypto fromSlice identity access.authorized nonce
      sessionId received).toOption.map (·.hello.capabilityId) =
        some capabilityId) :
    ¬access.Refuses crypto fromSlice identity capabilityId := by
  intro refuses
  cases checked : checkHello crypto fromSlice identity access.authorized nonce
    sessionId received with
  | error detail =>
    rw [checked] at passes
    cases passes
  | ok challenged =>
    rw [checked] at passes
    exact refuses nonce sessionId received challenged checked
      (Option.some.inj passes)

/-- A revocation leaves the listener's entry; a removal leaves the capability,
with which the contact is admitted again. -/
theorem revoked_and_removed_contacts_get_in :
    (accessMachine sampleCrypto .bob).Reachable revokedAccess ∧
    (aliceId, "1234567890abcdef") ∈ revokedAccess.closed ∧
    ¬revokedAccess.Refuses sampleCrypto sampleFromSlice .bob
      "1234567890abcdef" ∧
    (accessMachine sampleCrypto .bob).Reachable removedAccess ∧
    (aliceId, "1234567890abcdef") ∈ removedAccess.closed ∧
    ¬removedAccess.Refuses sampleCrypto sampleFromSlice .bob
      "1234567890abcdef" := by
  refine ⟨?_, by decide +kernel, ?_, ?_, by decide +kernel, ?_⟩
  · exact Machine.Reachable.init.run _
      ⟨trivial, trivial, fun _ => rfl, trivial, trivial, trivial⟩
  · exact Access.not_refuses (Vector.replicate 32 6) 7 (sampleFrame 1)
      (by decide +kernel)
  · exact Machine.Reachable.init.run _
      ⟨trivial, trivial, fun _ => rfl, trivial, trivial, trivial, fun _ => rfl,
        trivial, trivial⟩
  · exact Access.not_refuses (Vector.replicate 32 6) 7 (sampleFrame 1)
      (by decide +kernel)

/-! ## What a capability proof binds

The parts of the message have no lengths of their own. They come from the table:
an installation id is the text of a digest, and an issued capability id has
sixteen bytes. -/

def EvenIds (crypto : Crypto) : Prop :=
  ∀ left right,
    (installationIdFromPublicKey crypto left).utf8ByteSize =
      (installationIdFromPublicKey crypto right).utf8ByteSize

structure BuiltFromValidated
    (crypto : Crypto) (authorized : String → Option AuthorizedPeer) : Prop where
  keyed : ∀ id peer, authorized id = some peer → peer.endpoint.installationId = id
  valid : ∀ id peer, authorized id = some peer →
    ∃ now, peer.endpoint.Valid crypto now
  issued : ∀ id peer, authorized id = some peer →
    peer.inboundCapabilityId.utf8ByteSize = 16

def Known (authorized : String → Option AuthorizedPeer)
    (hello : PeerClientHello) : Prop :=
  ∃ peer, authorized hello.installationId = some peer ∧
    hello.capabilityId = peer.inboundCapabilityId

def SameProven (left right : PeerClientHello) : Prop :=
  left.installationId = right.installationId ∧
  left.endpointSequence = right.endpointSequence ∧
  left.capabilityId = right.capabilityId ∧ left.nonce = right.nonce

section Binding

variable {crypto : Crypto} {authorized : String → Option AuthorizedPeer}
  (even : EvenIds crypto) (built : BuiltFromValidated crypto authorized)

theorem sameProven_of_capabilityMessage
    (ids : left.installationId.utf8ByteSize = right.installationId.utf8ByteSize)
    (capabilities : left.capabilityId.utf8ByteSize =
      right.capabilityId.utf8ByteSize)
    (same : capabilityMessage left = capabilityMessage right) :
    SameProven left right := by
  simp only [capabilityMessage, List.append_assoc, List.append_cancel_left_eq]
    at same
  obtain ⟨installation, same⟩ := List.append_inj same ids
  obtain ⟨sequence, same⟩ := pushU64_cancel same
  obtain ⟨capability, nonce⟩ := List.append_inj same capabilities
  exact ⟨utf8_injective installation, sequence, utf8_injective capability,
    Vector.toList_inj.mp nonce⟩

include even built

theorem Known.installationId_size
    (left : Known authorized hello) (right : Known authorized other) :
    hello.installationId.utf8ByteSize = other.installationId.utf8ByteSize := by
  obtain ⟨peer, found, -⟩ := left
  obtain ⟨another, met, -⟩ := right
  obtain ⟨_, valid⟩ := built.valid _ _ found
  obtain ⟨_, valid'⟩ := built.valid _ _ met
  obtain ⟨key, -, named⟩ := valid.identity
  obtain ⟨key', -, named'⟩ := valid'.identity
  rw [← built.keyed _ _ found, ← built.keyed _ _ met, named, named']
  exact even key key'

theorem Known.sameProven
    (left : Known authorized hello) (right : Known authorized other)
    (same : capabilityMessage hello = capabilityMessage other) :
    SameProven hello other := by
  refine sameProven_of_capabilityMessage
    (left.installationId_size even built right) ?_ same
  obtain ⟨peer, found, presented⟩ := left
  obtain ⟨another, met, presented'⟩ := right
  rw [presented, presented', built.issued _ _ found, built.issued _ _ met]

end Binding

/-- A proof that was made for one hello and is accepted with another was made
for what the other says. -/
theorem capability_proofs_bind_the_hello
    {crypto : Crypto} (correct : crypto.Correct) (even : EvenIds crypto)
    {authorized : String → Option AuthorizedPeer}
    (built : BuiltFromValidated crypto authorized) :
    (∀ left right, Known authorized left → Known authorized right →
      capabilityMessage left = capabilityMessage right →
      SameProven left right) ∧
    ∀ fromSlice identity serverNonce sessionId received challenged made,
      checkHello crypto fromSlice identity authorized serverNonce sessionId
        received = .ok challenged →
      Known authorized made →
      challenged.hello.capabilityProof =
        capabilityProof crypto challenged.authorized.capabilitySecret made →
      Set.InjOn (crypto.hmac challenged.authorized.capabilitySecret)
        {capabilityMessage made, capabilityMessage challenged.hello} →
      SameProven challenged.hello made := by
  refine ⟨fun left right known other same => known.sameProven even built other
    same, ?_⟩
  intro fromSlice identity serverNonce sessionId received challenged made passed
    known proof unforgeable
  obtain ⟨-, -, found, verified, -⟩ := checkHello_eq_ok passed
  obtain ⟨-, -, presented, -⟩ := checkHello_capability passed
  have tags : crypto.hmac challenged.authorized.capabilitySecret
        (capabilityMessage made) =
      crypto.hmac challenged.authorized.capabilitySecret
        (capabilityMessage challenged.hello) := by
    simpa [verifyCapabilityProof, proof, capabilityProof,
      correct.decode_encode] using verified
  have same := unforgeable (.inl rfl) (.inr rfl) tags
  have accepted : Known authorized challenged.hello := ⟨_, found, presented⟩
  exact accepted.sameProven even built known same.symm

def digestCrypto : Crypto :=
  { Crypto.plain with
    sha256 bytes := Vector.replicate 32 (if bytes.headD 0 = 0 then 65 else 66) }

theorem digestCrypto_correct : digestCrypto.Correct where
  decode_encode bytes := Crypto.plain_correct.decode_encode bytes
  encode_empty := rfl
  verify_sign := by simp [digestCrypto, Crypto.plain]

theorem digestCrypto_evenIds : EvenIds digestCrypto := by
  intro left right
  simp only [installationIdFromPublicKey, digestCrypto]
  split <;> split <;> rfl

def digestPeer : AuthorizedPeer :=
  { sampleAuthorized with
    endpoint := .new digestCrypto () sampleOnion 1 0 none }

def digestTable (id : String) : Option AuthorizedPeer :=
  if id = digestPeer.endpoint.installationId then some digestPeer else none

def digestHello : PeerClientHello :=
  { unprovedHello with
    installationId := digestPeer.endpoint.installationId }

def repeatedHello : PeerClientHello :=
  { digestHello with nonce := Vector.replicate 32 6 }

theorem digestTable_built : BuiltFromValidated digestCrypto digestTable := by
  have only : ∀ id peer, digestTable id = some peer →
      digestPeer.endpoint.installationId = id ∧ digestPeer = peer := by
    intro id peer found
    simpa [digestTable, eq_comm] using found
  refine ⟨?_, ?_, ?_⟩ <;> intro id peer found <;>
    obtain ⟨keyed, rfl⟩ := only id peer found
  · exact keyed
  · exact ⟨0, PeerEndpointBundle.validate_eq_ok_iff.mp (by decide +kernel)⟩
  · decide

theorem another_nonce_needs_another_proof :
    Known digestTable digestHello ∧ Known digestTable repeatedHello ∧
    capabilityMessage digestHello ≠ capabilityMessage repeatedHello := by
  have known : Known digestTable digestHello := ⟨digestPeer, if_pos rfl, rfl⟩
  have repeated : Known digestTable repeatedHello :=
    ⟨digestPeer, if_pos rfl, rfl⟩
  refine ⟨known, repeated, fun same => ?_⟩
  have bound := (capability_proofs_bind_the_hello digestCrypto_correct
    digestCrypto_evenIds digestTable_built).1 _ _ known repeated same
  exact absurd bound.2.2.2 (by decide)

end Torchat.Peer
