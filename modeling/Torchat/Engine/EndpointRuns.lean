import Torchat.Engine.Reach
import Torchat.Engine.Starts

namespace Torchat

open Foundation Storage Actor Database

def Storage.Database.Homed (before after : Database) : Prop :=
  after.localPeerEndpoint = before.localPeerEndpoint

instance Storage.Database.Homed.booked : Booked Database.Homed where
  toFrame := Program.Frame.of_eq Database.localPeerEndpoint
  booked _ _ _ _ := rfl

instance Storage.Database.Homed.ofReach : OfReach Database.Homed where
  reached {before after} reach := by
    have same : after.beside.2.2.2.1 = before.beside.2.2.2.1 := by
      rw [reach.beside]
    exact same

namespace Actor

structure Homed (before after : Actor P) : Prop where
  memory : after.localPeerEndpoint = before.localPeerEndpoint
  stored : Database.Homed before.database after.database

theorem Homed.of_eq
    (memory : after.localPeerEndpoint = before.localPeerEndpoint)
    (database : after.database = before.database) : Homed before after :=
  ⟨memory, congrArg Database.localPeerEndpoint database⟩

instance Homed.framed :
    Framed (Homed : Actor P → Actor P → Prop) Database.Homed where
  refl _ := .of_eq rfl rfl
  trans first second :=
    ⟨second.memory.trans first.memory, second.stored.trans first.stored⟩
  data _ _ kept := ⟨rfl, kept⟩
  called _ _ _ _ := .of_eq rfl rfl

instance Homed.outward :
    Outward (Homed : Actor P → Actor P → Prop) Database.Homed where
  noted _ _ _ := .of_eq rfl rfl
  handed _ _ := .of_eq rfl rfl

instance Homed.booting :
    Booting (Homed : Actor P → Actor P → Prop) Database.Homed where
  conversing _ _ := .of_eq rfl rfl
  welcomed _ _ := .of_eq rfl rfl
  blocked _ _ := .of_eq rfl rfl
  listening _ := .of_eq rfl rfl

section

variable {relation : Actor P → Actor P → Prop} [Offhand relation stored]
  [Outward relation stored] [Framed relation stored] [OfReach stored]

instance :
    (handleApplicationEnvelope (P := P) sender messageId ciphertext).Keeps
      relation := by
  unfold handleApplicationEnvelope openEnvelope
  refine .next fun existing => ?_
  cases existing with
  | some existing => infer_instance
  | none =>
    refine .next fun found => ?_
    cases found with
    | none => infer_instance
    | some conversation =>
      have accepted (arrival : Arrival) (application : ApplicationPayload) :
          (acceptPayload (P := P) arrival application).Keeps relation :=
        acceptPayload_keeps fun _ performs => by
          cases performs <;> infer_instance
      refine .next fun _ => .next fun _ => ?_
      refine .next fun result => ?_
      cases result with
      | ok | error => infer_instance

end

end Actor

namespace Storage.Database

instance Homed.restarting : Restarting Homed where
  requeued _ := .total fun _ => rfl
  requeuedDeliveries _ := .total fun _ => rfl
  seeded _ _ := rfl
  welcomesExpired _ := .total fun _ => rfl
  invitesExpired _ := .total fun _ => rfl

instance : (execute (markInbound state sender messageId)).Keeps Homed :=
  .total fun _ => rfl

instance : (execute (enqueueEndpointUpdateForContacts update)).Keeps Homed :=
  .total fun _ => rfl

end Storage.Database

namespace Actor

theorem Homed.modify {f : Actor P → Actor P}
    (memory : ∀ actor, (f actor).localPeerEndpoint = actor.localPeerEndpoint)
    (database : ∀ actor, (f actor).database = actor.database) :
    (Program.modify f : Call P Unit).Keeps Homed :=
  .modify fun actor => .of_eq (memory actor) (database actor)

instance : (beginRun (P := P)).Keeps Homed := by
  refine beginRun_keeps (fun _ => inferInstance) ?_
  refine .next fun _ => .forEach fun entry _ => ?_
  exact recoverInbound_keeps fun _ _ => inferInstance

/-! ## Facts of the platform -/

instance : (requeueAfterDisconnect (P := P)).Keeps Homed := by
  unfold requeueAfterDisconnect
  infer_instance

instance : (reportTorStatus (P := P)).Keeps Homed := by
  unfold reportTorStatus Runtime.reportTorStatus
  infer_instance

instance : (probeContacts (P := P)).Keeps Homed := by
  unfold probeContacts
  infer_instance

instance : (refreshPeerAuthorizations (P := P)).Keeps Homed := by
  have authorized (contact : InstallationId) :
      (authorizeContact (P := P) contact).Keeps Homed := by
    refine .next fun running => .next fun own => ?_
    cases running with
    | false | true => cases own <;> infer_instance
  refine .next fun running => .next fun own => ?_
  split
  · refine .next fun _ => .forEach fun contact _ => ?_
    refine .next fun endpoint => ?_
    cases endpoint with
    | none | some => infer_instance
  · infer_instance

instance : (sendCapabilityOffersForContacts (P := P)).Keeps Homed := by
  have ready (contact : InstallationId) :
      (remoteCapabilityReady (P := P) contact).Keeps Homed := by
    refine .next fun endpoint => ?_
    cases endpoint with
    | none | some => infer_instance
  refine .next fun usable => ?_
  split
  · refine .next fun _ => .forEach fun contact _ => ?_
    infer_instance
  · infer_instance

def storedEndpoint (actor : Actor P) : Option PeerEndpointBundle :=
  actor.database.localPeerEndpoint.map Prod.fst

def Renews (endpoint : PeerEndpointBundle) (before after : Actor P) : Prop :=
  after.localPeerEndpoint = before.localPeerEndpoint ∧
      after.storedEndpoint = before.storedEndpoint ∨
    after.localPeerEndpoint = before.localPeerEndpoint ∧
      after.storedEndpoint = some endpoint ∨
    after.localPeerEndpoint = some endpoint ∧
      after.storedEndpoint = some endpoint

variable {program : Call P α}

theorem Homed.of_run [kept : program.Keeps Homed]
    (ran : program actor = (outcome, after)) : Homed actor after := by
  have homed := kept.run actor
  rwa [ran] at homed

theorem Homed.storedEndpoint (homed : Homed before after) :
    after.storedEndpoint = before.storedEndpoint :=
  congrArg (Option.map Prod.fst) homed.stored

theorem Homed.renews (renews : Renews endpoint before middle)
    (homed : Homed middle after) : Renews endpoint before after := by
  unfold Renews
  rw [homed.memory, homed.storedEndpoint]
  exact renews

theorem Renews.refl (endpoint : PeerEndpointBundle) (actor : Actor P) :
    Renews endpoint actor actor :=
  .inl ⟨rfl, rfl⟩

theorem Renews.followed {β : Type} {rest : α → Call P β}
    [kept : program.Keeps Homed] (renews : Renews endpoint start actor)
    (continued : ∀ value next, program actor = (.ok value, next) →
      Homed actor next → Renews endpoint start (rest value next).2) :
    Renews endpoint start ((program >>= rest) actor).2 := by
  refine bind_end (Renews endpoint start)
    ((kept.run actor).renews renews) fun value next ran => ?_
  exact continued value next ran (.of_run ran)

def reportedEndpoint (actor : Actor P) (onionAddress : String) :
    PeerEndpointBundle :=
  newEndpoint P onionAddress
    (endpointSequence actor.localPeerEndpoint onionAddress)

instance : (queueEndpointUpdate (P := P) previous endpoint).Keeps Homed := by
  unfold queueEndpointUpdate
  cases previous with
  | none | some => infer_instance

theorem putLocalPeerEndpoint_renews (homed : Homed start actor)
    (endpoint : PeerEndpointBundle) (generation : Nat) :
    Renews endpoint start
      (write (putLocalPeerEndpoint endpoint generation) actor).2 := by
  refine .followed (homed.renews (.refl _ _)) fun _ next _ asked => ?_
  exact .inr (.inl ⟨(Frame.trans homed asked).memory, rfl⟩)

theorem announceOnionService_renews
    (actor : Actor P) (onionAddress : String) (virtualPort generation : Nat) :
    Renews (actor.reportedEndpoint onionAddress) actor
      (announceOnionService onionAddress virtualPort generation actor).2 := by
  simp only [announceOnionService, fail_bind]
  rw [run_bind_ok (run_read _ _)]
  split
  · exact .refl _ _
  split
  · exact .refl _ _
  rw [run_bind_ok (run_read _ _)]
  refine .followed (.refl _ _) fun now first _ told => ?_
  refine .followed (told.renews (.refl _ _)) fun _ second _ checked => ?_
  have untouched : Homed actor second := Frame.trans told checked
  have put := putLocalPeerEndpoint_renews untouched
    (actor.reportedEndpoint onionAddress) generation
  refine bind_end (Renews _ actor) put fun _ written ran => ?_
  rw [show write (putLocalPeerEndpoint (actor.reportedEndpoint
    onionAddress) generation) second = (.ok (), written) from ran] at put
  obtain ⟨_, done, rfl⟩ := write_ok ran
  cases done
  refine .followed put fun _ queued _ kept => ?_
  exact .inr (.inr ⟨rfl, kept.storedEndpoint⟩)

theorem announceOnionService_ok
    (ran : announceOnionService onionAddress virtualPort generation actor =
      (.ok endpoint, after)) :
    endpoint = actor.reportedEndpoint onionAddress ∧
      after.localPeerEndpoint = some endpoint ∧
      after.storedEndpoint = some endpoint := by
  simp only [announceOnionService, fail_bind] at ran
  rw [run_bind_ok (run_read _ _)] at ran
  split at ran
  · cases ran
  split at ran
  · cases ran
  rw [run_bind_ok (run_read _ _)] at ran
  obtain ⟨_, _, _, ran⟩ := bind_ok ran
  obtain ⟨_, _, _, ran⟩ := bind_ok ran
  obtain ⟨_, written, put, queuing⟩ := bind_ok ran
  obtain ⟨_, done, rfl⟩ := write_ok put
  cases done
  obtain ⟨_, queued, told, rest⟩ := bind_ok queuing
  have kept := Homed.of_run told
  cases rest
  exact ⟨rfl, rfl, kept.storedEndpoint⟩

instance afterAnnouncement_homed :
    (do refreshPeerAuthorizations
        ignoring probeContacts
        ignoring sendCapabilityOffersForContacts : Call P Unit).Keeps Homed :=
  .next fun _ => .next fun _ => inferInstance

theorem onionServiceAvailable_renews
    (actor : Actor P) (onionAddress : String) (virtualPort generation : Nat) :
    Renews (actor.reportedEndpoint onionAddress) actor
      (onionServiceAvailable onionAddress virtualPort generation actor).2 := by
  have announced :=
    announceOnionService_renews actor onionAddress virtualPort generation
  refine bind_end (Renews _ actor) announced fun _ next ran => ?_
  rw [ran] at announced
  exact (afterAnnouncement_homed.run next).renews announced

theorem onionServiceAvailable_announced
    (ran : announceOnionService onionAddress virtualPort generation actor =
      (.ok endpoint, next)) :
    (onionServiceAvailable onionAddress virtualPort generation
        actor).2.localPeerEndpoint = some endpoint ∧
      (onionServiceAvailable onionAddress virtualPort generation
        actor).2.storedEndpoint = some endpoint := by
  obtain ⟨_, memory, copy⟩ := announceOnionService_ok ran
  have kept := afterAnnouncement_homed.run next
  unfold onionServiceAvailable
  rw [run_bind_ok ran]
  exact ⟨kept.memory.trans memory, kept.storedEndpoint.trans copy⟩

def Loses (before after : Actor P) : Prop :=
  after.localPeerEndpoint = none ∧
    (after.storedEndpoint = before.storedEndpoint ∨ after.storedEndpoint = none)

theorem Homed.loses (loses : Loses before middle) (homed : Homed middle after) :
    Loses before after := by
  unfold Loses
  rw [homed.memory, homed.storedEndpoint]
  exact loses

theorem onionServiceLost_loses (actor : Actor P) :
    Loses actor (applyPlatformFact .onionServiceLost actor).2 := by
  have requeued : (do
      let now ← nowMs
      write (requeuePeerDeliveries now) :
      Call P Unit).Keeps Homed := inferInstance
  have deleted (start : Actor P) (lost : start.localPeerEndpoint = none) :
      Loses start (write deleteLocalPeerEndpoint start).2 := by
    have asked := (inferInstance : (onHost (P := P) (Host.consult .statement
      (.storage "statement failed"))).Keeps Homed).run start
    refine bind_end (Loses start)
      (asked.loses ⟨lost, .inl rfl⟩) fun _ next ran => ?_
    rw [ran] at asked
    exact ⟨asked.memory.trans lost, .inr rfl⟩
  simp only [applyPlatformFact]
  rw [run_bind_ok (run_modify _ _)]
  have loses := deleted { actor with localPeerEndpoint := none } rfl
  refine bind_end (Loses actor) loses fun _ next ran => ?_
  rw [ran] at loses
  exact (requeued.run next).loses loses

theorem applyPlatformFact_homed
    (reports : ∀ onionAddress virtualPort generation,
      fact ≠ .onionServiceAvailable onionAddress virtualPort generation)
    (loses : fact ≠ .onionServiceLost) :
    (applyPlatformFact (P := P) fact).Keeps Homed := by
  have socks (socks5Url : Option String) :
      (setSocks5Url (P := P) socks5Url).Keeps Homed :=
    Homed.modify (fun _ => rfl) fun _ => rfl
  have status (status : RuntimeTorStatus) :
      (setTorStatus (P := P) status).Keeps Homed :=
    Homed.modify (fun _ => rfl) fun _ => rfl
  cases fact with
  | torStatus phase progress detail =>
    simp only [applyPlatformFact]
    infer_instance
  | torEndpointAvailable socks5Url =>
    simp only [applyPlatformFact]
    refine .next fun known => ?_
    split
    · infer_instance
    · infer_instance
  | torEndpointLost reason =>
    simp only [applyPlatformFact]
    infer_instance
  | onionServiceAvailable onionAddress virtualPort generation =>
    exact absurd rfl (reports onionAddress virtualPort generation)
  | onionServiceLost => exact absurd rfl loses
  | appVisibilityChanged foreground =>
    simp only [applyPlatformFact]
    infer_instance
  | networkChanged online =>
    simp only [applyPlatformFact]
    refine .bind (Homed.modify (fun _ => rfl) fun _ => rfl) fun _ => ?_
    infer_instance

end Actor

theorem Actor.newEndpoint_onionAddress_of_same
    (same : sameAddress (newEndpoint P known earlier).onionAddress reported =
      true) :
    (newEndpoint P reported later).onionAddress =
      (newEndpoint P known earlier).onionAddress := by
  have equal := of_decide_eq_true same
  simp only [newEndpoint, map_toLower_map_toLower] at equal ⊢
  rw [← trim_map_toLower, ← equal, trim_map_toLower, trim_trim]

namespace Publishing

/-- The engine, and the bundles of the device that were published so far, the
latest first. -/
structure State (P : Primitives) where
  system : System P
  published : List PeerEndpointBundle

/-- What happens: a start, a fact of the platform, the end of a run, or a bundle
with its own capability being handed to a contact. -/
inductive Event
  | start (config : StartConfig)
  | fact (fact : PlatformFact)
  | handOut (capabilityId : String)
  | stop

structure Label where
  world : World
  event : Event

def announced (fact : PlatformFact) (actor : Actor P) :
    List PeerEndpointBundle :=
  match fact with
  | .onionServiceAvailable onionAddress virtualPort generation =>
    match (Actor.announceOnionService onionAddress virtualPort generation
        actor).1 with
    | .ok endpoint => [endpoint]
    | _ => []
  | _ => []

def handedOut (capabilityId : String) (actor : Actor P) :
    List PeerEndpointBundle :=
  (actor.localPeerEndpoint.map (endpointWithCapability · capabilityId)).toList

def next (state : State P) (label : Label) : State P :=
  match state.system, label.event with
  | .stopped database host, .start config =>
    { state with system := .start config label.world database host }
  | .running actor, .fact fact =>
    { system := .receive (.platform fact) label.world actor
      published := announced fact { actor with
        host := System.withWorld label.world actor.host } ++ state.published }
  | .running actor, .handOut capabilityId =>
    { state with published := handedOut capabilityId actor ++ state.published }
  | .running actor, .stop => { state with system := .halted actor }
  | _, _ => state

def machine (P : Primitives) : Machine (State P) Label where
  init := ⟨.initial P, []⟩
  enabled _ _ := True
  next := next

def Ordered (published : List PeerEndpointBundle) : Prop :=
  published.Pairwise fun later earlier =>
    earlier.sequence ≤ later.sequence ∧
      (later.onionAddress ≠ earlier.onionAddress →
        later.sequence ≠ earlier.sequence)

def Follows (later earlier : PeerEndpointBundle) : Prop :=
  earlier.sequence < later.sequence ∨
    earlier.sequence = later.sequence ∧
      earlier.onionAddress = later.onionAddress

instance : Decidable (Follows later earlier) :=
  inferInstanceAs (Decidable (_ ∨ _))

/-- The address in force is reported again before a bundle ahead of it went out,
and a new one while its sequence is still free. -/
def Reportable (held : Option PeerEndpointBundle)
    (published : List PeerEndpointBundle) (onionAddress : String) : Prop :=
  match held with
  | none => published = []
  | some previous =>
    if Actor.sameAddress previous.onionAddress onionAddress then
      ∀ bundle ∈ published, Follows previous bundle
    else
      previous.sequence + 2 < 2 ^ 64 ∧
        ∀ bundle ∈ published, bundle.sequence ≤ previous.sequence

instance Reportable.decidable :
    Decidable (Reportable held published onionAddress) := by
  unfold Reportable
  split
  · infer_instance
  · infer_instance

def Orderly (state : State P) (label : Label) : Prop :=
  match state.system, label.event with
  | .running actor, .fact (.onionServiceAvailable onionAddress _ _) =>
    Reportable actor.localPeerEndpoint state.published onionAddress
  | _, _ => True

instance Orderly.decidable : Decidable (Orderly state label) := by
  unfold Orderly
  split
  · infer_instance
  · infer_instance

instance : Decidable (((machine P).restrict Orderly).enabled state label) :=
  inferInstanceAs (Decidable (True ∧ Orderly state label))

structure Ahead (P : Primitives) (published : List PeerEndpointBundle)
    (endpoint : PeerEndpointBundle) : Prop where
  made : ∃ onionAddress, endpoint =
    Actor.newEndpoint P onionAddress endpoint.sequence
  room : endpoint.sequence + 1 < 2 ^ 64
  bounded : ∀ bundle ∈ published, bundle.sequence ≤ endpoint.sequence + 1
  owned : ∀ bundle ∈ published, bundle.sequence = endpoint.sequence + 1 →
    bundle.onionAddress = endpoint.onionAddress

structure Sound (P : Primitives) (held stored : Option PeerEndpointBundle)
    (published : List PeerEndpointBundle) : Prop where
  ordered : Ordered published
  inForce : ∀ endpoint ∈ held, Ahead P published endpoint
  kept : ∀ endpoint ∈ stored, Ahead P published endpoint
  follows : ∀ memory ∈ held, ∀ copy ∈ stored, Follows copy memory

theorem Follows.refl (endpoint : PeerEndpointBundle) :
    Follows endpoint endpoint :=
  .inr ⟨rfl, rfl⟩

theorem Sound.halts (sound : Sound P held stored published) :
    Sound P none stored published :=
  ⟨sound.ordered, nofun, sound.kept, nofun⟩

theorem Sound.forgets (sound : Sound P held stored published) :
    Sound P none none published :=
  ⟨sound.ordered, nofun, nofun, nofun⟩

theorem Sound.starts (sound : Sound P held stored published) :
    Sound P stored stored published := by
  refine ⟨sound.ordered, sound.kept, sound.kept, fun memory inForce copy kept => ?_⟩
  cases Option.mem_unique inForce kept
  exact .refl memory

/-! A bundle for a contact is one ahead of the bundle in force. -/

theorem Ahead.handed
    (ahead : Ahead P published endpoint) (capabilityId : String) :
    (endpointWithCapability endpoint capabilityId).sequence =
        endpoint.sequence + 1 ∧
      (endpointWithCapability endpoint capabilityId).onionAddress =
        endpoint.onionAddress := by
  obtain ⟨onionAddress, made⟩ := ahead.made
  have fresh : capabilityMarker capabilityId ∉ endpoint.capabilities := by
    rw [made]
    exact capabilityMarker_notMem capabilityId
  have room := ahead.room
  rw [endpointWithCapability, if_neg fresh]
  exact ⟨by simp only; omega, rfl⟩

theorem Ahead.publish (ahead : Ahead P published endpoint)
    (below : bundle.sequence ≤ endpoint.sequence + 1)
    (own : bundle.sequence = endpoint.sequence + 1 →
      bundle.onionAddress = endpoint.onionAddress) :
    Ahead P (bundle :: published) endpoint where
  made := ahead.made
  room := ahead.room
  bounded := List.forall_mem_cons.mpr ⟨below, ahead.bounded⟩
  owned := List.forall_mem_cons.mpr ⟨own, ahead.owned⟩

theorem Sound.handsOut
    (sound : Sound P (some endpoint) stored published) (capabilityId : String) :
    Sound P (some endpoint) stored
      (endpointWithCapability endpoint capabilityId :: published) := by
  have ahead := sound.inForce endpoint rfl
  obtain ⟨sequence, address⟩ := ahead.handed capabilityId
  refine ⟨List.pairwise_cons.mpr ⟨fun earlier member => ?_, sound.ordered⟩,
    ?_, fun copy kept => ?_, sound.follows⟩
  · rw [sequence, address]
    refine ⟨ahead.bounded earlier member, fun differ same => ?_⟩
    exact differ (ahead.owned earlier member same.symm).symm
  · rintro _ ⟨⟩
    exact ahead.publish sequence.le fun _ => address
  · refine (sound.kept copy kept).publish ?_ fun same => ?_
    · rw [sequence]
      rcases sound.follows endpoint rfl copy kept with less | ⟨equal, _⟩
      · omega
      · omega
    · rw [sequence] at same
      rcases sound.follows endpoint rfl copy kept with less | ⟨_, equal⟩
      · omega
      · exact address.trans equal

structure Renewal (P : Primitives) (held : Option PeerEndpointBundle)
    (published : List PeerEndpointBundle) (endpoint : PeerEndpointBundle) :
    Prop where
  ahead : Ahead P published endpoint
  follows : ∀ memory ∈ held, Follows endpoint memory

theorem Sound.renews (sound : Sound P held stored published)
    (renewal : Renewal P held published endpoint)
    (memory : actor.localPeerEndpoint = held)
    (copy : actor.storedEndpoint = stored)
    (renews : Renews endpoint actor after) :
    Sound P after.localPeerEndpoint after.storedEndpoint published := by
  subst memory copy
  rcases renews with ⟨memory, copy⟩ | ⟨memory, copy⟩ | ⟨memory, copy⟩
  · rw [memory, copy]
    exact sound
  · rw [memory, copy]
    refine ⟨sound.ordered, sound.inForce, ?_, ?_⟩
    · rintro _ ⟨⟩
      exact renewal.ahead
    · rintro memory inForce _ ⟨⟩
      exact renewal.follows memory inForce
  · rw [memory, copy]
    refine ⟨sound.ordered, ?_, ?_, ?_⟩
    · rintro _ ⟨⟩
      exact renewal.ahead
    · rintro _ ⟨⟩
      exact renewal.ahead
    · rintro _ ⟨⟩ _ ⟨⟩
      exact .refl endpoint

theorem Sound.announces
    (sound : Sound P (some endpoint) (some endpoint) published)
    (follows : ∀ bundle ∈ published, Follows endpoint bundle) :
    Sound P (some endpoint) (some endpoint) (endpoint :: published) := by
  have ahead := (sound.inForce endpoint rfl).publish
    (Nat.le_succ endpoint.sequence) fun _ => rfl
  refine ⟨List.pairwise_cons.mpr ⟨fun earlier member => ?_, sound.ordered⟩,
    ?_, ?_, sound.follows⟩
  · rcases follows earlier member with less | ⟨equal, address⟩
    · exact ⟨less.le, fun _ => less.ne'⟩
    · exact ⟨equal.le, fun differ => absurd address.symm differ⟩
  · rintro _ ⟨⟩
    exact ahead
  · rintro _ ⟨⟩
    exact ahead

/-! ### One step -/

section

variable {actor : Actor P}

theorem Ahead.of_beyond
    (onionAddress : String) {sequence : Nat} (room : sequence + 1 < 2 ^ 64)
    (beyond : ∀ bundle ∈ published, bundle.sequence < sequence) :
    Ahead P published (newEndpoint P onionAddress sequence) where
  made := ⟨onionAddress, rfl⟩
  room := room
  bounded bundle member := (beyond bundle member).le.trans (Nat.le_succ _)
  owned bundle member same := by
    have less := beyond bundle member
    have equal : bundle.sequence = sequence + 1 := same
    omega

theorem reportedEndpoint_renewal {stored : Option PeerEndpointBundle}
    (sound : Sound P actor.localPeerEndpoint stored published)
    (reportable : Reportable actor.localPeerEndpoint published onionAddress) :
    Renewal P actor.localPeerEndpoint published
        (actor.reportedEndpoint onionAddress) ∧
      ∀ bundle ∈ published,
        Follows (actor.reportedEndpoint onionAddress) bundle := by
  unfold reportedEndpoint endpointSequence
  cases held : actor.localPeerEndpoint with
  | none =>
    rw [held] at reportable
    have empty : published = [] := reportable
    subst empty
    rw [Option.elim_none]
    exact ⟨⟨.of_beyond onionAddress (by omega) nofun, nofun⟩, nofun⟩
  | some previous =>
    rw [held] at reportable sound
    have ahead := sound.inForce previous rfl
    obtain ⟨known, made⟩ := ahead.made
    cases same : sameAddress previous.onionAddress onionAddress with
    | true =>
      have address : (newEndpoint P onionAddress
          previous.sequence).onionAddress = previous.onionAddress := by
        rw [made] at same ⊢
        exact newEndpoint_onionAddress_of_same same
      have before : ∀ bundle ∈ published, Follows previous bundle := by
        rwa [Reportable, if_pos same] at reportable
      simp only [Option.elim_some, same, if_true]
      refine ⟨⟨⟨⟨onionAddress, rfl⟩, ahead.room, ahead.bounded, ?_⟩, ?_⟩, ?_⟩
      · intro bundle member equal
        exact (ahead.owned bundle member equal).trans address.symm
      · rintro _ ⟨⟩
        exact .inr ⟨rfl, address.symm⟩
      · intro bundle member
        unfold Follows
        rw [address]
        exact before bundle member
    | false =>
      rw [Reportable, if_neg (ne_true_of_eq_false same)] at reportable
      obtain ⟨room, below⟩ := reportable
      have sequence : min (previous.sequence + 1) (2 ^ 64 - 1) =
          previous.sequence + 1 := by omega
      have beyond : ∀ bundle ∈ published,
          bundle.sequence < previous.sequence + 1 :=
        fun bundle member => Nat.lt_succ_of_le (below bundle member)
      simp only [Option.elim_some, same, if_false, sequence,
        Bool.false_eq_true]
      refine ⟨⟨.of_beyond onionAddress (by omega) beyond, ?_⟩,
        fun bundle member => .inl (beyond bundle member)⟩
      rintro _ ⟨⟩
      exact .inl (Nat.lt_succ_self _)

theorem Sound.report
    (sound : Sound P actor.localPeerEndpoint actor.storedEndpoint published)
    (reportable : Reportable actor.localPeerEndpoint published onionAddress)
    (virtualPort generation : Nat) :
    Sound P (onionServiceAvailable onionAddress virtualPort generation
        actor).2.localPeerEndpoint
      (onionServiceAvailable onionAddress virtualPort generation
        actor).2.storedEndpoint
      (announced (.onionServiceAvailable onionAddress virtualPort generation)
        actor ++ published) := by
  obtain ⟨renewal, follows⟩ := reportedEndpoint_renewal sound reportable
  have renewed := sound.renews renewal rfl rfl
    (onionServiceAvailable_renews actor onionAddress virtualPort generation)
  rcases ran : announceOnionService onionAddress virtualPort generation
    actor with ⟨outcome, next⟩
  simp only [announced, ran]
  cases outcome with
  | ok endpoint =>
    obtain ⟨made, _⟩ := announceOnionService_ok ran
    obtain ⟨memory, copy⟩ := onionServiceAvailable_announced ran
    rw [memory, copy] at renewed ⊢
    rw [made] at renewed ⊢
    exact renewed.announces follows
  | err | crash => exact renewed

theorem Sound.fact
    (sound : Sound P actor.localPeerEndpoint actor.storedEndpoint published)
    {fact : PlatformFact}
    (reportable : ∀ onionAddress virtualPort generation,
      fact = .onionServiceAvailable onionAddress virtualPort generation →
        Reportable actor.localPeerEndpoint published onionAddress) :
    Sound P (applyPlatformFact fact actor).2.localPeerEndpoint
      (applyPlatformFact fact actor).2.storedEndpoint
      (announced fact actor ++ published) := by
  have untouched (homed : (applyPlatformFact (P := P) fact).Keeps Homed) :
      Sound P (applyPlatformFact fact actor).2.localPeerEndpoint
        (applyPlatformFact fact actor).2.storedEndpoint published := by
    rw [(homed.run actor).memory, (homed.run actor).storedEndpoint]
    exact sound
  cases fact with
  | onionServiceAvailable onionAddress virtualPort generation =>
    exact sound.report (reportable _ _ _ rfl) virtualPort generation
  | onionServiceLost =>
    obtain ⟨memory, copy⟩ := onionServiceLost_loses actor
    rw [memory]
    rcases copy with copy | copy
    · rw [copy]
      exact sound.halts
    · rw [copy]
      exact sound.forgets
  | torStatus | torEndpointAvailable | torEndpointLost | appVisibilityChanged
  | networkChanged =>
    exact untouched (applyPlatformFact_homed nofun nofun)

end

def endpointInForce : System P → Option PeerEndpointBundle
  | .stopped _ _ => none
  | .running actor => actor.localPeerEndpoint

def endpointKept (system : System P) : Option PeerEndpointBundle :=
  system.database.localPeerEndpoint.map Prod.fst

def State.Sound (state : State P) : Prop :=
  Publishing.Sound P (endpointInForce state.system) (endpointKept state.system)
    state.published

variable {published : List PeerEndpointBundle}

theorem State.Sound.start {database : Database} {host : Host}
    (sound : State.Sound (P := P) ⟨.stopped database host, published⟩)
    (config : StartConfig) (world : World) :
    State.Sound (P := P) ⟨.start config world database host, published⟩ := by
  have begun : (do load; beginRun :
      Call P Unit).Keeps Homed :=
    .next fun _ => inferInstance
  unfold System.start
  rcases ran : (do load; beginRun : Call P Unit)
    (System.booting config world database host) with ⟨outcome, actor⟩
  have homed := Homed.of_run ran
  have copy : actor.storedEndpoint = database.localPeerEndpoint.map Prod.fst :=
    homed.storedEndpoint
  have memory : actor.localPeerEndpoint =
      database.localPeerEndpoint.map Prod.fst := homed.memory
  have halted : State.Sound (P := P) ⟨.halted actor, published⟩ := by
    change Publishing.Sound P none actor.storedEndpoint published
    rw [copy]
    exact sound
  cases outcome with
  | ok =>
    change Publishing.Sound P actor.localPeerEndpoint actor.storedEndpoint
      published
    rw [memory, copy]
    exact Publishing.Sound.starts sound
  | err | crash => exact halted

theorem receive_platform
    (fact : PlatformFact) (world : World) (actor : Actor P) :
    System.receive (.platform fact) world actor =
        .running (applyPlatformFact fact
          { actor with host := System.withWorld world actor.host }).2 ∨
      System.receive (.platform fact) world actor =
        .halted (applyPlatformFact fact
          { actor with host := System.withWorld world actor.host }).2 := by
  have handled : process (P := P) (.platform fact) =
      applyPlatformFact fact := rfl
  unfold System.receive
  rw [handled]
  rcases applyPlatformFact fact
    { actor with host := System.withWorld world actor.host } with
    ⟨_ | _ | _, final⟩
  · exact .inl rfl
  · exact .inl rfl
  · exact .inr rfl

theorem State.Sound.receive {actor : Actor P}
    (sound : State.Sound ⟨.running actor, published⟩)
    (reportable : ∀ onionAddress virtualPort generation,
      fact = .onionServiceAvailable onionAddress virtualPort generation →
        Reportable actor.localPeerEndpoint published onionAddress)
    (world : World) :
    State.Sound ⟨.receive (.platform fact) world actor, announced fact
      { actor with host := System.withWorld world actor.host } ++
        published⟩ := by
  let seen : Actor P :=
    { actor with host := System.withWorld world actor.host }
  have started : Publishing.Sound P seen.localPeerEndpoint seen.storedEndpoint
      published := sound
  have ended := started.fact reportable
  rcases receive_platform fact world actor with running | halted
  · rw [running]
    exact ended
  · rw [halted]
    exact ended.halts

theorem State.Sound.step {state : State P} (sound : state.Sound)
    (orderly : Orderly state label) : (next state label).Sound := by
  obtain ⟨system, published⟩ := state
  obtain ⟨world, event⟩ := label
  cases system with
  | stopped database host =>
    cases event with
    | start config => exact sound.start config world
    | fact | handOut | stop => exact sound
  | running actor =>
    cases event with
    | start config => exact sound
    | fact fact =>
      refine sound.receive ?_ world
      rintro onionAddress virtualPort generation rfl
      exact orderly
    | handOut capabilityId =>
      change Publishing.Sound P actor.localPeerEndpoint _ published at sound
      change Publishing.Sound P actor.localPeerEndpoint _
        ((actor.localPeerEndpoint.map _).toList ++ published)
      cases held : actor.localPeerEndpoint with
      | none =>
        rw [held] at sound
        exact sound
      | some endpoint =>
        rw [held] at sound
        exact sound.handsOut capabilityId
    | stop => exact Publishing.Sound.halts sound

/-- As long as every report is an orderly one, the sequence of the bundles never
falls, and goes up with every change of the address. -/
theorem endpoint_sequences_only_go_up
    {state : State P} (reached : ((machine P).restrict Orderly).Reachable state) :
    Ordered state.published := by
  have sound : state.Sound :=
    reached.invariant State.Sound ⟨.nil, nofun, nofun, nofun⟩
      fun state label held enabled => held.step enabled.2
  exact sound.ordered

def calmly (event : Event) : Label := ⟨.calm 7000, event⟩

def available (onionAddress : String) (generation : Nat) : Event :=
  .fact (.onionServiceAvailable onionAddress Actor.peerVirtualPort generation)

def moved : List Label :=
  [.start ⟨none, false⟩, available "first.onion" 1, available "second.onion" 1,
    .stop, .start ⟨none, false⟩, available "second.onion" 2,
    .handOut "0123456789abcdef"].map calmly

theorem moved_keeps_the_order :
    (((machine (.plain "me")).run ⟨.initial (.plain "me"), []⟩
        moved).published.map PeerEndpointBundle.sequence) = [3, 2, 2, 1] ∧
      Ordered ((machine (.plain "me")).run ⟨.initial (.plain "me"), []⟩
        moved).published :=
  ⟨by decide +kernel, endpoint_sequences_only_go_up
    (Machine.Reachable.init.run moved (by decide +kernel))⟩

def movedLate : List Label :=
  [.start ⟨none, false⟩, available "first.onion" 1,
    .handOut "0123456789abcdef", available "second.onion" 1].map calmly

def lostAndFound : List Label :=
  [.start ⟨none, false⟩, available "first.onion" 1, available "second.onion" 1,
    .fact .onionServiceLost, available "third.onion" 1].map calmly

def reportedAgain : List Label :=
  [.start ⟨none, false⟩, available "first.onion" 1,
    .handOut "0123456789abcdef", available "first.onion" 1].map calmly

theorem sequences_are_used_again :
    (((machine (.plain "me")).run ⟨.initial (.plain "me"), []⟩
        movedLate).published.map fun bundle =>
          (bundle.onionAddress, bundle.sequence)) =
        [("second.onion", 2), ("first.onion", 2), ("first.onion", 1)] ∧
      ¬Ordered ((machine (.plain "me")).run ⟨.initial (.plain "me"), []⟩
        movedLate).published ∧
      (((machine (.plain "me")).run ⟨.initial (.plain "me"), []⟩
        lostAndFound).published.map fun bundle =>
          (bundle.onionAddress, bundle.sequence)) =
        [("third.onion", 1), ("second.onion", 2), ("first.onion", 1)] ∧
      ¬Ordered ((machine (.plain "me")).run ⟨.initial (.plain "me"), []⟩
        lostAndFound).published ∧
      (((machine (.plain "me")).run ⟨.initial (.plain "me"), []⟩
        reportedAgain).published.map fun bundle =>
          (bundle.onionAddress, bundle.sequence)) =
        [("first.onion", 1), ("first.onion", 2), ("first.onion", 1)] ∧
      ¬Ordered ((machine (.plain "me")).run ⟨.initial (.plain "me"), []⟩
        reportedAgain).published := by
  unfold Ordered
  decide +kernel

end Publishing

end Torchat
