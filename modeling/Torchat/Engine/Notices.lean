import Torchat.Engine.Envelopes
import Torchat.Engine.Quiet
import Torchat.Storage.Calls

namespace Torchat

open Foundation Storage Program

/-! ## What is handed over -/

def Storage.Database.EndpointsKept (before after : Database) : Prop :=
  after.contactPeerEndpoints = before.contactPeerEndpoints

instance Storage.Database.EndpointsKept.booked :
    Database.Booked Database.EndpointsKept where
  toFrame := Frame.of_eq Database.contactPeerEndpoints
  booked _ _ _ _ := rfl

instance : Database.Dispatching Database.EndpointsKept where
  issued _ _ _ _ := .execute fun _ _ done => by
    obtain ⟨_, rfl⟩ := Database.putContactEndpointCapability_eq done
    rfl
  claimed _ _ _ _ := .executeReturning fun _ _ _ done => by
    obtain ⟨_, rfl⟩ := Database.claimOutboundDelivery_eq done
    rfl

theorem Storage.Database.contains_of_mem_dueRelationshipRemovals
    {database : Database}
    (due : removal ∈ database.dueRelationshipRemovals now) :
    database.relationshipRemovals.contains removal.removalId = true := by
  obtain ⟨⟨removalId, row⟩, stored, found⟩ := List.mem_filterMap.mp due
  dsimp only at found
  have named : removal.removalId = removalId := by
    split at found
    · cases found
    · split at found
      · cases found
        rfl
      · cases found
  rw [named, Table.contains, Table.lookup_eq_some_iff.mpr stored]
  rfl

def Primitives.Carries
    (P : Primitives) (application : ApplicationPayload) (wire : Bytes) : Prop :=
  ∃ group plaintext ciphertext advanced,
    P.encodeApplication application = .ok plaintext ∧
    P.encrypt group plaintext = .ok (ciphertext, advanced) ∧
    P.encodeWire ciphertext = .ok wire

/-- The surroundings of a run, as far as a handover depends on them. -/
structure Circumstances where
  world : World
  since : Nat
  endpoints : Table InstallationId PeerEndpointBundle

namespace Actor

structure Under (circumstances : Circumstances) (actor : Actor P) : Prop where
  world : actor.host.world = circumstances.world
  since : circumstances.since ≤ actor.host.calls
  endpoints :
    actor.database.contactPeerEndpoints = circumstances.endpoints

def Handing (circumstances : Circumstances) (described : Handover → Prop)
    (before after : Actor P) : Prop :=
  before.Under circumstances → after.Under circumstances ∧
    ∃ handed, after.host.sent = handed ++ before.host.sent ∧
      ∀ handover ∈ handed, described handover

theorem Handing.of_sent
    (under : before.Under circumstances → after.Under circumstances)
    (same : after.host.sent = before.host.sent) :
    Handing circumstances described before after :=
  fun started => ⟨under started, [], same, nofun⟩

theorem Handing.keeps {program : Call P α}
    (run : ∀ start : Actor P, start.Under circumstances →
      Handing circumstances described start (program start).2) :
    program.Keeps (Handing circumstances described) :=
  ⟨fun start under => run start under under⟩

instance Handing.framed :
    Framed (Handing circumstances described : Actor P → Actor P → Prop)
      Database.EndpointsKept where
  refl _ := .of_sent id rfl
  trans := by
    intro _ _ _ first second started
    obtain ⟨middle, handed, sent, fits⟩ := first started
    obtain ⟨ended, later, sentLater, fitsLater⟩ := second middle
    refine ⟨ended, later ++ handed, ?_, fun handover member => ?_⟩
    · rw [sentLater, sent, List.append_assoc]
    · rcases List.mem_append.mp member with member | member
      · exact fitsLater handover member
      · exact fits handover member
  data actor _ kept := .of_sent
    (fun under => ⟨under.world, under.since, kept.trans under.endpoints⟩) rfl
  called := by
    rintro actor session _ ⟨calls, grown, rfl⟩
    exact .of_sent (fun under =>
      ⟨under.world, under.since.trans grown, under.endpoints⟩) rfl

instance Handing.offhand :
    Offhand (Handing circumstances described : Actor P → Actor P → Prop)
      Database.EndpointsKept where
  noted _ _ _ := .of_sent
    (fun under => ⟨under.world, under.since, under.endpoints⟩) rfl
  conversing _ _ := .of_sent
    (fun under => ⟨under.world, under.since, under.endpoints⟩) rfl

theorem handOver_handing
    (fits : ∀ current, described ⟨delivery, envelopeId, recipient,
      payload.ciphertext, payload.origin, current⟩) :
    (handOver (P := P) envelopeId recipient payload delivery).Keeps
      (Handing circumstances described) := by
  have recorded : (modify fun actor : Actor P => { actor with
      host := actor.host.recordHandover ⟨delivery, envelopeId, recipient,
        payload.ciphertext, payload.origin,
        actor.database.currentGroup recipient⟩ } : Call P Unit).Keeps
        (Handing circumstances described) := by
    refine .modify fun actor under => ?_
    refine ⟨⟨under.world, under.since, under.endpoints⟩, [_], rfl, ?_⟩
    simpa using fits _
  refine .next fun _ => ?_
  infer_instance

theorem usableEndpoint_known
    (ran : usableEndpoint recipient actor = (.ok endpoint, after)) :
    actor.database.contactPeerEndpoints.contains recipient = true := by
  obtain ⟨found, _, asked, ran⟩ := bind_ok ran
  obtain ⟨rfl, _⟩ := query_ok asked
  obtain ⟨_, _, present, _⟩ := bind_ok ran
  unfold Table.contains
  cases known : actor.database.contactPeerEndpoints.lookup recipient with
  | none =>
    rw [known] at present
    cases present
  | some endpoint => rfl

theorem queuePeerPayload_handing
    (fits : circumstances.endpoints.contains recipient = true →
      ∀ current, described ⟨delivery, envelopeId, recipient,
        payload.ciphertext, payload.origin, current⟩) :
    (queuePeerPayload (P := P) envelopeId recipient payload delivery).Keeps
      (Handing circumstances described) := by
  simp only [queuePeerPayload, fail_bind]
  split
  · infer_instance
  refine .next fun _ => ?_
  split
  · infer_instance
  refine .next fun _ => .next fun _ => ?_
  refine .next fun _ => .next fun _ => ?_
  refine Handing.keeps fun start under => ?_
  refine Keeps.bind_answered inferInstance fun endpoint _ usable => ?_
  have known := usableEndpoint_known usable
  rw [under.endpoints] at known
  have handed : (handOver (P := P) envelopeId recipient payload delivery).Keeps
      (Handing circumstances described) := handOver_handing (fits known)
  cases delivery with
  | message | _ => infer_instance

theorem dispatchEphemeralPayload_handing
    (fits : circumstances.endpoints.contains contact = true →
      ∀ turn, circumstances.since ≤ turn → ∀ current,
        described ⟨.ephemeral, circumstances.world.uuid turn, contact,
          payload.bytes, some payload.origin, current⟩) :
    (dispatchEphemeralPayload (P := P) contact payload).Keeps
      (Handing circumstances described) := by
  refine Handing.keeps fun start under => ?_
  refine Keeps.bind_answered inferInstance fun envelopeId _ drawn => ?_
  have same : envelopeId = start.host.world.uuid start.host.calls := by
    cases drawn
    rfl
  rw [under.world] at same
  subst same
  exact queuePeerPayload_handing fun known => fits known _ under.since

theorem encryptPayload_carries {conversation : P.Group} {payload : Sealed}
    {actor : Actor P}
    (ran : encryptPayload contact conversation application persist actor =
      (.ok (payload, advanced), after)) :
    P.Carries application payload.bytes := by
  obtain ⟨plaintext, _, encoded, ran⟩ := bind_ok ran
  obtain ⟨⟨ciphertext, later⟩, _, encrypted, ran⟩ := bind_ok ran
  obtain ⟨_, _, _, ran⟩ := bind_ok ran
  obtain ⟨wire, _, wired, ran⟩ := bind_ok ran
  obtain ⟨_, _, _, ran⟩ := bind_ok ran
  obtain ⟨_, _, _, ran⟩ := bind_ok ran
  cases ran
  exact ⟨conversation, plaintext, ciphertext, advanced, check_value encoded,
    check_value encrypted, check_value wired⟩

theorem encryptKeeping_carries {payload : Sealed} {actor : Actor P}
    (ran : encryptKeeping contact missing restoreFailed application persist
      actor = (.ok (.ok (payload, before)), after)) :
    P.Carries application payload.bytes := by
  obtain ⟨conversation, _, _, ran⟩ := bind_ok ran
  obtain ⟨_, _, _, ran⟩ := bind_ok ran
  rcases attempt_bind_cases ran with
    ⟨⟨sealed, advanced⟩, _, encrypted, ran⟩ | ⟨_, _, _, ran⟩ | ⟨_, crashed⟩
  · cases ran
    exact encryptPayload_carries encrypted
  · obtain ⟨_, _, _, ran⟩ := bind_ok ran
    cases ran
  · cases crashed

theorem sendEphemeralPayload_handing
    (fits : ∀ payload : Sealed, P.Carries application payload.bytes →
      circumstances.endpoints.contains contact = true →
      ∀ turn, circumstances.since ≤ turn → ∀ current,
        described ⟨.ephemeral, circumstances.world.uuid turn, contact,
          payload.bytes, some payload.origin, current⟩) :
    (sendEphemeralPayload (P := P) contact application).Keeps
      (Handing circumstances described) := by
  have stored (snapshot : Bytes) :
      (execute (Database.upsertSnapshot contact snapshot)).Keeps
        Database.EndpointsKept := .execute fun _ _ done => by
    obtain ⟨_, _, rfl⟩ := Database.upsertSnapshot_eq done
    rfl
  simp only [sendEphemeralPayload, fail_bind]
  refine .next fun _ => ?_
  split
  · infer_instance
  split
  · infer_instance
  refine ⟨fun start => ?_⟩
  refine Keeps.bind_answered inferInstance fun encrypted _ ran => ?_
  cases encrypted with
  | error error =>
    rw [ofExcept_error_bind]
    infer_instance
  | ok result =>
    obtain ⟨payload, before⟩ := result
    rw [ofExcept_ok_bind]
    have dispatched : (dispatchEphemeralPayload (P := P) contact payload).Keeps
        (Handing circumstances described) :=
      dispatchEphemeralPayload_handing (fits payload (encryptKeeping_carries ran))
    refine .next fun ended => ?_
    cases ended with
    | ok | error => infer_instance

structure Announces (P : Primitives) (circumstances : Circumstances)
    (removal : Database.DueRemoval) (handover : Handover) : Prop where
  known : circumstances.endpoints.contains handover.recipient = true
  drawn : ∃ turn, circumstances.since ≤ turn ∧
    handover.envelopeId = circumstances.world.uuid turn
  carried : ∃ messageId, P.parseUuid removal.removalId = .ok messageId ∧
    P.Carries (.relationshipRemoved messageId removal.removedAt
      removal.preserveHistory (some removal.relationshipEpoch) (some messageId))
      handover.ciphertext

theorem flushRelationshipRemoval_handing
    (circumstances : Circumstances) (removal : Database.DueRemoval) :
    (flushRelationshipRemoval (P := P) removal).Keeps
      (Handing circumstances (Announces P circumstances removal)) := by
  have marked (nextAttemptAt : Int) :
      (execute (Database.markRelationshipRemovalDispatched
        removal.removalId nextAttemptAt)).Keeps Database.EndpointsKept :=
    .execute fun _ _ done => by
      cases done
      rfl
  unfold flushRelationshipRemoval
  cases parsed : P.parseUuid removal.removalId with
  | error error => infer_instance
  | ok messageId =>
    have sent : (sendEphemeralPayload (P := P) removal.contactInstallationId
        (.relationshipRemoved messageId removal.removedAt
          removal.preserveHistory (some removal.relationshipEpoch)
          (some messageId))).Keeps
          (Handing circumstances (Announces P circumstances removal)) :=
      sendEphemeralPayload_handing fun payload carries known turn later _ =>
        ⟨known, ⟨turn, later, rfl⟩, messageId, parsed, carries⟩
    refine .next fun result => ?_
    cases result with
    | ok | error => infer_instance

theorem Handing.mono
    (implied : ∀ handover, described handover → weaker handover)
    (handing : Handing circumstances described before after) :
    Handing circumstances weaker before after := by
  intro under
  obtain ⟨ended, handed, sent, fits⟩ := handing under
  exact ⟨ended, handed, sent, fun handover member =>
    implied handover (fits handover member)⟩

def circumstances (actor : Actor P) : Circumstances :=
  ⟨actor.host.world, actor.host.calls, actor.database.contactPeerEndpoints⟩

def Notice (actor : Actor P) (handover : Handover) : Prop :=
  ∃ removal,
    actor.database.relationshipRemovals.contains removal.removalId = true ∧
    Announces P actor.circumstances removal handover

theorem flushPendingRelationshipRemovals_notices (actor : Actor P) :
    ∃ handed, (flushPendingRelationshipRemovals actor).2.host.sent =
        handed ++ actor.host.sent ∧
      ∀ handover ∈ handed, actor.Notice handover := by
  have told : (nowMs (P := P)).Keeps
      (Handing actor.circumstances actor.Notice) := inferInstance
  have run : Handing actor.circumstances actor.Notice actor
      (flushPendingRelationshipRemovals actor).2 := by
    refine Frame.trans (told.run actor) ?_
    change Handing _ _ _ ((query (Database.dueRelationshipRemovals
      (actor.host.world.clock actor.host.calls)) >>= fun due =>
        forEach due flushRelationshipRemoval) (nowMs actor).2).2
    refine Keeps.bind_answered inferInstance fun due _ asked => ?_
    obtain ⟨rfl, _⟩ := query_ok asked
    refine .forEach fun removal member => ?_
    have stored := Database.contains_of_mem_dueRelationshipRemovals member
    exact (flushRelationshipRemoval_handing _ removal).mono
      (.mono fun _ announced => ⟨removal, stored, announced⟩)
  exact (run ⟨rfl, le_rfl, rfl⟩).2

end Actor

/-! ## The contact's side -/

def Storage.Database.removals (database : Database) :=
  (database.relationshipTombstones, database.relationshipRemovals,
    database.relationshipRemovalAcks)

def Storage.Database.Unremoved (before after : Database) : Prop :=
  after.removals = before.removals

instance Storage.Database.Unremoved.booked :
    Database.Booked Database.Unremoved where
  toFrame := Frame.of_eq Database.removals
  booked _ _ _ _ := rfl

instance Storage.Database.Unremoved.receiving :
    Database.Receiving Database.Unremoved where
  issued _ _ _ _ := .execute fun _ _ done => by
    obtain ⟨_, rfl⟩ := Database.putContactEndpointCapability_eq done
    rfl
  claimed _ _ _ _ := .executeReturning fun _ _ _ done => by
    obtain ⟨_, rfl⟩ := Database.claimOutboundDelivery_eq done
    rfl
  claimedReceipt _ _ _ _ := .executeReturning fun _ _ _ done => by
    obtain rfl | ⟨_, rfl⟩ := Database.claimReceiptAttempt_eq done
    · rfl
    · rfl
  requeuedReceipt _ _ _ := .execute fun _ _ done => by
    cases done
    rfl
  deferred _ _ _ := .execute fun _ _ done => by
    cases done
    rfl
  persisted _ _ _ _ _ _ _ := .executeReturning fun _ _ _ done => by
    obtain ⟨_, rfl⟩ | ⟨_, _, _, _, rfl⟩ :=
      Database.persistReceiptEncryption_eq done
    · rfl
    · rfl
  arrived _ _ _ _ _ := .executeReturning fun _ _ _ done => by
    obtain ⟨_, rfl⟩ := Database.storeInboundPeerEnvelope_eq done
    rfl
  marked _ _ _ := .execute fun _ _ done => by
    cases done
    rfl

def Primitives.Understands (Q P : Primitives) : Prop :=
  ∀ {application : ApplicationPayload} {wire : Bytes},
    P.Carries application wire →
    ∀ {ciphertext : Bytes}, Q.decodeWire wire = .ok ciphertext →
    ∀ {group advanced : Q.Group} {plaintext : Bytes},
      Q.decrypt group ciphertext = .ok (plaintext, advanced) →
    ∀ {read : ApplicationPayload}, Q.decodeApplication plaintext = .ok read →
      read = application

/-- A removal that does not bear the id of its envelope is refused. -/
theorem Actor.misnamed_removal_is_refused (understands : Q.Understands P)
    (carries : P.Carries (.relationshipRemoved noticeId removedAt
      preserveHistory relationshipEpoch removalId) wire)
    (sender : InstallationId) (misnamed : noticeId ≠ messageId) :
    (handleInboundMessage (P := Q) sender messageId wire).Keeps
      (Stored Database.Unremoved) := by
  have received : (receivePeerPayload (P := Q) sender messageId wire).Keeps
      (Stored Database.Unremoved) := by
    refine receivePeerPayload_stored fun ciphertext decoded => ⟨fun start => ?_⟩
    refine handleApplicationEnvelope_stored ?_
    rintro application ⟨_, _, _, _, _, decrypted, read⟩ arrival _ rfl actor still
    obtain rfl := understands carries decoded decrypted read
    simp only [acceptPayload, acceptRemoval, ne_eq, misnamed, not_false_eq_true,
      if_true, fail_bind, run_fail]
    exact still.within
  exact handleInboundMessage_stored

/-- A flush of the removals never gets one applied: what it hands over, to
contacts with an endpoint only, bears an id drawn for the envelope and not the
id the contact's device compares it with. -/
theorem removal_notices_are_never_applied
    {P Q : Primitives} (understands : Q.Understands P) (actor : Actor P)
    (fresh : ∀ removalId,
      actor.database.relationshipRemovals.contains removalId = true →
      ∀ turn, actor.host.calls ≤ turn →
        P.parseUuid removalId ≠ .ok (actor.host.world.uuid turn)) :
    ∃ handed,
      (Actor.flushPendingRelationshipRemovals actor).2.host.sent =
        handed ++ actor.host.sent ∧
      ∀ handover ∈ handed,
        actor.database.contactPeerEndpoints.contains handover.recipient =
          true ∧
        ∀ peer : Actor Q,
          Database.Unremoved peer.database
            (Actor.handleInboundMessage P.installationId handover.envelopeId
              handover.ciphertext peer).2.database := by
  obtain ⟨handed, sent, notices⟩ :=
    Actor.flushPendingRelationshipRemovals_notices actor
  refine ⟨handed, sent, fun handover member => ?_⟩
  obtain ⟨removal, stored, known, ⟨turn, later, drawn⟩, messageId, parsed,
    carries⟩ := notices handover member
  have misnamed : messageId ≠ handover.envelopeId := by
    rintro rfl
    rw [drawn] at parsed
    exact fresh removal.removalId stored turn later parsed
  exact ⟨known, (Actor.misnamed_removal_is_refused understands carries
    P.installationId misnamed).run⟩

def aliceNotice : ApplicationPayload :=
  .relationshipRemoved 0 7000 true (some 1) (some 0)

def Primitives.noticing (installationId : InstallationId) : Primitives :=
  { Primitives.plain installationId with
    encodeApplication := fun application =>
      if application = aliceNotice then .ok [] else .error "encode"
    decodeApplication := fun _ => .ok aliceNotice
    parseUuid := fun text =>
      if text = Uuid.text 0 then .ok 0 else .error "invalid uuid" }

theorem Primitives.noticing_understands (own other : InstallationId) :
    (noticing own).Understands (noticing other) := by
  rintro application wire ⟨_, _, _, _, encoded, _⟩ _ _ _ _ _ _ read same
  have written : application = aliceNotice := by
    by_contra different
    simp [noticing, different] at encoded
  cases same
  exact written.symm

def removalWorld : World :=
  { World.calm 7000 with uuid := fun turn => if turn ≤ 1 then 0 else 1 }

def aliceEndpoint : PeerEndpointBundle := ⟨"alice", "key", "", 1, none, []⟩

def inTouch (P : Primitives) (group : P.Group) (world : World) : Actor P :=
  { Actor.assemble P
      { Storage.machine.run .empty (Storage.meetingAlice ++
          [.putConversationMlsSnapshot "alice" []]) with
        contactPeerEndpoints := Table.empty.insert "alice" aliceEndpoint }
      (Table.empty.insert "alice" group) false (some "socks5") 0
      (.initial world) with
    peerTransport := true
    localPeerEndpoint := some ⟨"me", "", "", 1, none, []⟩ }

def onlineWithAlice : Actor (.noticing "me") := inTouch _ [] removalWorld

def aliceRemoved : Outcome EngineError Unit × Actor (.noticing "me") :=
  Actor.removeRelationship (some ⟨"command", "descriptor"⟩) "alice" true
    onlineWithAlice

def aliceRemovedButHeld : Actor (.noticing "me") :=
  { aliceRemoved.2 with
    conversations := onlineWithAlice.conversations
    database :=
      { aliceRemoved.2.database with
        contactPeerEndpoints := Table.empty.insert "alice" aliceEndpoint }
    host := ⟨removalWorld, 8, [], [], 0⟩ }

theorem notice_from_a_held_conversation_is_never_applied :
    ∃ handed,
      (Actor.flushPendingRelationshipRemovals
        aliceRemovedButHeld).2.host.sent =
        handed ++ aliceRemovedButHeld.host.sent ∧
      ∀ handover ∈ handed,
        aliceRemovedButHeld.database.contactPeerEndpoints.contains
          handover.recipient = true ∧
        ∀ peer : Actor (.noticing "alice"),
          Database.Unremoved peer.database
            (Actor.handleInboundMessage "me" handover.envelopeId
              handover.ciphertext peer).2.database := by
  refine removal_notices_are_never_applied
    (Primitives.noticing_understands "alice" "me") aliceRemovedButHeld ?_
  intro removalId _ turn later parsed
  have drawn : aliceRemovedButHeld.host.world.uuid turn = 1 :=
    if_neg (show ¬turn ≤ 1 from by
      have : 8 ≤ turn := later
      omega)
  rw [drawn] at parsed
  change (if removalId = Uuid.text 0 then Except.ok 0 else .error _) = _ at parsed
  split at parsed
  · cases parsed
  · cases parsed

/-- One notice does go out there. -/
example :
    (Actor.flushPendingRelationshipRemovals
      aliceRemovedButHeld).2.host.sent.length = 1 := by decide +kernel

/-- After the removal the conversation is gone, and no notice can be written:
the removal is due, everything is at hand, and nothing is handed over. -/
theorem removal_of_alice_is_not_announced :
    onlineWithAlice.conversations.contains "alice" = true ∧
      aliceRemoved.1 = .ok () ∧
      (aliceRemoved.2.database.dueRelationshipRemovals 7000).length = 1 ∧
      (aliceRemoved.2.torUsable && aliceRemoved.2.localPeerEndpoint.isSome &&
        aliceRemoved.2.peerTransport) = true ∧
      (Actor.flushPendingRelationshipRemovals aliceRemoved.2).1 = .ok () ∧
      (Actor.flushPendingRelationshipRemovals
        aliceRemoved.2).2.host.sent.isEmpty = true := by
  refine ⟨rfl, ?_⟩
  decide +kernel

end Torchat
