import Torchat.Engine.Reach
import Torchat.Engine.Starts
import Torchat.Engine.TerminalFrames
import Torchat.Runtime.PairingItems
import Torchat.Storage.Containment

namespace Torchat

open Foundation Storage RelayClient Actor Spares

namespace Storage.Database

/-- The relations that hold whenever the pairing tables are as they were. -/
class OfPairing (stored : Database → Database → Prop) : Prop
    extends Booked stored where
  unpaired : ∀ {before after : Database},
    after.pairing = before.pairing → stored before after

def SamePairing (before after : Database) : Prop :=
  after.pairing = before.pairing

instance SamePairing.ofPairing : OfPairing SamePairing where
  toFrame := Program.Frame.of_eq Database.pairing
  booked _ _ _ _ := rfl
  unpaired := id

variable [ofPairing : OfPairing stored]

instance OfPairing.ofReach : OfReach stored where
  reached reach := ofPairing.unpaired (congrArg Prod.fst reach.beside)

instance : (executeReturning (consumeInvite inviteId)).Keeps stored :=
  .executeReturning fun _ _ _ done => by
    unfold consumeInvite at done
    split at done
    · cases done
      exact Frame.refl _
    · cases done
      exact ofPairing.unpaired rfl

instance : (execute (putContactPeerEndpoint endpoint)).Keeps stored :=
  .execute fun _ _ done => by
    unfold putContactPeerEndpoint at done
    split at done
    · cases done
      exact Frame.refl _
    · split at done
      · split at done
        · cases done
          exact ofPairing.unpaired rfl
        · cases done
          exact Frame.refl _
      · obtain ⟨_, written⟩ := requireRow_bind_eq_ok.mp done
        cases written
        exact ofPairing.unpaired rfl

instance : (execute (putPendingPeerEndpointInbox endpoint)).Keeps stored :=
  .total fun database => ofPairing.unpaired (by split <;> rfl)

instance (contact : ContactRecord) :
    (execute (putContact contact)).Keeps stored :=
  .total fun _ => ofPairing.unpaired rfl

instance (contact : InstallationId) (boundaryAt : Int) :
    (execute (beginVerifiedRelationship contact boundaryAt)).Keeps
      stored :=
  .total fun _ => ofPairing.unpaired rfl

instance onWelcomes_unpaired : (execute (onWelcomes f)).Keeps stored :=
  .total fun _ => ofPairing.unpaired rfl

instance : (execute (putPendingWelcome inviteId welcome)).Keeps stored :=
  onWelcomes_unpaired

instance : (execute (removePendingWelcome inviteId)).Keeps stored :=
  onWelcomes_unpaired

instance : (execute (removePendingLocalInviteMls inviteId)).Keeps stored :=
  .total fun _ => ofPairing.unpaired rfl

instance (contact : InstallationId) :
    (execute (removePendingPeerEndpointInbox contact)).Keeps stored :=
  .total fun _ => ofPairing.unpaired rfl

instance : (execute (completeRelationshipRemovalAck removalId)).Keeps stored :=
  .total fun _ => ofPairing.unpaired rfl

instance (contact : InstallationId) (lineage : Nat) :
    (Program.modify (recordGroup contact lineage) :
      Program Database RuntimeError Unit).Keeps stored :=
  .modify fun _ => ofPairing.unpaired rfl

end Storage.Database

section

variable [Database.OfPairing stored]

namespace Runtime

instance (contact : ContactRecord) :
    (putContact contact).Keeps (Within stored) := by
  unfold putContact
  infer_instance

instance : (promoteContactWithStatus contact status openConversation).Keeps
      (Within stored) := by
  simp only [promoteContactWithStatus]
  refine .next fun _ => .next fun _ => ?_
  refine .next fun found => ?_
  cases found with
  | none =>
    refine .next fun _ => .next fun _ => ?_
    refine .next fun _ => ?_
    split
    · infer_instance
    · infer_instance
  | some conversation =>
    refine .next fun _ => .next fun _ => ?_
    split
    · infer_instance
    · infer_instance

instance (commit : PairingCommit) :
    (commitContact commit).Keeps (Within stored) := by
  simp only [commitContact, welcomeAccepted, fail_bind]
  refine .next fun fresh => ?_
  split
  · infer_instance
  refine .next fun _ => .next fun _ => ?_
  refine .next fun _ => ?_
  cases commit.pendingWelcome with
  | none | some => infer_instance

end Runtime

namespace Actor

instance : (authorizeContact (P := P) contact).Keeps (Stored stored) := by
  unfold authorizeContact
  refine .next fun running => .next fun endpoint => ?_
  cases running with
  | false | true => cases endpoint <;> infer_instance

instance : (applyPeerEndpoint (P := P) endpoint).Keeps (Stored stored) := by
  unfold applyPeerEndpoint
  refine .next fun _ => .next fun _ => ?_
  refine .next fun _ => ?_
  split
  · refine .next fun _ => .next fun _ => ?_
    infer_instance
  · infer_instance

instance (contact : InstallationId) :
    (applyPendingPeerEndpoint (P := P) contact).Keeps (Stored stored) := by
  unfold applyPendingPeerEndpoint
  refine .next fun found => ?_
  cases found with
  | none | some => infer_instance

instance :
    (commitContactWithConversation card conversation inviteId pendingWelcome
      removesLocalInvite).Keeps (Stored stored) := by
  unfold commitContactWithConversation
  refine .next fun _ => .next fun _ => ?_
  refine .next fun _ => .next fun _ => ?_
  refine .bind (keeps_of_database fun _ => rfl) fun _ => ?_
  infer_instance

instance :
    (queueWelcomeApplied (P := P) recipient inviteId).Keeps (Stored stored) := by
  unfold queueWelcomeApplied runtimeProfile
  infer_instance

instance :
    (validateWelcomeEndpoint (P := P) payload).Keeps (Stored stored) := by
  unfold validateWelcomeEndpoint
  cases payload.peerEndpoint with
  | none | some => infer_instance

instance :
    (storeWelcomeCapabilities (P := P) payload invite).Keeps (Stored stored) := by
  unfold storeWelcomeCapabilities
  cases payload.peerCapability with
  | none | some => infer_instance

instance : (welcomeApplied (P := P) sender inviteId).Keeps (Stored stored) := by
  have forgotten : (Program.modify fun actor : Actor P => { actor with
      pendingWelcomes := actor.pendingWelcomes.erase inviteId } :
      Call P Unit).Keeps (Stored stored) :=
    keeps_of_database fun _ => rfl
  simp only [welcomeApplied, fail_bind]
  refine .next fun found => ?_
  cases found with
  | none | some => infer_instance

instance : (bootstrapEndpoint (P := P) endpoint).Keeps (Stored stored) := by
  simp only [bootstrapEndpoint, fail_bind]
  refine .next fun found => ?_
  cases found with
  | none | some => infer_instance

end Actor

end

namespace Runtime

open Pairing

theorem completePairings_keeps {stored : Database → Database → Prop}
    [Frame stored]
    (kept : ∀ item ∈ items, ∀ before after : Database,
      Storage.putPairingOutbox before.pairing item = .ok after.pairing →
      after = { before with pairing := after.pairing } →
      stored before after) :
    (completePairings items).Keeps (Within stored) := by
  refine .forEach fun item member => ?_
  have put : (execute (Database.onPairing
      (Storage.putPairingOutbox · item))).Keeps stored :=
    .execute fun before after done => by
      obtain ⟨tables, written, rest⟩ := bind_eq_ok.mp done
      cases rest
      exact kept item member before _ written rfl
  unfold putPairingOutbox inviteStateChanged
  infer_instance

/-- What a reconciliation completes: an outgoing pairing with the contact, or the
only outgoing one. -/
def Selected (contact : InstallationId) (tables : PairingTables)
    (item : PairingItem) : Prop :=
  item ∈ outstandingItems (Storage.pairingOutbox tables) ∧
    (boundTo item contact = true ∨
      outstandingItems (Storage.pairingOutbox tables) = [item])

def KeepsLone (own : String) (keys : Option String → Prop)
    (before after : Database) : Prop :=
  (∀ key, keys key → Lone own key before.pairing) →
    Spares own before.pairing after.pairing

instance KeepsLone.frame : Frame (KeepsLone own keys) where
  refl database _ := .refl database.pairing
  trans first second lone := (first lone).trans
    (second fun key has => (lone key has).of_spares (first lone))

theorem reconcileOutboxPairingContact_ok
    (settles : ∀ item,
      Selected installationId runtime.database.pairing item →
        item.pairingId = own ∧ Lone own item.pairKey runtime.database.pairing)
    (ran : reconcileOutboxPairingContact installationId runtime =
      (.ok (), next)) :
    next.database.pairing = runtime.database.pairing ∨
      (∃ item, Selected installationId runtime.database.pairing item) ∧
        Spares own runtime.database.pairing next.database.pairing := by
  obtain ⟨found, first, asked, ran⟩ := bind_ok ran
  obtain ⟨-, rfl⟩ := query_ok asked
  obtain ⟨contact, second, given, ran⟩ := bind_ok ran
  obtain rfl : second = runtime.tick := by
    cases found <;> cases given
    rfl
  obtain ⟨items, third, listed, ran⟩ := bind_ok ran
  obtain ⟨rfl, rfl⟩ := query_ok listed
  change completePairings (reconcileOutboxItems (Storage.pairingOutbox
    runtime.database.pairing) contact installationId) _ = _ at ran
  rcases listed : reconcileOutboxItems (Storage.pairingOutbox
    runtime.database.pairing) contact installationId with _ | ⟨item, rest⟩
  · rw [listed] at ran
    cases ran
    exact .inl rfl
  · obtain ⟨source, outstanding, -, chosen⟩ :=
      mem_reconcileOutboxItems.mp (listed ▸ List.mem_cons_self)
    have kept : (completePairings (reconcileOutboxItems (Storage.pairingOutbox
        runtime.database.pairing) contact installationId)).Keeps
        (Within (KeepsLone own fun key => ∃ item, Selected installationId
          runtime.database.pairing item ∧ item.pairKey = key)) := by
      refine completePairings_keeps fun item member before after put _ lone => ?_
      obtain ⟨source, outstanding, rfl, chosen⟩ :=
        mem_reconcileOutboxItems.mp member
      obtain ⟨rfl, -⟩ := settles source ⟨outstanding, chosen⟩
      have spares := putPairingOutbox_spares (by
        exact lone _ ⟨source, ⟨outstanding, chosen⟩, rfl⟩) put
      exact spares
    have spared := (kept.run runtime.tick.tick).data
    rw [ran] at spared
    refine .inr ⟨⟨source, outstanding, chosen⟩, spared ?_⟩
    rintro _ ⟨item, selected, rfl⟩
    exact (settles item selected).2

end Runtime

theorem Actor.transact_pairing_cases
    (operation : Runtime.Call α) (actor : Actor P) :
    (transact operation actor).2.database.pairing = actor.database.pairing ∨
      ∃ value runtime, operation actor.begun = (.ok value, runtime) ∧
        (transact operation actor).2.database.pairing =
          runtime.database.pairing := by
  rw [transact_state]
  unfold withRuntime
  have transacted := withRuntimeInternal_transacted operation none
    (fun _ => .ok none) actor
  generalize withRuntimeInternal operation none (fun _ => .ok none) actor =
    result at transacted ⊢
  obtain ⟨outcome, after⟩ := result
  cases transacted with
  | kept => exact .inl rfl
  | committed session ran prepared =>
    have same : Database.SamePairing _ _ := prepareCommit_booked prepared
    exact .inr ⟨_, _, ran, same⟩

namespace Runtime

open Pairing

variable {runtime : Runtime}

theorem put_ok (ran : write (Database.onPairing put) runtime = (.ok (), next)) :
    put runtime.database.pairing = .ok next.database.pairing := by
  obtain ⟨database, done, rfl⟩ := write_ok ran
  obtain ⟨tables, stored, rest⟩ := bind_eq_ok.mp done
  rw [stored, ← Except.ok.inj rest]

theorem applyPairingPeerOutcome_ok
    (ran : applyPairingPeerOutcome pairingId outcome runtime = (.ok (), next)) :
    peerOutcome pairingId outcome runtime.database.pairing =
      .ok next.database.pairing := by
  obtain ⟨item, first, looked, ran⟩ := bind_ok ran
  obtain ⟨found, second, asked, given⟩ := bind_ok looked
  obtain ⟨rfl, rfl⟩ := query_ok asked
  obtain ⟨row, stored, rfl⟩ := Option.map_eq_some_iff.mp (required_value given)
  obtain rfl : runtime.tick = first := by
    rw [Database.outboxItem, stored] at given
    exact congrArg Prod.snd given
  obtain ⟨state, third, decided, ran⟩ := bind_ok ran
  have stated : (pairingOutboxItem pairingId row).state = row.state := rfl
  rw [stated] at decided ran
  simp only [peerOutcome, stored]
  cases next : nextStateForPeerOutcome row.state outcome with
  | error error =>
    rw [next] at decided
    cases decided
  | ok state' =>
    rw [next] at decided
    cases decided
    dsimp only
    split
    · rename_i same
      rw [if_pos same] at ran
      cases ran
      rfl
    · rename_i different
      rw [if_neg different] at ran
      obtain ⟨_, fourth, put, told⟩ := bind_ok ran
      cases told
      exact put_ok put

theorem find_pairingInbox (tables : PairingTables) (pairingId : String) :
    (Storage.pairingInbox tables).find? (fun item => item.pairingId = pairingId) =
      (tables.inbox.lookup pairingId).map (pairingInboxItem pairingId) := by
  have named : (fun item => decide (item.pairingId = pairingId)) ∘
      (fun entry : String × PairingRow InboxDetails =>
        pairingInboxItem entry.1 entry.2) =
      fun entry => decide (entry.1 = pairingId) := rfl
  rw [Storage.pairingInbox, List.find?_map, named, Table.find?_entries,
    Option.map_map]
  rfl

def Timely (now : Int) (tables : PairingTables) : Prop :=
  expireItems (Storage.pairingInbox tables) now = []

theorem expirePairingItems_of_timely
    (timely : expireItems items
      (runtime.host.world.clock runtime.host.calls / 1000) = []) :
    expirePairingItems items put runtime = (.ok items, runtime.tick) := by
  have same : (items.map fun item => (expireItem item
      (runtime.host.world.clock runtime.host.calls / 1000)).getD item) =
      items := by
    refine (List.map_congr_left fun item member => ?_).trans (List.map_id _)
    rw [List.filterMap_eq_nil_iff.mp timely item member]
    rfl
  have read : nowSecs runtime =
      (.ok (runtime.host.world.clock runtime.host.calls / 1000), runtime.tick) :=
    rfl
  unfold expirePairingItems
  rw [run_bind_ok read, timely, same]
  rfl

def storeMerge (merge : PairingMerge) : Call Unit := do
  if merge.inserted then
    pushEvent (.inviteReceived (some merge.item.pairingId)
      (merge.item.sender.map ContactRecord.nickname))
    putPairingInbox merge.item
  else if merge.changed then
    putPairingInbox merge.item

def merged (merge : PairingMerge) (tables : PairingTables) :
    RuntimeResult PairingTables :=
  if merge.inserted || merge.changed then
    Storage.putPairingInbox tables merge.item
  else .ok tables

theorem storeMerge_ok (ran : storeMerge merge runtime = (.ok (), next)) :
    merged merge runtime.database.pairing = .ok next.database.pairing := by
  obtain ⟨item, inserted, changed⟩ := merge
  cases inserted with
  | true =>
    obtain ⟨_, told, pushed, put⟩ := bind_ok ran
    cases pushed
    change Storage.putPairingInbox _ item = _
    exact put_ok put
  | false =>
    cases changed with
    | true => exact put_ok ran
    | false =>
      cases ran
      rfl

section

variable
  (timely : Timely (runtime.host.world.clock (runtime.host.calls + 1) / 1000)
    runtime.database.pairing)

include timely

theorem receivePairingOffer_run
    (asked : pairingInbox runtime =
      (.ok (Storage.pairingInbox runtime.database.pairing), runtime.tick)) :
    receivePairingOffer item runtime = storeMerge (mergePairingItem
      (runtime.database.inboxItem item.pairingId) item) runtime.tick.tick := by
  have unexpired := @expirePairingItems_of_timely runtime.tick
    (Storage.pairingInbox runtime.database.pairing) putPairingInbox timely
  have merge : mergeRemoteItem (Storage.pairingInbox runtime.database.pairing)
      item = mergePairingItem (runtime.database.inboxItem item.pairingId) item := by
    rw [mergeRemoteItem, find_pairingInbox]
    rfl
  have merges : mergePairingInbox [item] runtime = (do
      Program.forEach [mergePairingItem
        (runtime.database.inboxItem item.pairingId) item] storeMerge
      return visibleItems (mergeRemoteItems
        (Storage.pairingInbox runtime.database.pairing) [item]).1 : Call _)
      runtime.tick.tick := by
    unfold mergePairingInbox
    rw [run_bind_ok asked, run_bind_ok unexpired, ← merge]
    rfl
  unfold receivePairingOffer
  rw [run_bind, merges, run_bind]
  rcases ran : storeMerge (mergePairingItem
    (runtime.database.inboxItem item.pairingId) item) runtime.tick.tick
    with ⟨_ | _ | _, next⟩ <;>
  simp [Program.forEach, Program.bind, Program.pure, ran]

theorem receivePairingOffer_ok
    (ran : receivePairingOffer item runtime = (.ok (), next)) :
    merged (mergePairingItem (runtime.database.inboxItem item.pairingId) item)
      runtime.database.pairing = .ok next.database.pairing := by
  obtain ⟨_, _, merging, -⟩ := bind_ok ran
  obtain ⟨stored, first, asked, -⟩ := bind_ok merging
  obtain ⟨rfl, rfl⟩ := query_ok asked
  rw [receivePairingOffer_run timely asked] at ran
  exact @storeMerge_ok runtime.tick.tick _ _ ran

theorem receivePairingOffer_agrees (item : PairingItem)
    (quiet : runtime.host.world.Quiet)
    (unspoken : runtime.session.pendingEvents.filterMap
      RuntimeEvent.conversation = []) :
    Agrees (merged (mergePairingItem
        (runtime.database.inboxItem item.pairingId) item)
        runtime.database.pairing)
      (receivePairingOffer item runtime) := by
  rw [receivePairingOffer_run timely (query_quiet quiet _)]
  obtain ⟨item, inserted, changed⟩ := mergePairingItem
    (runtime.database.inboxItem item.pairingId) item
  cases inserted with
  | true =>
    exact @put_agrees { runtime.tick.tick with
      session := runtime.session.pushEvent (.inviteReceived _ _) } quiet
      (RuntimeSession.pushEvent_unspoken unspoken rfl)
      (Storage.putPairingInbox · item)
  | false =>
    cases changed with
    | true =>
      exact @put_agrees runtime.tick.tick quiet unspoken
        (Storage.putPairingInbox · item)
    | false => exact .done runtime.tick.tick unspoken

end

end Runtime

/-! ## When a payload is confined to its bridge -/

/-- An offer: if its merge is stored and not superseded, it is the bridge's own
item, and takes the place of what it displaces. -/
def OfferConfined (own : String) (merge : Pairing.PairingMerge)
    (tables : PairingTables) : Prop :=
  (merge.inserted || merge.changed) = true →
    supersededBy tables.outbox merge.item = false →
    merge.item.pairingId = own ∧ PutConfined merge.item tables

/-- A rejection: what it names is settled or superseded, or it is the bridge's
own pairing, and the only active item of its pair. -/
def RejectionConfined (own named : String) (tables : PairingTables) : Prop :=
  ∀ row, tables.outbox.lookup named = some row → row.active = true →
    supersededBy tables.inbox (pairingOutboxItem named row) = false →
    named = own ∧ Lone own row.pairKey tables

namespace Actor

def offerTime (actor : Actor P) : Int :=
  actor.host.world.clock (actor.host.calls + 2) / 1000

def offered (pairingId payload : String) (invite : ContactInvite)
    (actor : Actor P) : Pairing.PairingMerge :=
  Pairing.mergePairingItem (actor.database.inboxItem pairingId)
    (offeredItem P pairingId payload invite)

/-- The checks a Welcome passes before anything is stored. -/
def Admits (payload : WelcomePayload) (actor admitted : Actor P) : Prop :=
  P.verifyRelay (.welcome payload) payload.sender.installationId = .ok () ∧
    validateWelcomeEndpoint payload actor = (.ok (), admitted)

/-- The invite is unused and pending, and its group accepts the Welcome. -/
def Joins (payload : WelcomePayload) (actor : Actor P) : Prop :=
  payload.inviteId ∉ actor.database.usedInvites ∧
  ∃ invite member conversation,
    actor.database.pendingLocalInviteMls payload.inviteId
      ((actor.host.world.clock (actor.host.calls + 2)).tdiv 1000) = some invite ∧
    invite.recipientInstallationId.any (· ≠ payload.sender.installationId) =
      false ∧
    P.memberRestore invite.snapshot = .ok member ∧
    P.acceptConversation member payload.welcome payload.tree = .ok conversation

/-- What the bind of a Welcome leaves. -/
def boundTables (payload : WelcomePayload) (actor : Actor P) : PairingTables :=
  (Storage.bindPairingOutboxPairKey payload.inviteId
    (ownPairKey P payload.sender.installationId) actor.database.pairing).2

/-- A Welcome: if outgoing pairings mention its invite, it is the bridge's own,
and what is then completed is that one too, without a rival it displaced. -/
structure WelcomeConfined (own : String) (payload : WelcomePayload)
    (actor : Actor P) : Prop where
  binds : BindConfined own payload.inviteId
    (ownPairKey P payload.sender.installationId) actor.database.pairing
  settles : actor.Joins payload → ∀ item,
    Runtime.Selected payload.sender.installationId (actor.boundTables payload)
      item →
    item.pairingId = own ∧
      Lone own item.pairKey (actor.boundTables payload) ∧
      (Links actor.database.pairing payload.inviteId own →
        Lone own (some (ownPairKey P payload.sender.installationId))
          actor.database.pairing)

def Confined (bridge : Uuid) (ciphertext : Bytes) (actor : Actor P) : Prop :=
  match P.decodeRelay ciphertext with
  | .ok (.pairingOffer pairingId payload) =>
    ∀ invite, P.parseInvite payload = .ok invite →
      Runtime.Timely actor.offerTime actor.database.pairing ∧
      OfferConfined bridge.text (actor.offered pairingId payload invite)
        actor.database.pairing
  | .ok (.pairingRejected named) =>
    ∀ pairingId, P.parseUuid named = .ok pairingId →
      RejectionConfined bridge.text pairingId.text actor.database.pairing
  | .ok (.welcome payload) =>
    ∀ admitted, actor.Admits payload admitted →
      admitted.WelcomeConfined bridge.text payload
  | _ => True

end Actor

section

open Pairing

theorem mergePairingItem_offered (P : Primitives) (pairingId payload : String)
    (invite : ContactInvite) (stored : Option (PairingRow InboxDetails)) :
    let merge := mergePairingItem (stored.map (pairingInboxItem pairingId))
      (offeredItem P pairingId payload invite)
    merge.item.pairingId = pairingId ∧ ∃ sender capability pairKey,
      merge.item.sender = some sender ∧
      merge.item.capability = some capability ∧
      merge.item.pairKey = some pairKey := by
  cases stored with
  | none => exact ⟨rfl, _, _, _, rfl, rfl, rfl⟩
  | some row =>
    obtain ⟨key, state, details⟩ := row
    refine ⟨rfl, _, (if details.capability = "" then pairingId
      else details.capability), key.getD (ownPairKey P invite.card.installationId),
      rfl, ?_, ?_⟩
    · by_cases blank : details.capability = ""
      · exact (if_pos blank).trans (congrArg some (if_pos blank).symm)
      · exact (if_neg blank).trans (congrArg some (if_neg blank).symm)
    · cases key <;> rfl

/-- A merge that asks to be stored changes its row, and archives no active
one. -/
theorem inboxRow_merged (P : Primitives) (row : PairingRow InboxDetails)
    (changed : (mergePairingItem (some (pairingInboxItem pairingId row))
      (offeredItem P pairingId payload invite)).changed = true)
    (hasCapability : (mergePairingItem (some (pairingInboxItem pairingId row))
      (offeredItem P pairingId payload invite)).item.capability =
        some capability) :
    let now := inboxRow (some row) (mergePairingItem
      (some (pairingInboxItem pairingId row))
      (offeredItem P pairingId payload invite)).item sender capability
    now ≠ row ∧ (row.active = true → now ≠ { row with state := .archived }) := by
  refine ⟨fun same => ?_, fun active gone => ?_⟩
  · refine of_decide_eq_true changed ?_
    have stated := congrArg PairingRow.state same
    have detailed := congrArg PairingRow.details same
    refine Eq.mpr (PairingItem.mk.injEq ..) ⟨rfl, congrArg PairingRow.pairKey same,
      rfl, ?_, congrArg InboxDetails.expiresAt detailed, stated, rfl,
      congrArg (pairingAvailableActions · true) stated,
      congrArg InboxDetails.offerInviteId detailed,
      congrArg InboxDetails.offerPayload detailed⟩
    exact hasCapability.trans
      (congrArg (some ∘ InboxDetails.capability) detailed)
  · have stated := congrArg PairingRow.state gone
    rcases InviteState.outstanding_cases active with pending | accepted
    · simp [inboxRow, mergePairingItem, normalizePairingItem, pairingInboxItem,
        offeredItem, pending, mergeInviteState] at stated
    · simp [inboxRow, mergePairingItem, normalizePairingItem, pairingInboxItem,
        offeredItem, accepted, mergeInviteState] at stated

theorem eq_own_of_merged (P : Primitives)
    (offer : merge = mergePairingItem
      ((tables.inbox.lookup pairingId).map (pairingInboxItem pairingId))
      (offeredItem P pairingId payload invite))
    (written : (merge.inserted || merge.changed) = true)
    (hasCapability : merge.item.capability = some capability)
    (stored : after.inbox.lookup pairingId = some (inboxRow
      (tables.inbox.lookup pairingId) merge.item sender capability))
    (contained : Contained own tables after) : pairingId = own := by
  by_contra foreign
  subst offer
  cases found : tables.inbox.lookup pairingId with
  | none =>
    obtain same | ⟨_, _, old, _⟩ := contained.inbox pairingId foreign
    · rw [stored, found] at same
      cases same
    · rw [found] at old
      cases old
  | some row =>
    rw [found] at written hasCapability stored
    obtain ⟨changes, stays⟩ := inboxRow_merged P row written hasCapability
    have gone := contained.inbox.gone foreign found stored changes
    exact stays gone.active gone.retired

theorem OfferConfined.contained_iff
    (offer : merge = mergePairingItem
      ((tables.inbox.lookup pairingId).map (pairingInboxItem pairingId))
      (offeredItem P pairingId payload invite)) :
    Contained own tables ((Runtime.merged merge tables).toOption.getD tables) ↔
      OfferConfined own merge tables := by
  obtain ⟨sameId, sender, capability, pairKey, hasSender, hasCapability,
    hasKey⟩ := mergePairingItem_offered P pairingId payload invite
      (tables.inbox.lookup pairingId)
  rw [← offer] at sameId hasSender hasCapability hasKey
  have any : supersededBy tables.outbox merge.item =
      tables.outbox.hasSuperseded pairKey merge.item.pairingId := by
    simp [supersededBy, hasKey]
  unfold Runtime.merged OfferConfined
  rw [any]
  split
  swap
  · exact ⟨fun _ written => absurd written ‹_›,
      fun _ => (Spares.refl tables).contained⟩
  rename_i written
  cases superseded : tables.outbox.hasSuperseded pairKey merge.item.pairingId with
  | true =>
    rw [putPairingInbox_superseded hasSender hasCapability hasKey superseded]
    exact ⟨fun _ _ current => Bool.noConfusion current,
      fun _ => (Spares.refl tables).contained⟩
  | false =>
    obtain ⟨after, put, _, inbox⟩ :=
      putPairingInbox_ok hasSender hasCapability hasKey superseded
    have iff := putPairingInbox_contained_iff hasSender hasCapability hasKey
      superseded put
    have stored := (inbox merge.item.pairingId).trans (if_pos rfl)
    rw [put]
    refine ⟨fun contained _ _ => ?_, fun confined => ?_⟩
    · rw [sameId] at stored
      obtain rfl := sameId.trans
        (eq_own_of_merged P offer written hasCapability stored contained)
      exact ⟨rfl, iff.mp contained⟩
    · obtain ⟨rfl, displaced⟩ := confined written rfl
      exact iff.mpr displaced

@[simp] theorem rejectedItem_pairingId
    (named : String) (row : PairingRow OutboxDetails) :
    (rejectedItem named row).pairingId = named := rfl

theorem nextStateForPeerOutcome_settled (settled : state.isOutstanding = false)
    (decided : nextStateForPeerOutcome state .rejectionReceived = .ok next) :
    state = next := by
  cases state <;> cases settled <;> cases decided <;> rfl

theorem peerOutcome_settled
    (settled : ∀ row, tables.outbox.lookup named = some row →
      row.active = false)
    (done : Runtime.peerOutcome named .rejectionReceived tables = .ok after) :
    after = tables := by
  unfold Runtime.peerOutcome at done
  split at done
  · cases done
  · rename_i row found
    split at done
    · cases done
    · rename_i state decided
      have same := nextStateForPeerOutcome_settled (settled row found) decided
      rw [if_pos same] at done
      exact (Except.ok.inj done).symm

theorem RejectionConfined.contained
    (confined : RejectionConfined own named tables)
    (done : Runtime.peerOutcome named .rejectionReceived tables = .ok after) :
    Contained own tables after := by
  by_cases settled : ∀ row, tables.outbox.lookup named = some row →
      row.active = false
  · rw [peerOutcome_settled settled done]
    exact (refl tables).contained
  · simp only [not_forall, Bool.not_eq_false] at settled
    obtain ⟨row, found, active⟩ := settled
    rw [peerOutcome_rejection found active] at done
    cases superseded : supersededBy tables.inbox (pairingOutboxItem named row) with
    | true =>
      rw [supersededBy, Option.any_eq_true] at superseded
      obtain ⟨key, hasKey, blocked⟩ := superseded
      have skipped : putPairingOutbox tables (rejectedItem named row) =
          .ok tables := putPairingOutbox_superseded hasKey blocked
      rw [skipped] at done
      cases done
      exact (refl _).contained
    | false =>
      obtain ⟨rfl, lone⟩ := confined row found active superseded
      exact (putPairingOutbox_spares lone done).contained

theorem RejectionConfined.of_contained
    (contained : Contained own tables
      ((Runtime.peerOutcome named .rejectionReceived tables).toOption.getD
        tables)) : RejectionConfined own named tables := by
  intro row found active current
  rw [peerOutcome_rejection found active] at contained
  obtain ⟨after, put, _, outboxOwn⟩ :=
    putPairingOutbox_self tables (rejectedItem named row)
  have notSuperseded : supersededBy tables.inbox (rejectedItem named row) =
      false := current
  rw [notSuperseded, if_neg Bool.false_ne_true, rejectedItem_pairingId]
    at outboxOwn
  rw [put] at contained
  change Contained own tables after at contained
  obtain rfl : named = own := by
    by_contra foreign
    have gone := contained.outbox.gone foreign found outboxOwn
      (PairingRow.ne_of_inactive active rfl)
    cases congrArg PairingRow.state gone.retired
  refine ⟨rfl, fun key keyed other rivals => ?_⟩
  by_contra foreign
  obtain ⟨rival, rivalFound, rivalActive, rivalKeyed⟩ | ⟨rival, rivalFound,
    rivalActive, rivalKeyed⟩ := rivals
  swap
  · exact foreign (tables.outbox.lookup_injective rivalFound found
      (PairingRow.indexed_of_active rivalActive rivalKeyed)
      (PairingRow.indexed_of_active active keyed))
  have hasKey : (rejectedItem named row).pairKey = some key := keyed
  have unblocked : tables.inbox.hasSuperseded key named = false := by
    simpa [supersededBy, hasKey] using notSuperseded
  obtain ⟨_, putAgain, inbox, _⟩ := putPairingOutbox_ok hasKey unblocked
  rw [put] at putAgain
  cases putAgain
  -- The rival is archived, while the rejected pairing is no active item.
  have archived : after.inbox.lookup other =
      some { rival with state := .archived } := by
    rw [inbox, rivalFound, Option.map_some, rejectedItem_pairingId,
      retiredRow_of_selected rivalActive rivalKeyed foreign]
  have gone := contained.inbox.gone foreign rivalFound archived
    (PairingRow.ne_of_inactive rivalActive rfl)
  obtain ⟨_, sameKey, ⟨_, ownFound, ownActive, ownKeyed⟩ | ⟨_, ownFound,
    ownActive, _⟩⟩ := gone.displaced
  · rw [inbox, Option.map_eq_some_iff] at ownFound
    obtain ⟨before, beforeFound, rfl⟩ := ownFound
    rw [rejectedItem_pairingId, retiredRow_self] at ownActive ownKeyed
    exact foreign (tables.inbox.lookup_injective rivalFound beforeFound
      (PairingRow.indexed_of_active rivalActive sameKey)
      (PairingRow.indexed_of_active ownActive ownKeyed))
  · rw [outboxOwn] at ownFound
    cases ownFound
    cases ownActive

end

namespace Actor

variable {actor : Actor P}

theorem receivePairingOffer_contained
    (timely : Runtime.Timely actor.offerTime actor.database.pairing)
    (confined : OfferConfined own (actor.offered pairingId payload invite)
      actor.database.pairing) :
    Contained own actor.database.pairing (transact (Runtime.receivePairingOffer
        (offeredItem P pairingId payload invite)) actor).2.database.pairing := by
  obtain same | ⟨_, runtime, ran, left⟩ := transact_pairing_cases
    (Runtime.receivePairingOffer (offeredItem P pairingId payload invite)) actor
  · rw [same]
    exact (refl _).contained
  · have stored : Runtime.merged (actor.offered pairingId payload invite)
        actor.database.pairing = .ok runtime.database.pairing :=
      @Runtime.receivePairingOffer_ok actor.begun timely _ _ ran
    have contained := (OfferConfined.contained_iff
      (show actor.offered pairingId payload invite = _ from rfl)).mpr confined
    rw [stored] at contained
    rw [left]
    exact contained

theorem applyPairingPeerOutcome_contained
    (confined : RejectionConfined own named actor.database.pairing) :
    Contained own actor.database.pairing
      (applyPairingPeerOutcome named .rejectionReceived
        actor).2.database.pairing := by
  obtain same | ⟨_, runtime, ran, left⟩ := transact_pairing_cases
    (Runtime.applyPairingPeerOutcome named .rejectionReceived) actor
  · rw [applyPairingPeerOutcome, same]
    exact (refl _).contained
  · rw [applyPairingPeerOutcome, left]
    exact confined.contained (Runtime.applyPairingPeerOutcome_ok ran)

section

variable {holds : PairingTables → Prop}
  {program : Call P α} {rest : α → Call P β}

theorem untouched (kept : program.Keeps (Stored Database.SamePairing))
    (held : holds actor.database.pairing) :
    holds (program actor).2.database.pairing := by
  have same : (program actor).2.database.pairing = actor.database.pairing :=
    kept.run actor
  rw [same]
  exact held

theorem untouched_bind (kept : program.Keeps (Stored Database.SamePairing))
    (held : holds actor.database.pairing)
    (continued : ∀ value next, program actor = (.ok value, next) →
      next.database.pairing = actor.database.pairing →
      holds (rest value next).2.database.pairing) :
    holds ((program >>= rest) actor).2.database.pairing := by
  refine bind_end (fun actor : Actor P => holds actor.database.pairing)
    (untouched kept held) fun value next ran => ?_
  have same := kept.run actor
  rw [ran] at same
  exact continued value next ran same

theorem joinGroup_end (held : holds actor.database.pairing)
    (settled : invite.recipientInstallationId.any
        (· ≠ payload.sender.installationId) = false →
      ∀ member conversation, P.memberRestore invite.snapshot = .ok member →
      P.acceptConversation member payload.welcome payload.tree =
        .ok conversation →
      ∀ middle : Actor P, middle.database.pairing = actor.database.pairing →
        holds (transact (Runtime.reconcileOutboxPairingContact
          payload.sender.installationId) middle).2.database.pairing) :
    holds (joinGroup payload invite actor).2.database.pairing := by
  simp only [joinGroup, fail_bind]
  split
  · exact held
  rename_i addressed
  refine untouched_bind inferInstance held fun member _ checked _ => ?_
  obtain ⟨restored, rfl⟩ := check_ok checked
  cases accepted : P.acceptConversation member payload.welcome payload.tree with
  | error error =>
    refine untouched ?_ held
    dsimp only
    infer_instance
  | ok conversation =>
    refine untouched_bind inferInstance held fun _ next _ same => ?_
    have settled := settled (by simpa using addressed) member conversation
      restored accepted
    rw [← same] at held settled
    refine untouched_bind inferInstance held fun _ middle _ same => ?_
    have settled := settled middle same
    refine bind_end (fun actor : Actor P => holds actor.database.pairing) settled
      fun _ next ran => ?_
    rw [ran] at settled
    refine untouched ?_ settled
    cases payload.peerEndpoint <;> infer_instance

end

theorem required_ok (ran : required found error actor = (.ok value, next)) :
    found = some value ∧ next = actor := by
  cases found with
  | none => cases ran
  | some held =>
    cases ran
    exact ⟨rfl, rfl⟩

/-- What a Welcome can leave: what was there, what its bind leaves, or, once its
group is joined, what the reconciliation makes of that. -/
theorem acceptWelcome_end {holds : PairingTables → Prop}
    (admitted : validateWelcomeEndpoint payload actor = (.ok (), next))
    (binds : Storage.bindPairingOutboxPairKey payload.inviteId
        (ownPairKey P payload.sender.installationId) next.database.pairing =
      (.ok (), after))
    (unbound : ¬ next.host.world.Quiet → holds next.database.pairing)
    (bound : holds after)
    (settled : next.Joins payload → ∀ middle : Actor P,
      middle.database.pairing = after →
        holds (transact (Runtime.reconcileOutboxPairingContact
          payload.sender.installationId) middle).2.database.pairing) :
    holds (acceptWelcome payload actor).2.database.pairing := by
  have stored : onDatabase ((Storage.bindPairingOutboxPairKey payload.inviteId
      (ownPairKey P payload.sender.installationId)).zoom Database.pairing
      fun pairing database => { database with pairing := pairing })
      next.tick = (.ok (), { next.tick with
        database := { next.database with pairing := after } }) := by
    simp [onDatabase, zoom, Program.mapError, tick, binds, Outcome.mapError]
  unfold acceptWelcome
  rw [run_bind_ok admitted]
  refine bind_end (fun actor : Actor P => holds actor.database.pairing) ?_
    fun _ _ ran => ?_
  · unfold bindPairingOutboxPairKey
    by_cases quiet : next.host.world.Quiet
    · have asked : onHost (Host.consult .statement
          (.storage "statement failed")) next = (.ok (), next.tick) := by
        simp [onHost, zoom, Host.consult_quiet quiet, tick]
      rw [run_bind_ok asked, stored]
      exact bound
    · refine untouched_bind inferInstance (unbound quiet) fun _ _ asked _ => ?_
      obtain rfl := consult_ok asked
      rw [stored]
      exact bound
  obtain ⟨_, _, asked, ran⟩ := bind_ok ran
  obtain rfl := consult_ok asked
  rw [stored] at ran
  cases ran
  refine untouched_bind inferInstance bound fun used _ asked _ => ?_
  obtain ⟨_, _, consulted, answered⟩ := bind_ok asked
  obtain rfl := consult_ok consulted
  cases answered
  split
  · exact untouched inferInstance bound
  rename_i unused
  refine untouched_bind inferInstance bound fun now _ read _ => ?_
  cases read
  refine untouched_bind inferInstance bound fun found _ asked _ => ?_
  obtain ⟨_, _, consulted, answered⟩ := bind_ok asked
  obtain rfl := consult_ok consulted
  cases answered
  refine untouched_bind inferInstance bound fun invite _ given _ => ?_
  obtain ⟨pending, rfl⟩ := required_ok given
  refine joinGroup_end bound fun addressed member conversation restored accepted =>
    settled ⟨fun used => unused (decide_eq_true used), invite, member,
      conversation, pending, addressed, restored, accepted⟩

theorem reconcile_contained (contained : Contained own tables
      actor.database.pairing)
    (settles : ∀ item,
      Runtime.Selected contact actor.database.pairing item →
        (item.pairingId = own ∧ Lone own item.pairKey actor.database.pairing) ∧
          Spares own tables actor.database.pairing) :
    Contained own tables (transact (Runtime.reconcileOutboxPairingContact
      contact) actor).2.database.pairing := by
  obtain same | ⟨_, runtime, ran, left⟩ := transact_pairing_cases
    (Runtime.reconcileOutboxPairingContact contact) actor
  · rw [same]
    exact contained
  · rw [left]
    obtain same | ⟨⟨item, selected⟩, spares⟩ :=
      Runtime.reconcileOutboxPairingContact_ok
        (fun item selected => (settles item selected).1) ran
    · rw [same]
      exact contained
    · exact ((settles item selected).2.trans spares).contained

theorem acceptWelcome_contained
    (confined : ∀ admitted, validateWelcomeEndpoint payload actor =
      (.ok (), admitted) → admitted.WelcomeConfined own payload) :
    Contained own actor.database.pairing
      (acceptWelcome payload actor).2.database.pairing := by
  have kept : (validateWelcomeEndpoint payload).Keeps
      (Stored (P := P) Database.SamePairing) := inferInstance
  have same := kept.run actor
  rcases valid : validateWelcomeEndpoint payload actor with ⟨outcome, next⟩
  rw [valid] at same
  rw [← show next.database.pairing = actor.database.pairing from same]
  cases outcome with
  | ok =>
    obtain ⟨binds, settles⟩ := confined next valid
    obtain ⟨after, ran, contained, spares⟩ := binds.run
    unfold boundTables at settles
    rw [ran] at settles
    refine acceptWelcome_end valid ran (fun _ => (refl _).contained) contained
      fun joins middle here => ?_
    rw [← here] at contained spares settles
    refine reconcile_contained contained fun item selected => ?_
    obtain ⟨isOwn, lone, alone⟩ := settles joins item selected
    exact ⟨⟨isOwn, lone⟩, spares alone⟩
  | err error =>
    rw [acceptWelcome, run_bind_err valid]
    exact (refl _).contained
  | crash =>
    rw [acceptWelcome, run_bind, valid]
    exact (refl _).contained

theorem handleRelayEnvelope_contained
    (confined : actor.Confined bridge ciphertext) :
    Contained bridge.text actor.database.pairing
      (handleRelayEnvelope (envelopeForPayload P bridge ciphertext)
        actor).2.database.pairing := by
  unfold handleRelayEnvelope
  unfold Confined at confined
  dsimp only [envelopeForPayload]
  cases decoded : P.decodeRelay ciphertext with
  | error error =>
    exact untouched (.next fun _ => inferInstance) (Spares.refl _).contained
  | ok payload =>
    rw [decoded] at confined
    cases payload with
    | pairingOffer pairingId payload =>
      cases parsed : P.parseInvite payload with
      | error error =>
        simp only [handleRelayPayload, parsed]
        exact (refl _).contained
      | ok invite =>
        obtain ⟨timely, own⟩ := confined invite parsed
        simp only [handleRelayPayload, parsed]
        exact receivePairingOffer_contained timely own
    | pairingRejected named =>
      cases parsed : P.parseUuid named with
      | error error =>
        simp only [handleRelayPayload, parsed]
        exact untouched inferInstance (refl _).contained
      | ok pairingId =>
        simp only [handleRelayPayload, parsed]
        exact applyPairingPeerOutcome_contained (confined pairingId parsed)
    | welcome payload =>
      refine untouched_bind inferInstance (refl _).contained
        fun _ _ checked _ => ?_
      obtain ⟨verified, rfl⟩ := check_ok checked
      exact acceptWelcome_contained fun admitted valid =>
        confined admitted ⟨verified, valid⟩
    | welcomeApplied | relationshipRemovalApplied | peerEndpointBootstrap =>
      exact untouched (.next fun _ => inferInstance) (Spares.refl _).contained

/-- An invite that one pairing mentions, which the bind brings into the pair. -/
structure BindsOne (payload : WelcomePayload) (actor : Actor P)
    (pairingId : String) : Prop where
  confined : BindConfined pairingId payload.inviteId
    (ownPairKey P payload.sender.installationId) actor.database.pairing
  first : ∀ other ∈ existingOutboxForPair actor.database.pairing
    (ownPairKey P payload.sender.installationId) payload.inviteId,
    pairingId ≤ other
  fresh : ∀ row, actor.database.pairing.outbox.lookup pairingId = some row →
    row.pairKey ≠ some (ownPairKey P payload.sender.installationId)

/-- Where a payload is contained only if it is confined: offers while no item is
overdue, and Welcomes that join nothing and bind one pairing at most. -/
def Decided (ciphertext : Bytes) (actor : Actor P) : Prop :=
  match P.decodeRelay ciphertext with
  | .ok (.pairingOffer _ _) =>
    Runtime.Timely actor.offerTime actor.database.pairing
  | .ok (.welcome payload) => ∀ admitted, actor.Admits payload admitted →
    ¬ admitted.Joins payload ∧ ∀ pairingId,
      Links admitted.database.pairing payload.inviteId pairingId →
        admitted.BindsOne payload pairingId
  | _ => True

theorem validateWelcomeEndpoint_ok
    (valid : validateWelcomeEndpoint payload actor = (.ok (), next)) :
    next.host.world = actor.host.world ∧ next.database = actor.database := by
  unfold validateWelcomeEndpoint at valid
  cases endpoint : payload.peerEndpoint with
  | none =>
    rw [endpoint] at valid
    cases valid
    exact ⟨rfl, rfl⟩
  | some endpoint' =>
    rw [endpoint] at valid
    obtain ⟨now, middle, read, valid⟩ := bind_ok valid
    cases read
    obtain ⟨_, _, checked, valid⟩ := bind_ok valid
    obtain ⟨_, rfl⟩ := check_ok checked
    split at valid
    · cases valid
    · cases valid
      exact ⟨rfl, rfl⟩

theorem WelcomeConfined.of_contained (quiet : actor.host.world.Quiet)
    (valid : validateWelcomeEndpoint payload actor = (.ok (), admitted))
    (stays : ¬ admitted.Joins payload)
    (one : ∀ pairingId,
      Links admitted.database.pairing payload.inviteId pairingId →
        admitted.BindsOne payload pairingId)
    (contained : Contained own actor.database.pairing
      (acceptWelcome payload actor).2.database.pairing) :
    admitted.WelcomeConfined own payload := by
  obtain ⟨sameWorld, sameDatabase⟩ := validateWelcomeEndpoint_ok valid
  rw [← sameDatabase] at contained
  refine ⟨?_, fun joins => absurd joins stays⟩
  by_cases unlinked : ∀ pairingId,
      ¬ Links admitted.database.pairing payload.inviteId pairingId
  · exact ⟨fun pairingId linked => absurd linked (unlinked pairingId),
      fun linked => absurd linked (unlinked own)⟩
  simp only [not_forall, not_not] at unlinked
  obtain ⟨pairingId, links⟩ := unlinked
  obtain ⟨confined, first, fresh⟩ := one pairingId links
  obtain ⟨ahead, after, ran, bound, _⟩ := exists_bound links confined.only first
  have left : after = (acceptWelcome payload actor).2.database.pairing :=
    acceptWelcome_end valid ran (fun loud => absurd (sameWorld ▸ quiet) loud) rfl
      fun joins => absurd joins stays
  rw [← left] at contained
  obtain rfl := bound.eq_own fresh contained
  exact confined

end Actor

def rejecting : Primitives :=
  { Primitives.plain "me" with
    decodeRelay := fun _ => .ok (.pairingRejected "7")
    parseUuid := fun _ => .ok 7 }

def expectant : Actor rejecting :=
  Actor.assemble rejecting
    { Database.empty with
      pairing :=
        (putPairingOutbox .empty waitingItem).toOption.getD .empty }
    .empty false none 0 (.initial (.calm 0))

end Torchat
