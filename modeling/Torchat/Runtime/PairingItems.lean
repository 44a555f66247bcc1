import Torchat.Runtime.Pairing

namespace Torchat.Pairing

theorem mergeInviteState_idempotent (stored remote : InviteState) :
    mergeInviteState (mergeInviteState stored remote) remote =
      mergeInviteState stored remote := by
  cases stored <;> cases remote <;> rfl

theorem mergeInviteState_terminal (terminal : stored.isOutstanding = false)
    (remote : InviteState) :
    (mergeInviteState stored remote).isOutstanding = false := by
  cases stored <;> cases remote <;> first | rfl | cases terminal

structure Extends (stored merged : PairingItem) : Prop where
  pairingId : merged.pairingId = stored.pairingId
  expiresAt : stored.expiresAt ≤ merged.expiresAt
  sender : ∀ sender, stored.sender = some sender → merged.sender = some sender
  capability : ∀ capability, stored.capability = some capability →
    capability ≠ "" → merged.capability = some capability
  offerInviteId : ∀ inviteId, stored.offerInviteId = some inviteId →
    merged.offerInviteId = some inviteId
  offerPayload : ∀ payload, stored.offerPayload = some payload →
    merged.offerPayload = some payload
  pairKey : ∀ key, stored.pairKey = some key → merged.pairKey = some key
  terminal : stored.state.isOutstanding = false →
    merged.state.isOutstanding = false

theorem mergePairingItem_extends (stored remote : PairingItem) :
    Extends stored (mergePairingItem (some stored) remote).item where
  pairingId := rfl
  expiresAt := le_max_left _ _
  sender := by
    intro sender present
    simp [mergePairingItem, normalizePairingItem, present]
  capability := by
    intro capability present nonempty
    simp [mergePairingItem, normalizePairingItem, present, nonempty]
  offerInviteId := by
    intro inviteId present
    simp [mergePairingItem, normalizePairingItem, present]
  offerPayload := by
    intro payload present
    simp [mergePairingItem, normalizePairingItem, present]
  pairKey := by
    intro key present
    simp [mergePairingItem, normalizePairingItem, present]
  terminal := fun terminal => mergeInviteState_terminal terminal remote.state

theorem mergePairingItem_idempotent
    (stored : Option PairingItem) (remote : PairingItem) :
    mergePairingItem (some (mergePairingItem stored remote).item) remote =
      ⟨(mergePairingItem stored remote).item, false, false⟩ := by
  cases stored with
  | none =>
    by_cases empty : remote.capability.getD "" = "" <;>
      simp [mergePairingItem, normalizePairingItem, mergeInviteState, empty]
  | some stored =>
    by_cases empty : stored.capability.getD "" = "" <;>
      simp [mergePairingItem, normalizePairingItem, empty, Option.or_assoc,
        mergeInviteState_idempotent]

def ids (items : List PairingItem) : List String :=
  items.map PairingItem.pairingId

theorem mergeRemoteItem_pairingId
    (items : List PairingItem) (remote : PairingItem) :
    (mergeRemoteItem items remote).item.pairingId = remote.pairingId := by
  unfold mergeRemoteItem
  cases found : items.find? fun item => item.pairingId = remote.pairingId with
  | none => rfl
  | some stored =>
    have same : stored.pairingId = remote.pairingId := by
      simpa using List.find?_some found
    exact same

def merged (items : List PairingItem) (remote : PairingItem) :
    List PairingItem :=
  (items.eraseP fun item => item.pairingId = remote.pairingId) ++
    [(mergeRemoteItem items remote).item]

theorem mergeRemoteItems_cons (items : List PairingItem) (remote : PairingItem)
    (rest : List PairingItem) :
    (mergeRemoteItems items (remote :: rest)).1 =
      (mergeRemoteItems (merged items remote) rest).1 := rfl

theorem ids_merged (items : List PairingItem) (remote : PairingItem) :
    ids (merged items remote) =
      (ids items).erase remote.pairingId ++ [remote.pairingId] := by
  simp only [ids, merged, List.map_append, List.map_cons, List.map_nil,
    mergeRemoteItem_pairingId, List.erase_eq_eraseP, List.eraseP_map]
  congr 3
  funext item
  simp [eq_comm, beq_eq_decide]

theorem mem_ids_merged
    (distinct : (ids items).Nodup) (remote : PairingItem) (pairingId : String) :
    pairingId ∈ ids (merged items remote) ↔
      pairingId ∈ ids items ∨ pairingId = remote.pairingId := by
  rw [ids_merged, List.mem_append, distinct.mem_erase_iff, List.mem_singleton]
  tauto

theorem ids_merged_nodup (distinct : (ids items).Nodup) (remote : PairingItem) :
    (ids (merged items remote)).Nodup := by
  rw [ids_merged, List.nodup_append]
  refine ⟨distinct.erase _, List.nodup_singleton _, ?_⟩
  intro first fromItems second last same
  cases List.mem_singleton.mp last
  exact (distinct.mem_erase_iff.mp fromItems).1 same

theorem mem_merged_of_ne (other : item.pairingId ≠ remote.pairingId)
    (items : List PairingItem) : item ∈ merged items remote ↔ item ∈ items := by
  have notMerged : item ≠ (mergeRemoteItem items remote).item := by
    intro same
    exact other (same ▸ mergeRemoteItem_pairingId items remote)
  simp [merged, List.mem_eraseP_of_neg, other, notMerged]

def stored (pairingId : String) (items : List PairingItem) :
    Option PairingItem :=
  items.find? fun item => item.pairingId = pairingId

theorem stored_eq_some_iff (distinct : (ids items).Nodup) :
    stored pairingId items = some item ↔
      item ∈ items ∧ item.pairingId = pairingId := by
  constructor
  · intro found
    exact ⟨List.mem_of_find?_eq_some found, by simpa using List.find?_some found⟩
  · rintro ⟨member, rfl⟩
    cases found : stored item.pairingId items with
    | none => simpa using List.find?_eq_none.mp found item member
    | some other =>
      have same : other.pairingId = item.pairingId := by
        simpa using List.find?_some found
      rw [List.inj_on_of_nodup_map distinct (List.mem_of_find?_eq_some found)
        member same]

theorem stored_merged (distinct : (ids items).Nodup) (remote : PairingItem) :
    stored pairingId (merged items remote) =
      if remote.pairingId = pairingId then
        some (mergePairingItem (stored pairingId items) remote).item
      else
        stored pairingId items := by
  apply Option.ext
  intro item
  rw [stored_eq_some_iff (ids_merged_nodup distinct remote)]
  split
  · rename_i same
    subst same
    rw [Option.some.injEq]
    constructor
    · rintro ⟨member, same⟩
      refine (List.inj_on_of_nodup_map (ids_merged_nodup distinct remote) member
        (List.mem_append_right _ (List.mem_singleton_self _)) ?_).symm
      rw [same, mergeRemoteItem_pairingId]
    · rintro rfl
      exact ⟨List.mem_append_right _ (List.mem_singleton_self _),
        mergeRemoteItem_pairingId items remote⟩
  · rename_i other
    rw [stored_eq_some_iff distinct]
    refine and_congr_left fun same => mem_merged_of_ne ?_ items
    rw [same]
    exact Ne.symm other

/-- Under each id stands what the remote items of that id, merged one after the
other, make of the stored item. -/
structure Joins (items remote merged : List PairingItem) : Prop where
  distinct : (ids merged).Nodup
  ids : ∀ pairingId, pairingId ∈ ids merged ↔
    pairingId ∈ ids items ∨ pairingId ∈ ids remote
  untouched : ∀ item : PairingItem, item.pairingId ∉ Pairing.ids remote →
    (item ∈ merged ↔ item ∈ items)
  merges : ∀ pairingId, stored pairingId merged =
    (remote.filter fun theirs => theirs.pairingId = pairingId).foldl
      (fun stored theirs => some (mergePairingItem stored theirs).item)
      (stored pairingId items)

theorem mergeRemoteItems_joins
    (distinct : (ids items).Nodup) (remote : List PairingItem) :
    Joins items remote (mergeRemoteItems items remote).1 := by
  induction remote generalizing items with
  | nil =>
    exact ⟨distinct, fun _ => by simp [mergeRemoteItems, ids], fun _ _ => .rfl,
      fun _ => rfl⟩
  | cons first rest induction =>
    have joins := induction (ids_merged_nodup distinct first)
    rw [← mergeRemoteItems_cons] at joins
    refine ⟨joins.distinct, ?_, ?_, ?_⟩
    · intro pairingId
      rw [joins.ids, mem_ids_merged distinct]
      simp only [ids, List.map_cons, List.mem_cons]
      tauto
    · intro item absent
      simp only [ids, List.map_cons, List.mem_cons, not_or] at absent
      rw [joins.untouched item absent.2, mem_merged_of_ne absent.1]
    · intro pairingId
      rw [joins.merges, stored_merged distinct, List.filter_cons]
      split
      · rename_i same
        rw [if_pos (decide_eq_true same), List.foldl_cons]
      · rename_i other
        rw [if_neg (by simpa using other)]

theorem remote_items_are_merged
    (items remote : List PairingItem) (distinct : (ids items).Nodup) :
    Joins items remote (mergeRemoteItems items remote).1 ∧
      (∀ stored theirs,
        Extends stored (mergePairingItem (some stored) theirs).item) ∧
      ∀ stored theirs, mergePairingItem
        (some (mergePairingItem (some stored) theirs).item) theirs =
          ⟨(mergePairingItem (some stored) theirs).item, false, false⟩ :=
  ⟨mergeRemoteItems_joins distinct remote, mergePairingItem_extends,
    fun stored => mergePairingItem_idempotent (some stored)⟩

def sampleItem
    (pairingId : String) (sender : Option ContactRecord) : PairingItem where
  pairingId := pairingId
  pairKey := none
  sender := sender
  capability := some "capability"
  expiresAt := 100
  state := .pending
  received := false
  availableActions := [.cancel]
  offerInviteId := none
  offerPayload := none

theorem remote_items_are_merged_into_one :
    let items := [sampleItem "first" none]
    let remote := [sampleItem "second" none, sampleItem "first" none]
    (ids items).Nodup ∧ Joins items remote (mergeRemoteItems items remote).1 :=
  ⟨by decide, (remote_items_are_merged _ _ (by decide)).1⟩

def outstandingItems (items : List PairingItem) : List PairingItem :=
  items.filter fun item => item.state.isOutstanding

def completedFor (contact : ContactRecord) (item : PairingItem) : PairingItem :=
  normalizePairingItem { item with sender := some contact, state := .completed }

/-- The items that are completed belong to the pairing, and no item of another
peer is among them. -/
structure ReconcilesOwn (items : List PairingItem) (contact : ContactRecord)
    (installationId : InstallationId) : Prop where
  own : ∀ written ∈ reconcileOutboxItems items contact installationId,
    ∃ item ∈ outstandingItems items, written = completedFor contact item ∧
      (boundTo item installationId = true ∨
        outstandingItems items = [item] ∧ item.sender = none)
  others : ∀ item ∈ items, ∀ sender, item.sender = some sender →
    sender.installationId ≠ installationId →
      ∀ written ∈ reconcileOutboxItems items contact installationId,
        written.pairingId ≠ item.pairingId

theorem reconcileOutboxItem_eq_some (contact : ContactRecord)
    (installationId : InstallationId) (repair : Bool)
    (outstanding : item.state.isOutstanding = true) :
    reconcileOutboxItem item contact installationId repair = some written ↔
      written = completedFor contact item ∧
        (boundTo item installationId = true ∨ repair = true) := by
  cases bound : boundTo item installationId <;> cases repair <;>
    simp [reconcileOutboxItem, outstanding, bound, completedFor, eq_comm]

theorem sole_unmatched_iff
    (member : item ∈ items) (unmatched : boundTo item installationId = false) :
    (items.countP (boundTo · installationId) = 0 ∧ items.length = 1) ↔
      items = [item] := by
  constructor
  · rintro ⟨-, single⟩
    obtain ⟨other, rfl⟩ := List.length_eq_one_iff.mp single
    rw [List.mem_singleton.mp member]
  · rintro rfl
    simp [unmatched]

theorem mem_reconcileOutboxItems :
    written ∈ reconcileOutboxItems items contact installationId ↔
      ∃ item ∈ outstandingItems items, written = completedFor contact item ∧
        (boundTo item installationId = true ∨
          outstandingItems items = [item]) := by
  change written ∈ (outstandingItems items).filterMap _ ↔ _
  rw [List.mem_filterMap]
  refine exists_congr fun item => and_congr_right fun member => ?_
  rw [reconcileOutboxItem_eq_some _ _ _ (List.mem_filter.mp member).2]
  refine and_congr_right fun _ => ?_
  cases bound : boundTo item installationId with
  | true => simp
  | false =>
    rw [← sole_unmatched_iff member bound]
    simp [outstandingItems]

theorem reconciliation_stays_with_its_pairing_iff
    (items : List PairingItem) (contact : ContactRecord)
    (installationId : InstallationId) (distinct : (ids items).Nodup) :
    ReconcilesOwn items contact installationId ↔
      ∀ item sender, outstandingItems items = [item] →
        item.sender = some sender → sender.installationId = installationId := by
  constructor
  · intro reconciles item sender sole bound
    by_contra elsewhere
    have member : item ∈ outstandingItems items := by simp [sole]
    refine reconciles.others item (List.mem_filter.mp member).1 sender bound
      elsewhere (completedFor contact item) ?_ rfl
    exact mem_reconcileOutboxItems.mpr ⟨item, member, rfl, .inr sole⟩
  · intro condition
    constructor
    · intro written found
      obtain ⟨item, member, same, matched | sole⟩ :=
        mem_reconcileOutboxItems.mp found
      · exact ⟨item, member, same, .inl matched⟩
      · refine ⟨item, member, same, ?_⟩
        cases bound : item.sender with
        | none => exact .inr ⟨sole, rfl⟩
        | some sender =>
          exact .inl (by simp [boundTo, bound, condition item sender sole bound])
    · intro item stored sender bound elsewhere written found same
      obtain ⟨other, member, rfl, matched⟩ := mem_reconcileOutboxItems.mp found
      cases List.inj_on_of_nodup_map distinct (List.mem_filter.mp member).1
        stored same
      rcases matched with matched | sole
      · simp [boundTo, bound, elsewhere] at matched
      · exact elsewhere (condition item sender sole bound)

def aPeer (installationId : InstallationId) : ContactRecord :=
  ⟨installationId, installationId, "key", "fingerprint", none, false, false,
    .unverified, .peerOnly⟩

theorem reconciliation_completes_the_sole_unbound_request :
    let items := [sampleItem "first" none]
    (ids items).Nodup ∧ ReconcilesOwn items (aPeer "alice") "alice" :=
  ⟨by decide, (reconciliation_stays_with_its_pairing_iff _ _ _ (by decide)).mpr
    fun item sender sole bound => by
      cases (List.cons.inj sole).1
      cases bound⟩

theorem reconciliation_completes_a_request_to_another_peer :
    let items := [sampleItem "first" (some (aPeer "bob"))]
    reconcileOutboxItems items (aPeer "alice") "alice" =
        items.map (completedFor (aPeer "alice")) ∧
      ¬ReconcilesOwn items (aPeer "alice") "alice" :=
  ⟨by decide, fun reconciles =>
    reconciles.others _ (.head _) _ rfl (by decide) _ (.head _) rfl⟩

end Torchat.Pairing
