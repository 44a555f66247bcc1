import Torchat.Storage.PairingFacts

namespace Torchat.Storage

open Foundation

structure Spares (own : String) (before after : PairingTables) : Prop where
  inbox : ∀ pairingId, pairingId ≠ own →
    after.inbox.lookup pairingId = before.inbox.lookup pairingId
  outbox : ∀ pairingId, pairingId ≠ own →
    after.outbox.lookup pairingId = before.outbox.lookup pairingId

theorem Spares.refl (tables : PairingTables) : Spares own tables tables :=
  ⟨fun _ _ => rfl, fun _ _ => rfl⟩

theorem Spares.trans (first : Spares own before middle)
    (second : Spares own middle after) : Spares own before after :=
  ⟨fun pairingId other =>
    (second.inbox pairingId other).trans (first.inbox pairingId other),
   fun pairingId other =>
    (second.outbox pairingId other).trans (first.outbox pairingId other)⟩

/-- A row gave way to another pairing: only its state differs, and the other is
now the active item of its pair. -/
structure RetiredFor (own : String) (after : PairingTables)
    (state : InviteState) (row later : PairingRow δ) : Prop where
  active : row.active = true
  retired : later = { row with state := state }
  displaced : ∃ pairKey, row.pairKey = some pairKey ∧ ActiveIn after own pairKey

def RowsContained (own : String) (after : PairingTables) (state : InviteState)
    (old new : PairingTable δ) : Prop :=
  ∀ pairingId, pairingId ≠ own →
    new.lookup pairingId = old.lookup pairingId ∨
    ∃ row later, old.lookup pairingId = some row ∧
      new.lookup pairingId = some later ∧ RetiredFor own after state row later

/-- No item of another pairing changed, except that items of the same pair made
way for this one. -/
structure Contained (own : String) (before after : PairingTables) : Prop where
  inbox : RowsContained own after .archived before.inbox after.inbox
  outbox : RowsContained own after .cancelled before.outbox after.outbox

theorem Spares.contained (spares : Spares own before after) :
    Contained own before after :=
  ⟨fun pairingId other => .inl (spares.inbox pairingId other),
    fun pairingId other => .inl (spares.outbox pairingId other)⟩

section

variable {new : PairingTable δ}

theorem RowsContained.of_map {f : String → PairingRow δ → PairingRow δ}
    (found : ∀ target, target ≠ own →
      new.lookup target = (old.lookup target).map (f target))
    (kept : ∀ target row, target ≠ own → old.lookup target = some row →
      f target row = row ∨ RetiredFor own after state row (f target row)) :
    RowsContained own after state old new := by
  intro target other
  rw [found target other]
  cases held : old.lookup target with
  | none => exact .inl rfl
  | some row =>
    obtain same | gone := kept target row other held
    · exact .inl (congrArg some same)
    · exact .inr ⟨row, _, rfl, rfl, gone⟩

theorem RowsContained.gone (contained : RowsContained own after state old new)
    (other : target ≠ own) (found : old.lookup target = some row)
    (now : new.lookup target = some later) (changed : later ≠ row) :
    RetiredFor own after state row later := by
  obtain same | ⟨_, _, held, stored, gone⟩ := contained target other
  · rw [now, found] at same
    exact absurd (Option.some.inj same) changed
  · rw [found] at held
    rw [now] at stored
    cases held
    cases stored
    exact gone

theorem rowsContained_of_retired (active : ActiveIn after own pairKey)
    (found : ∀ target, target ≠ own → new.lookup target =
      (old.lookup target).map (retiredRow state pairKey own target)) :
    RowsContained own after state old new :=
  .of_map found fun target row _ _ =>
    (retiredRow_cases state pairKey own target row).imp id
      fun ⟨wasActive, keyed, retired⟩ =>
        ⟨wasActive, retired, pairKey, keyed, active⟩

end

theorem PairingRow.ne_of_inactive {row later : PairingRow δ}
    (active : row.active = true) (inactive : later.active = false) :
    later ≠ row := by
  rintro rfl
  rw [active] at inactive
  cases inactive

/-! ## Putting an item -/

/-- Once an incoming item is put, its pairing is the active item of its pair. -/
def Stands (item : PairingItem) (tables : PairingTables) : Prop :=
  item.state.isOutstanding = true ∨
    ∃ row, tables.outbox.lookup item.pairingId = some row ∧ row.active = true ∧
      row.pairKey = item.pairKey

/-- Whatever an incoming item displaces is of its pair, and it takes that
place. -/
structure PutConfined (item : PairingItem) (tables : PairingTables) :
    Prop where
  rivals : ∀ other row, other ≠ item.pairingId →
    tables.inbox.lookup other = some row → row.active = true →
    row.pairKey = item.pairKey → Stands item tables
  crossing : ∀ other row, other ≠ item.pairingId →
    tables.outbox.lookup other = some row → row.active = true →
    row.details.recipientInstallationId =
      item.sender.map ContactRecord.installationId →
    row.pairKey = item.pairKey ∧ Stands item tables

theorem putPairingInbox_contained_iff
    (hasSender : item.sender = some sender)
    (hasCapability : item.capability = some capability)
    (hasKey : item.pairKey = some pairKey)
    (current : tables.outbox.hasSuperseded pairKey item.pairingId = false)
    (put : putPairingInbox tables item = .ok after) :
    Contained item.pairingId tables after ↔ PutConfined item tables := by
  obtain ⟨stored, done, outbox, inbox⟩ :=
    putPairingInbox_ok hasSender hasCapability hasKey current
  rw [put] at done
  cases done
  have leads : ActiveIn after item.pairingId pairKey ↔ Stands item tables := by
    have kept : after.outbox.lookup item.pairingId =
        tables.outbox.lookup item.pairingId := by
      rw [outbox]
      cases tables.outbox.lookup item.pairingId <;> simp [crossedOutboxRow]
    rw [ActiveIn, kept, inbox, if_pos rfl, Stands, hasKey]
    simp [inboxRow, PairingRow.active, hasKey]
  constructor
  · refine fun contained => ⟨fun other row foreign found active keyed => ?_,
      fun other row foreign found active crosses => ?_⟩
    · rw [hasKey] at keyed
      have archived := inbox other
      rw [if_neg foreign, found, Option.map_some,
        retiredRow_of_selected active keyed foreign] at archived
      obtain ⟨_, sameKey, stands⟩ := (contained.inbox.gone foreign found archived
        (PairingRow.ne_of_inactive active rfl)).displaced
      rw [keyed] at sameKey
      cases sameKey
      exact leads.mp stands
    · rw [hasSender] at crosses
      have cancelled := outbox other
      rw [found, Option.map_some, crossedOutboxRow_of_selected crosses foreign
        active] at cancelled
      have gone := contained.outbox.gone foreign found cancelled
        (PairingRow.ne_of_inactive active rfl)
      obtain ⟨_, sameKey, stands⟩ := gone.displaced
      have keyed : some pairKey = row.pairKey :=
        congrArg PairingRow.pairKey gone.retired
      rw [← keyed] at sameKey
      cases sameKey
      exact ⟨keyed.symm.trans hasKey.symm, leads.mp stands⟩
  · intro confined
    constructor
    · refine .of_map (fun target other => (inbox target).trans (if_neg other))
        fun target row other found => ?_
      refine (retiredRow_cases .archived pairKey item.pairingId target row).imp
        id fun gone => ⟨gone.1, gone.2.2, pairKey, gone.2.1, ?_⟩
      exact leads.mpr (confined.rivals target row other found gone.1
        (gone.2.1.trans hasKey.symm))
    · refine .of_map (fun target _ => outbox target)
        fun target row other found => ?_
      by_cases crosses : row.details.recipientInstallationId =
          some sender.installationId ∧ row.active = true
      · rw [crossedOutboxRow_of_selected crosses.1 other crosses.2]
        obtain ⟨keyed, stands⟩ := confined.crossing target row other found
          crosses.2 (by rw [crosses.1, hasSender]; rfl)
        rw [hasKey] at keyed
        exact .inr ⟨crosses.2, by rw [keyed], pairKey, keyed, leads.mpr stands⟩
      · exact .inl (if_neg (by simp_all))

/-- Of the active items only `own` may have the pair key. -/
def Lone (own : String) (pairKey : Option String) (tables : PairingTables) :
    Prop :=
  ∀ key, pairKey = some key → ∀ other, ActiveIn tables other key → other = own

theorem map_retiredRow {table : PairingTable δ}
    (alone : ∀ row, table.lookup target = some row → row.active = true →
      row.pairKey = some pairKey → target = own) :
    (table.lookup target).map (retiredRow state pairKey own target) =
      table.lookup target := by
  cases found : table.lookup target with
  | none => rfl
  | some row =>
    obtain same | ⟨active, keyed, _⟩ :=
      retiredRow_cases state pairKey own target row
    · rw [Option.map_some, same]
    · rw [alone row found active keyed, Option.map_some, retiredRow_self]

theorem Lone.inbox (lone : Lone own (some pairKey) tables) (target : String) :
    (tables.inbox.lookup target).map (retiredRow state pairKey own target) =
      tables.inbox.lookup target :=
  map_retiredRow fun row found active keyed =>
    lone pairKey rfl target (.inl ⟨row, found, active, keyed⟩)

theorem Lone.outbox (lone : Lone own (some pairKey) tables) (target : String) :
    (tables.outbox.lookup target).map (retiredRow state pairKey own target) =
      tables.outbox.lookup target :=
  map_retiredRow fun row found active keyed =>
    lone pairKey rfl target (.inr ⟨row, found, active, keyed⟩)

theorem Lone.of_spares (lone : Lone own key before)
    (spares : Spares own before after) : Lone own key after := by
  intro pairKey has other active
  by_contra foreign
  rw [ActiveIn, spares.inbox other foreign, spares.outbox other foreign] at active
  exact foreign (lone pairKey has other active)

theorem putPairingOutbox_spares
    (lone : Lone item.pairingId item.pairKey tables)
    (done : putPairingOutbox tables item = .ok tables') :
    Spares item.pairingId tables tables' := by
  cases key : item.pairKey with
  | none =>
    obtain ⟨stored, put, inbox, outbox⟩ := putPairingOutbox_unkeyed tables key
    rw [put] at done
    cases done
    exact ⟨fun target _ => by rw [inbox],
      fun target other => by rw [outbox, if_neg other]⟩
  | some pairKey =>
    rw [key] at lone
    cases superseded : tables.inbox.hasSuperseded pairKey item.pairingId with
    | true =>
      rw [putPairingOutbox_superseded key superseded] at done
      cases done
      exact .refl tables
    | false =>
      obtain ⟨stored, put, inbox, outbox⟩ :=
        putPairingOutbox_ok key superseded
      rw [put] at done
      cases done
      exact ⟨fun target _ => by rw [inbox, lone.inbox],
        fun target other => by rw [outbox, if_neg other, lone.outbox]⟩

/-! ## Binding a pair key

The statements select by invite and by pair key, never by the pairing that the
Welcome came through. -/

/-- Where an invite is mentioned at all, it is by `own`, and `own` gives way to
no incoming item while it displaces an outgoing one. -/
structure BindConfined (own inviteId pairKey : String)
    (tables : PairingTables) : Prop where
  only : ∀ pairingId, Links tables inviteId pairingId → pairingId = own
  unbeaten : Links tables inviteId own → ∀ other row, other ≠ own →
    tables.outbox.lookup other = some row → row.active = true →
    row.pairKey = some pairKey →
    tables.inbox.hasSuperseded pairKey own = false

theorem cancelOutboxForInvite_spares
    (only : ∀ pairingId, Links tables inviteId pairingId → pairingId = own) :
    ∃ after, cancelOutboxForInvite inviteId tables = .ok after ∧
      Spares own tables after := by
  obtain ⟨outbox, retired, found⟩ := tables.outbox.retire_ok
    InviteState.isOutstanding_cancelled fun _ row => row.details.mentions inviteId
  refine ⟨{ tables with outbox := outbox }, ?_, fun _ _ => rfl,
    fun target other => ?_⟩
  · rw [cancelOutboxForInvite, retired]
    rfl
  · rw [found]
    cases held : tables.outbox.lookup target with
    | none => rfl
    | some row =>
      rw [Option.map_some, if_neg]
      rw [Bool.and_eq_true]
      exact fun linked => other (only target ⟨row, held, linked⟩)

/-- The least of the pair: `own`, or the one incoming item before it. -/
theorem exists_bound (links : Links tables inviteId own)
    (only : ∀ pairingId, Links tables inviteId pairingId → pairingId = own)
    (first : ∀ other ∈ existingOutboxForPair tables pairKey inviteId,
      own ≤ other) :
    ∃ ahead after,
      bindPairingOutboxPairKey inviteId pairKey tables = (.ok (), after) ∧
      Bound own ahead inviteId pairKey tables after ∧
      if tables.inbox.hasSuperseded pairKey own then
        ∀ other row, tables.inbox.lookup other = some row →
          row.active = true → row.pairKey = some pairKey → other = ahead
      else ahead = own := by
  split
  · rename_i beaten
    obtain ⟨ahead, row, found, keyed, less, active⟩ :=
      PairingTable.hasSuperseded_iff.mp beaten
    have alone (other : String) (rival : PairingRow InboxDetails)
        (rivalFound : tables.inbox.lookup other = some rival)
        (rivalActive : rival.active = true)
        (rivalKeyed : rival.pairKey = some pairKey) : other = ahead :=
      tables.inbox.lookup_injective rivalFound found
        (PairingRow.indexed_of_active rivalActive rivalKeyed)
        (PairingRow.indexed_of_active active keyed)
    obtain ⟨after, ran, bound⟩ := bindPairingOutboxPairKey_bound links only first
      less.le (fun other rival found active keyed =>
        (alone other rival found active keyed).ge)
      (.inr ⟨row, found, active, keyed⟩)
    exact ⟨ahead, after, ran, bound, alone⟩
  · rename_i unbeaten
    obtain ⟨after, ran, bound⟩ := bindPairingOutboxPairKey_bound links only first
      le_rfl (fun other rival found active keyed => not_lt.mp fun less =>
        unbeaten (PairingTable.hasSuperseded_iff.mpr
          ⟨other, rival, found, keyed, less, active⟩)) (.inl rfl)
    exact ⟨own, after, ran, bound, rfl⟩

theorem Bound.eq_own (bound : Bound pairingId ahead inviteId pairKey before after)
    (fresh : ∀ row, before.outbox.lookup pairingId = some row →
      row.pairKey ≠ some pairKey)
    (contained : Contained own before after) : pairingId = own := by
  obtain ⟨row, found, _, _, now⟩ := bound.bound
  by_contra foreign
  have keyed : (retiredRow .cancelled pairKey ahead pairingId
      { row with pairKey := some pairKey }).pairKey = some pairKey := by
    unfold retiredRow
    split <;> rfl
  have gone := contained.outbox.gone foreign found now
    fun same => fresh row found (by rw [← same]; exact keyed)
  rw [gone.retired] at keyed
  exact fresh row found keyed

theorem BindConfined.bound (confined : BindConfined own inviteId pairKey tables)
    (links : Links tables inviteId own)
    (first : ∀ other ∈ existingOutboxForPair tables pairKey inviteId,
      own ≤ other) :
    ∃ after, bindPairingOutboxPairKey inviteId pairKey tables = (.ok (), after) ∧
      Contained own tables after ∧
      (Lone own (some pairKey) tables → Spares own tables after) := by
  obtain ⟨ahead, after, ran, ⟨inbox, outbox, row, _, active, _, now⟩, least⟩ :=
    exists_bound links confined.only first
  refine ⟨after, ran, ?_⟩
  split at least
  · rename_i beaten
    have spares : Spares own tables after := by
      refine ⟨fun target _ => (inbox target).trans (map_retiredRow
        (least target)), fun target other => (outbox target other).trans
          (map_retiredRow fun rival found active keyed => ?_)⟩
      have unbeaten := confined.unbeaten links target rival other found active
        keyed
      rw [beaten] at unbeaten
      cases unbeaten
    exact ⟨spares.contained, fun _ => spares⟩
  · subst least
    rw [retiredRow_self] at now
    have leads : ActiveIn after ahead pairKey := .inr ⟨_, now, active, rfl⟩
    exact ⟨⟨rowsContained_of_retired leads fun target _ => inbox target,
        rowsContained_of_retired leads outbox⟩,
      fun lone => ⟨fun target _ => (inbox target).trans (lone.inbox target),
        fun target other => (outbox target other).trans (lone.outbox target)⟩⟩

theorem BindConfined.run (confined : BindConfined own inviteId pairKey tables) :
    ∃ after, bindPairingOutboxPairKey inviteId pairKey tables = (.ok (), after) ∧
      Contained own tables after ∧
      ((Links tables inviteId own → Lone own (some pairKey) tables) →
        Spares own tables after) := by
  by_cases links : Links tables inviteId own
  · by_cases first : ∀ other ∈ existingOutboxForPair tables pairKey inviteId,
        own ≤ other
    · obtain ⟨after, ran, contained, spares⟩ := confined.bound links first
      exact ⟨after, ran, contained, fun lone => spares (lone links)⟩
    · simp only [not_forall, not_le] at first
      obtain ⟨other, existing, less⟩ := first
      obtain ⟨after, cancelled, spares⟩ :=
        cancelOutboxForInvite_spares confined.only
      refine ⟨after, ?_, spares.contained, fun _ => spares⟩
      unfold bindPairingOutboxPairKey
      rw [run_bind_ok (run_read _ _), candidate_eq links confined.only]
      dsimp only
      rw [run_bind_ok (run_read _ _), existing]
      dsimp only
      rw [if_pos (by rw [min_eq_left less.le]; exact less.ne),
        run_execute_ok cancelled]
  · refine ⟨tables, bindPairingOutboxPairKey_unlinked fun pairingId linked => ?_,
      (Spares.refl tables).contained, fun _ => .refl tables⟩
    rw [confined.only pairingId linked] at linked
    exact links linked

end Torchat.Storage
