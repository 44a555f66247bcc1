import Torchat.Storage.Pairing

namespace Torchat.Storage

open Foundation

theorem PairingRow.pairKey_of_indexed {row : PairingRow δ}
    (indexed : row.indexed = some key) : row.pairKey = some key := by
  unfold PairingRow.indexed at indexed
  split at indexed
  · exact indexed
  · cases indexed

namespace PairingTable

theorem lookup_injective (table : PairingTable δ)
    (leftFound : table.lookup left = some leftRow)
    (rightFound : table.lookup right = some rightRow)
    (leftKey : leftRow.indexed = some pairKey)
    (rightKey : rightRow.indexed = some pairKey) : left = right :=
  Table.nodup_filterMap_values_iff.mp table.uniqueActivePair left right
    leftRow rightRow pairKey leftFound rightFound leftKey rightKey

/-- Only the row `own` of `rows` may carry a key that it does not carry in the
table, and then no other row has that key. -/
theorem write_ok
    (table : PairingTable δ) {rows : Table String (PairingRow δ)} (own : String)
    (others : ∀ pairingId row key, pairingId ≠ own →
      rows.lookup pairingId = some row → row.indexed = some key →
      ∃ old, table.lookup pairingId = some old ∧ old.indexed = some key)
    (free : ∀ pairingId row ownRow key, pairingId ≠ own →
      rows.lookup pairingId = some row → row.indexed = some key →
      rows.lookup own = some ownRow → ownRow.indexed ≠ some key) :
    ∃ table', write rows = .ok table' ∧ ∀ pairingId,
      table'.lookup pairingId = rows.lookup pairingId := by
  have nodup : (rows.values.filterMap PairingRow.indexed).Nodup := by
    refine Table.nodup_filterMap_values_iff.mpr ?_
    intro left right leftRow rightRow key leftFound rightFound leftKey rightKey
    by_cases leftOwn : left = own
    · subst leftOwn
      by_contra differs
      exact free right rightRow leftRow key (Ne.symm differs) rightFound rightKey
        leftFound leftKey
    · by_cases rightOwn : right = own
      · subst rightOwn
        exact absurd rightKey
          (free left leftRow rightRow key leftOwn leftFound leftKey rightFound)
      · obtain ⟨_, leftOld, leftOldKey⟩ :=
          others left leftRow key leftOwn leftFound leftKey
        obtain ⟨_, rightOld, rightOldKey⟩ :=
          others right rightRow key rightOwn rightFound rightKey
        exact table.lookup_injective leftOld rightOld leftOldKey rightOldKey
  exact ⟨⟨rows, nodup⟩, by simp [write, nodup], fun _ => rfl⟩

theorem write_update_ok (table : PairingTable δ)
    (f : String → PairingRow δ → PairingRow δ) (own : String)
    (shrinks : ∀ pairingId row, table.lookup pairingId = some row →
      (f pairingId row).indexed = none ∨
        (f pairingId row).indexed = row.indexed ∨
        pairingId = own ∧ ∀ key, (f pairingId row).indexed = some key →
          ∀ other row, other ≠ own → table.lookup other = some row →
            row.indexed ≠ some key) :
    ∃ table', write (table.rows.update f) = .ok table' ∧
      ∀ pairingId,
        table'.lookup pairingId = (table.lookup pairingId).map (f pairingId) := by
  have others : ∀ pairingId row key, pairingId ≠ own →
      (table.rows.update f).lookup pairingId = some row →
      row.indexed = some key →
      ∃ old, table.lookup pairingId = some old ∧ old.indexed = some key := by
    intro pairingId row key differs found indexed
    rw [Table.lookup_update, Option.map_eq_some_iff] at found
    obtain ⟨old, oldFound, rfl⟩ := found
    refine ⟨old, oldFound, ?_⟩
    rcases shrinks pairingId old oldFound with gone | same | ⟨rfl, -⟩
    · rw [gone] at indexed
      cases indexed
    · rwa [← same]
    · exact absurd rfl differs
  obtain ⟨table', written, rows⟩ := table.write_ok own others (by
    intro pairingId row ownRow key differs found indexed ownFound ownKey
    obtain ⟨old, oldFound, oldKey⟩ :=
      others pairingId row key differs found indexed
    rw [Table.lookup_update, Option.map_eq_some_iff] at ownFound
    obtain ⟨ownOld, ownOldFound, rfl⟩ := ownFound
    rcases shrinks own ownOld ownOldFound with gone | same | ⟨-, free⟩
    · rw [gone] at ownKey
      cases ownKey
    · rw [same] at ownKey
      exact differs (table.lookup_injective oldFound ownOldFound oldKey ownKey)
    · exact free key ownKey pairingId old differs oldFound oldKey)
  refine ⟨table', written, fun pairingId => ?_⟩
  rw [rows, Table.lookup_update]
  rfl

theorem retire_ok (table : PairingTable δ)
    (retired : state.isOutstanding = false)
    (selected : String → PairingRow δ → Bool) :
    ∃ table', table.retire state selected = .ok table' ∧
      ∀ pairingId,
        table'.lookup pairingId = (table.lookup pairingId).map fun row =>
            if row.active && selected pairingId row then
              { row with state := state }
            else row := by
  apply table.write_update_ok _ ""
  intro pairingId row _
  split
  · left
    simp [PairingRow.indexed, PairingRow.active, retired]
  · exact .inr (.inl rfl)

theorem hasSuperseded_iff {table : PairingTable δ} :
    table.hasSuperseded pairKey pairingId = true ↔
      ∃ other row, table.lookup other = some row ∧
        row.pairKey = some pairKey ∧ other < pairingId ∧
        row.active = true := by
  simp only [hasSuperseded, List.any_eq_true, Prod.exists, Bool.and_eq_true,
    decide_eq_true_eq, PairingRow.keyed, lookup, Table.lookup_eq_some_iff,
    and_assoc]

/-- No other row of the table stands in the index under that key. -/
def FreeFor (own : String) (key : Option String) (table : PairingTable δ) :
    Prop :=
  ∀ other row pairKey, other ≠ own → table.lookup other = some row →
    row.indexed = some pairKey → key ≠ some pairKey

theorem write_insert_ok
    (table : PairingTable δ) (pairingId : String) (row : PairingRow δ)
    (free : table.FreeFor pairingId row.pairKey) :
    ∃ table', write (table.rows.insert pairingId row) = .ok table' ∧
      ∀ target,
        table'.lookup target =
          if target = pairingId then some row else table.lookup target := by
  have kept : ∀ other otherRow, other ≠ pairingId →
      (table.rows.insert pairingId row).lookup other = some otherRow →
      table.lookup other = some otherRow := by
    intro other otherRow differs found
    rwa [Table.lookup_insert, if_neg differs] at found
  obtain ⟨table', written, rows⟩ := table.write_ok pairingId
    (fun other otherRow key differs found indexed =>
      ⟨otherRow, kept other otherRow differs found, indexed⟩)
    (by
      intro other otherRow ownRow key differs found indexed ownFound ownKey
      rw [Table.lookup_insert, if_pos rfl] at ownFound
      cases ownFound
      exact free other otherRow key differs (kept other otherRow differs found)
        indexed (PairingRow.pairKey_of_indexed ownKey))
  refine ⟨table', written, fun target => ?_⟩
  rw [rows, Table.lookup_insert]
  rfl

end PairingTable

/-! ## The two puts

Neither put ever fails on the index: the rows that could clash are retired
first. -/

theorem upsertPairingInbox_ok (tables : PairingTables) (item : PairingItem)
    (sender : ContactRecord) (capability : String)
    (free : tables.inbox.FreeFor item.pairingId item.pairKey) :
    ∃ tables', upsertPairingInbox tables item sender capability = .ok tables' ∧
      tables'.outbox = tables.outbox ∧
      ∀ target,
        tables'.inbox.lookup target =
          if target = item.pairingId then
            some (inboxRow (tables.inbox.lookup item.pairingId) item sender
              capability)
          else tables.inbox.lookup target := by
  obtain ⟨inbox, written, found⟩ := tables.inbox.write_insert_ok item.pairingId
    (inboxRow (tables.inbox.lookup item.pairingId) item sender capability) free
  refine ⟨{ tables with inbox := inbox }, ?_, rfl, found⟩
  simp only [upsertPairingInbox]
  rw [written]
  rfl

theorem upsertPairingOutbox_ok (tables : PairingTables) (item : PairingItem)
    (free : tables.outbox.FreeFor item.pairingId item.pairKey) :
    ∃ tables', upsertPairingOutbox tables item = .ok tables' ∧
      tables'.inbox = tables.inbox ∧
      ∀ target,
        tables'.outbox.lookup target =
          if target = item.pairingId then some (outboxRow item)
          else tables.outbox.lookup target := by
  obtain ⟨outbox, written, found⟩ :=
    tables.outbox.write_insert_ok item.pairingId (outboxRow item) free
  refine ⟨{ tables with outbox := outbox }, ?_, rfl, found⟩
  simp only [upsertPairingOutbox]
  rw [written]
  rfl

variable {item : PairingItem}

def crossedOutboxRow (pairKey recipient pairingId target : String)
    (row : PairingRow OutboxDetails) : PairingRow OutboxDetails :=
  if row.details.recipientInstallationId = some recipient &&
      target ≠ pairingId && row.active then
    { row with state := .cancelled, pairKey := some pairKey }
  else row

def retiredRow (state : InviteState) (pairKey pairingId target : String)
    (row : PairingRow δ) : PairingRow δ :=
  if row.active && (row.keyed pairKey && decide (target ≠ pairingId)) then
    { row with state := state }
  else row

theorem crossedOutboxRow_of_selected
    (toRecipient : row.details.recipientInstallationId = some recipient)
    (different : target ≠ pairingId) (active : row.active = true) :
    crossedOutboxRow pairKey recipient pairingId target row =
      { row with state := .cancelled, pairKey := some pairKey } := by
  simp [crossedOutboxRow, toRecipient, different, active]

theorem retiredRow_of_selected (active : row.active = true)
    (keyed : row.pairKey = some pairKey) (different : target ≠ pairingId) :
    retiredRow state pairKey pairingId target row =
      { row with state := state } := by
  simp [retiredRow, active, PairingRow.keyed, keyed, different]

theorem retiredRow_of_other_pair (foreign : row.pairKey ≠ some pairKey) :
    retiredRow state pairKey pairingId target row = row := by
  simp [retiredRow, PairingRow.keyed, foreign]

theorem retiredRow_inactive (row : PairingRow δ) (inactive : row.active = false) :
    (retiredRow state pairKey pairingId target row).active = false := by
  simp [retiredRow, inactive]

theorem retireOthers_ok (table : PairingTable δ) (pairKey pairingId : String)
    (retired : state.isOutstanding = false) :
    ∃ table', table.retireOthers state pairKey pairingId = .ok table' ∧
      (∀ target,
        table'.lookup target =
          (table.lookup target).map (retiredRow state pairKey pairingId target)) ∧
      table'.FreeFor pairingId (some pairKey) := by
  obtain ⟨table', done, found⟩ := table.retire_ok retired fun candidate row =>
    row.keyed pairKey && decide (candidate ≠ pairingId)
  refine ⟨table', done, found, ?_⟩
  rintro other row key different foundAt indexed ⟨⟩
  rw [found, Option.map_eq_some_iff] at foundAt
  obtain ⟨old, _, rfl⟩ := foundAt
  split at indexed
  · simp [PairingRow.indexed, PairingRow.active, retired] at indexed
  · rename_i kept
    apply kept
    unfold PairingRow.indexed at indexed
    split at indexed
    · rename_i active
      simp [active, PairingRow.keyed, indexed, different]
    · cases indexed

theorem cancelCrossedOutboxByRecipient_ok
    (tables : PairingTables) (pairKey recipient pairingId : String) :
    ∃ tables',
      cancelCrossedOutboxByRecipient tables pairKey recipient pairingId =
        .ok tables' ∧
      tables'.inbox = tables.inbox ∧
      ∀ target,
        tables'.outbox.lookup target = (tables.outbox.lookup target).map
            (crossedOutboxRow pairKey recipient pairingId target) := by
  obtain ⟨outbox, written, found⟩ := tables.outbox.write_update_ok
    (crossedOutboxRow pairKey recipient pairingId) pairingId
    (by
      intro target row _
      unfold crossedOutboxRow
      split
      · exact .inl rfl
      · exact .inr (.inl rfl))
  refine ⟨{ tables with outbox := outbox }, ?_, rfl, found⟩
  unfold cancelCrossedOutboxByRecipient
  have same :
      (tables.outbox.rows.updateWhere (fun candidate row =>
          row.details.recipientInstallationId = some recipient &&
            candidate ≠ pairingId && row.active)
        fun _ row => { row with state := .cancelled, pairKey := some pairKey }) =
      tables.outbox.rows.update (crossedOutboxRow pairKey recipient pairingId) :=
    rfl
  rw [same, written]
  rfl

section

variable (hasSender : item.sender = some sender)
  (hasCapability : item.capability = some capability)
  (hasKey : item.pairKey = some pairKey)

include hasSender hasCapability hasKey

theorem putPairingInbox_superseded
    (superseded : tables.outbox.hasSuperseded pairKey item.pairingId = true) :
    putPairingInbox tables item = .ok tables := by
  simp [putPairingInbox, hasSender, hasCapability, hasKey, superseded]

theorem putPairingInbox_ok
    (current : tables.outbox.hasSuperseded pairKey item.pairingId = false) :
    ∃ tables', putPairingInbox tables item = .ok tables' ∧
      (∀ target,
        tables'.outbox.lookup target = (tables.outbox.lookup target).map
            (crossedOutboxRow pairKey sender.installationId item.pairingId
              target)) ∧
      ∀ target,
        tables'.inbox.lookup target =
          if target = item.pairingId then
            some (inboxRow (tables.inbox.lookup item.pairingId) item sender
              capability)
          else
            (tables.inbox.lookup target).map
              (retiredRow .archived pairKey item.pairingId target) := by
  obtain ⟨crossed, cancelled, crossedInbox, crossedOutbox⟩ :=
    cancelCrossedOutboxByRecipient_ok tables pairKey sender.installationId
      item.pairingId
  obtain ⟨inbox, archived, archivedFound, archivedFree⟩ :=
    retireOthers_ok crossed.inbox pairKey item.pairingId
      InviteState.isOutstanding_archived
  obtain ⟨tables', stored, storedOutbox, storedFound⟩ :=
    upsertPairingInbox_ok { crossed with inbox := inbox } item sender capability
      (hasKey ▸ archivedFree)
  have ownKept :
      inbox.lookup item.pairingId = tables.inbox.lookup item.pairingId := by
    rw [archivedFound, crossedInbox]
    cases tables.inbox.lookup item.pairingId with
    | none => rfl
    | some row => simp [retiredRow]
  refine ⟨tables', ?_, ?_, ?_⟩
  · simp only [putPairingInbox, hasSender, hasCapability, hasKey, current,
      Bool.false_eq_true, if_false]
    rw [cancelled]
    simp only [archiveCrossedInbox, archived, Bind.bind, Except.bind, Pure.pure,
      Except.pure]
    exact stored
  · intro target
    rw [storedOutbox]
    exact crossedOutbox target
  · intro target
    rw [storedFound]
    rw [ownKept, archivedFound, crossedInbox]

end

theorem putPairingOutbox_unkeyed (tables : PairingTables)
    (noKey : item.pairKey = none) :
    ∃ tables', putPairingOutbox tables item = .ok tables' ∧
      tables'.inbox = tables.inbox ∧
      ∀ target,
        tables'.outbox.lookup target =
          if target = item.pairingId then some (outboxRow item)
          else tables.outbox.lookup target := by
  obtain ⟨tables', stored, inbox, found⟩ := upsertPairingOutbox_ok tables item
    (by simp [PairingTable.FreeFor, noKey])
  exact ⟨tables', by simpa [putPairingOutbox, noKey] using stored, inbox, found⟩

theorem putPairingOutbox_superseded (hasKey : item.pairKey = some pairKey)
    (superseded : tables.inbox.hasSuperseded pairKey item.pairingId = true) :
    putPairingOutbox tables item = .ok tables := by
  simp [putPairingOutbox, hasKey, superseded]

theorem putPairingOutbox_ok (hasKey : item.pairKey = some pairKey)
    (current : tables.inbox.hasSuperseded pairKey item.pairingId = false) :
    ∃ tables', putPairingOutbox tables item = .ok tables' ∧
      (∀ target,
        tables'.inbox.lookup target = (tables.inbox.lookup target).map
            (retiredRow .archived pairKey item.pairingId target)) ∧
      ∀ target,
        tables'.outbox.lookup target =
          if target = item.pairingId then some (outboxRow item)
          else
            (tables.outbox.lookup target).map
              (retiredRow .cancelled pairKey item.pairingId target) := by
  obtain ⟨inbox, archived, archivedFound, _⟩ :=
    retireOthers_ok tables.inbox pairKey item.pairingId
      InviteState.isOutstanding_archived
  obtain ⟨outbox, cancelled, cancelledFound, cancelledFree⟩ :=
    retireOthers_ok tables.outbox pairKey item.pairingId
      InviteState.isOutstanding_cancelled
  obtain ⟨tables', stored, storedInbox, storedFound⟩ :=
    upsertPairingOutbox_ok ⟨inbox, outbox⟩ item (hasKey ▸ cancelledFree)
  refine ⟨tables', ?_, ?_, ?_⟩
  · simp only [putPairingOutbox, hasKey, current, Bool.false_eq_true, if_false,
      archiveInboxForPair, archived, cancelOutboxForPair, cancelled, Bind.bind,
      Except.bind, Pure.pure, Except.pure]
    exact stored
  · intro target
    rw [storedInbox]
    exact archivedFound target
  · intro target
    rw [storedFound]
    rw [cancelledFound]

def supersededBy (table : PairingTable δ) (item : PairingItem) : Bool :=
  item.pairKey.any fun pairKey => table.hasSuperseded pairKey item.pairingId

theorem retiredRow_self
    (state : InviteState) (pairKey pairingId : String) (row : PairingRow δ) :
    retiredRow state pairKey pairingId pairingId row = row := by
  simp [retiredRow]

theorem putPairingInbox_self (tables : PairingTables) (item : PairingItem)
    (hasSender : item.sender = some sender)
    (hasCapability : item.capability = some capability) :
    ∃ tables', putPairingInbox tables item = .ok tables' ∧
      tables'.outbox.lookup item.pairingId =
        tables.outbox.lookup item.pairingId ∧
      tables'.inbox.lookup item.pairingId =
        if supersededBy tables.outbox item then
          tables.inbox.lookup item.pairingId
        else
          some (inboxRow (tables.inbox.lookup item.pairingId) item sender
            capability) := by
  cases key : item.pairKey with
  | none =>
    obtain ⟨tables', stored, outbox, found⟩ := upsertPairingInbox_ok tables
      item sender capability (by simp [PairingTable.FreeFor, key])
    refine ⟨tables', ?_, by rw [outbox], ?_⟩
    · simpa [putPairingInbox, hasSender, hasCapability, key] using stored
    · simp [found, supersededBy, key]
  | some pairKey =>
    cases superseded : tables.outbox.hasSuperseded pairKey item.pairingId with
    | true =>
      refine ⟨tables, putPairingInbox_superseded hasSender hasCapability key
        superseded, rfl, ?_⟩
      simp [supersededBy, key, superseded]
    | false =>
      obtain ⟨tables', stored, outbox, inbox⟩ := putPairingInbox_ok
        hasSender hasCapability key superseded
      refine ⟨tables', stored, ?_, ?_⟩
      · rw [outbox]
        cases tables.outbox.lookup item.pairingId with
        | none => rfl
        | some row => simp [crossedOutboxRow]
      · simp [inbox, supersededBy, key, superseded]

theorem putPairingOutbox_self (tables : PairingTables) (item : PairingItem) :
    ∃ tables', putPairingOutbox tables item = .ok tables' ∧
      tables'.inbox.lookup item.pairingId = tables.inbox.lookup item.pairingId ∧
      tables'.outbox.lookup item.pairingId =
        if supersededBy tables.inbox item then
          tables.outbox.lookup item.pairingId
        else
          some (outboxRow item) := by
  cases key : item.pairKey with
  | none =>
    obtain ⟨tables', stored, inbox, found⟩ :=
      putPairingOutbox_unkeyed tables key
    exact ⟨tables', stored, by rw [inbox], by simp [found, supersededBy, key]⟩
  | some pairKey =>
    cases superseded : tables.inbox.hasSuperseded pairKey item.pairingId with
    | true =>
      refine ⟨tables, putPairingOutbox_superseded key superseded, rfl, ?_⟩
      simp [supersededBy, key, superseded]
    | false =>
      obtain ⟨tables', stored, inbox, outbox⟩ :=
        putPairingOutbox_ok key superseded
      refine ⟨tables', stored, ?_, ?_⟩
      · rw [inbox]
        cases tables.inbox.lookup item.pairingId with
        | none => rfl
        | some row => simp [retiredRow_self]
      · simp [outbox, supersededBy, key, superseded]

theorem retiredRow_cases (state : InviteState)
    (pairKey pairingId target : String) (row : PairingRow δ) :
    retiredRow state pairKey pairingId target row = row ∨
      (row.active = true ∧ row.pairKey = some pairKey ∧
        retiredRow state pairKey pairingId target row =
          { row with state := state }) := by
  unfold retiredRow
  split
  · rename_i selected
    simp only [PairingRow.keyed, Bool.and_eq_true, decide_eq_true_eq] at selected
    exact .inr ⟨selected.1, selected.2.1, rfl⟩
  · exact .inl rfl

/-! ## Binding a pair key -/

section

variable {pairKey : String}

theorem PairingRow.indexed_of_active {row : PairingRow δ}
    (active : row.active = true) (keyed : row.pairKey = some pairKey) :
    row.indexed = some pairKey := by
  rw [PairingRow.indexed, if_pos active, keyed]

def ActiveIn (tables : PairingTables) (pairingId pairKey : String) : Prop :=
  (∃ row, tables.inbox.lookup pairingId = some row ∧ row.active = true ∧
    row.pairKey = some pairKey) ∨
  ∃ row, tables.outbox.lookup pairingId = some row ∧ row.active = true ∧
    row.pairKey = some pairKey

def Links (tables : PairingTables) (inviteId pairingId : String) : Prop :=
  ∃ row, tables.outbox.lookup pairingId = some row ∧ row.active = true ∧
    row.details.mentions inviteId = true

theorem mem_candidateOutbox :
    pairingId ∈ (tables.outbox.rows.retain fun _ row =>
      row.active && row.details.mentions inviteId).keys ↔
      Links tables inviteId pairingId := by
  simp only [Table.mem_keys_retain, Bool.and_eq_true]
  rfl

theorem candidate_eq (links : Links tables inviteId own)
    (only : ∀ pairingId, Links tables inviteId pairingId → pairingId = own) :
    candidateOutboxForInvite tables inviteId = some own :=
  List.min?_eq_some_iff.mpr ⟨mem_candidateOutbox.mpr links,
    fun other member => (only other (mem_candidateOutbox.mp member)).ge⟩

theorem winner_eq (active : ActiveIn tables own pairKey)
    (least : ∀ other, ActiveIn tables other pairKey → own ≤ other) :
    winner tables pairKey = some own := by
  have mem (pairingId : String) :
      pairingId ∈ tables.inbox.activeIds pairKey ++
        tables.outbox.activeIds pairKey ↔ ActiveIn tables pairingId pairKey := by
    simp only [List.mem_append, PairingTable.activeIds, Table.mem_keys_retain,
      PairingRow.keyed, Bool.and_eq_true, decide_eq_true_eq, ActiveIn,
      PairingTable.lookup, and_comm]
  refine List.min?_eq_some_iff.mpr ⟨(mem own).mpr active, fun other member => ?_⟩
  exact least other ((mem other).mp member)

/-- What a bind of `own` leaves, where `ahead` comes first of the pair. -/
structure Bound (own ahead inviteId pairKey : String)
    (before after : PairingTables) : Prop where
  inbox : ∀ target, after.inbox.lookup target = (before.inbox.lookup target).map
    (retiredRow .archived pairKey ahead target)
  outbox : ∀ target, target ≠ own → after.outbox.lookup target =
    (before.outbox.lookup target).map (retiredRow .cancelled pairKey own target)
  bound : ∃ row, before.outbox.lookup own = some row ∧ row.active = true ∧
    row.details.mentions inviteId = true ∧
    after.outbox.lookup own = some (retiredRow .cancelled pairKey ahead own
      { row with pairKey := some pairKey })

theorem bindOutboxPairKey_ok
    (only : ∀ pairingId, Links tables inviteId pairingId → pairingId = own)
    (free : tables.outbox.FreeFor own (some pairKey)) :
    ∃ outbox, bindOutboxPairKey pairKey inviteId tables =
        .ok { tables with outbox := outbox } ∧
      ∀ target, outbox.lookup target =
        (tables.outbox.lookup target).map fun row =>
          if row.active && row.details.mentions inviteId then
            { row with pairKey := some pairKey }
          else row := by
  obtain ⟨outbox, written, found⟩ := tables.outbox.write_update_ok
    (fun _ row => if row.active && row.details.mentions inviteId then
      { row with pairKey := some pairKey } else row) own (by
    intro pairingId row foundAt
    split
    · rename_i selected
      rw [Bool.and_eq_true] at selected
      obtain rfl := only pairingId ⟨row, foundAt, selected⟩
      refine .inr (.inr ⟨rfl, fun key indexed other row differs foundRow => ?_⟩)
      exact fun held => free other row key differs foundRow held
        ((if_pos selected.1).symm.trans indexed)
    · exact .inr (.inl rfl))
  refine ⟨outbox, ?_, found⟩
  have same : (tables.outbox.rows.updateWhere
      (fun _ row => row.active && row.details.mentions inviteId)
      fun _ row => { row with pairKey := some pairKey }) =
      tables.outbox.rows.update fun _ row =>
        if row.active && row.details.mentions inviteId then
          { row with pairKey := some pairKey }
        else row := rfl
  simp only [bindOutboxPairKey]
  rw [same, written]
  rfl

theorem eq_own_of_retired {table : PairingTable δ}
    (free : table.FreeFor own (some pairKey))
    (found : table.lookup other = some row) (active : row.active = true)
    (keyed : row.pairKey = some pairKey) : other = own := by
  by_contra differs
  exact free other row pairKey differs found
    (PairingRow.indexed_of_active active keyed) rfl

theorem retireBehind_ok (table : PairingTable δ)
    (leads : winner tables pairKey = some own)
    (retired : state.isOutstanding = false) :
    ∃ table', (table.retire state fun pairingId row =>
        row.keyed pairKey && decide (some pairingId ≠ winner tables pairKey)) =
        .ok table' ∧
      (∀ target, table'.lookup target =
        (table.lookup target).map (retiredRow state pairKey own target)) ∧
      table'.FreeFor own (some pairKey) := by
  obtain ⟨table', done, found⟩ := retireOthers_ok table pairKey own retired
  refine ⟨table', ?_, found⟩
  rw [← done]
  simp [PairingTable.retireOthers, leads]

theorem retiredRow_retiredRow (ahead : String) (different : target ≠ own)
    (retired : state.isOutstanding = false) (row : PairingRow δ) :
    retiredRow state pairKey ahead target
        (retiredRow state pairKey own target row) =
      retiredRow state pairKey own target row := by
  by_cases selected : row.active = true ∧ row.pairKey = some pairKey
  · rw [retiredRow_of_selected selected.1 selected.2 different]
    simp [retiredRow, PairingRow.active, retired]
  · have kept (pairingId : String) :
        retiredRow state pairKey pairingId target row = row := by
      obtain same | ⟨active, keyed, _⟩ :=
        retiredRow_cases state pairKey pairingId target row
      · exact same
      · exact absurd ⟨active, keyed⟩ selected
    rw [kept own, kept ahead]

theorem bindPairingOutboxPairKey_bound
    (links : Links tables inviteId own)
    (only : ∀ pairingId, Links tables inviteId pairingId → pairingId = own)
    (first : ∀ other ∈ existingOutboxForPair tables pairKey inviteId,
      own ≤ other)
    (before : ahead ≤ own)
    (least : ∀ other row, tables.inbox.lookup other = some row →
      row.active = true → row.pairKey = some pairKey → ahead ≤ other)
    (leads : ahead = own ∨ ∃ row, tables.inbox.lookup ahead = some row ∧
      row.active = true ∧ row.pairKey = some pairKey) :
    ∃ after, bindPairingOutboxPairKey inviteId pairKey tables =
        (.ok (), after) ∧
      Bound own ahead inviteId pairKey tables after := by
  have candidate := candidate_eq links only
  obtain ⟨row, found, active, mentions⟩ := links
  -- the other outgoing rows of the pair go first
  obtain ⟨cancelled, cancel, cancelledAt, free⟩ :=
    retireOthers_ok tables.outbox pairKey own InviteState.isOutstanding_cancelled
  have still (target : String)
      (linked : Links { tables with outbox := cancelled } inviteId target) :
      target = own := by
    obtain ⟨later, laterFound, laterActive, laterMentions⟩ := linked
    rw [cancelledAt, Option.map_eq_some_iff] at laterFound
    obtain ⟨old, oldFound, rfl⟩ := laterFound
    obtain same | ⟨_, _, changed⟩ :=
      retiredRow_cases .cancelled pairKey own target old
    · rw [same] at laterActive laterMentions
      exact only target ⟨old, oldFound, laterActive, laterMentions⟩
    · rw [changed] at laterActive
      cases laterActive
  obtain ⟨bound, bind, boundAt⟩ := bindOutboxPairKey_ok still free
  have mine : bound.lookup own = some { row with pairKey := some pairKey } := by
    simp [boundAt, cancelledAt, found, retiredRow_self, active, mentions]
  have others (target : String) (other : target ≠ own) :
      bound.lookup target = cancelled.lookup target := by
    rw [boundAt]
    cases held : cancelled.lookup target with
    | none => rfl
    | some later =>
      rw [Option.map_some, if_neg]
      rw [Bool.and_eq_true]
      exact fun linked => other (still target ⟨later, held, linked⟩)
  have wins (inbox : PairingInbox)
      (same : inbox.lookup ahead = tables.inbox.lookup ahead)
      (behind : ∀ other row, inbox.lookup other = some row →
        row.active = true → row.pairKey = some pairKey → ahead ≤ other) :
      winner ⟨inbox, bound⟩ pairKey = some ahead := by
    refine winner_eq ?_ ?_
    · obtain rfl | leading := leads
      · exact .inr ⟨_, mine, active, rfl⟩
      · exact .inl (by rwa [same])
    · rintro other (⟨later, held, stands⟩ | ⟨later, held, stands, keyed⟩)
      · exact behind other later held stands.1 stands.2
      · by_cases isOwn : other = own
        · exact isOwn ▸ before
        · rw [others other isOwn] at held
          exact absurd (eq_own_of_retired free held stands keyed) isOwn
  obtain ⟨archived, archive, archivedAt, spent⟩ := retireBehind_ok tables.inbox
    (wins tables.inbox rfl least) InviteState.isOutstanding_archived
  have unmoved : archived.lookup ahead = tables.inbox.lookup ahead := by
    rw [archivedAt]
    cases tables.inbox.lookup ahead with
    | none => rfl
    | some row => rw [Option.map_some, retiredRow_self]
  obtain ⟨last, settle, lastAt, _⟩ := retireBehind_ok bound
    (wins archived unmoved fun other later held stands keyed =>
      (eq_own_of_retired spent held stands keyed).ge)
    InviteState.isOutstanding_cancelled
  have cancels : cancelOutboxForPair tables pairKey own =
      .ok { tables with outbox := cancelled } := by
    rw [cancelOutboxForPair, cancel]
    rfl
  have archives : reconcilePairingInbox pairKey { tables with outbox := bound } =
      .ok ⟨archived, bound⟩ := by
    rw [reconcilePairingInbox, archive]
    rfl
  have settles : reconcilePairingOutbox pairKey ⟨archived, bound⟩ =
      .ok ⟨archived, last⟩ := by
    rw [reconcilePairingOutbox, settle]
    rfl
  refine ⟨⟨archived, last⟩, ?_, archivedAt, fun target other => ?_, row, found,
    active, mentions, ?_⟩
  · unfold bindPairingOutboxPairKey
    rw [run_bind_ok (run_read _ _), candidate]
    dsimp only
    rw [run_bind_ok (run_read _ _)]
    rw [if_neg]
    · rw [run_bind_ok (run_execute_ok cancels),
        run_bind_ok (run_execute_ok bind), run_bind_ok (run_execute_ok archives),
        run_execute_ok settles]
    · cases existing : existingOutboxForPair tables pairKey inviteId with
      | none => simp
      | some other => simp [first other existing]
  · rw [lastAt, others target other, cancelledAt, Option.map_map]
    congr 1
    funext old
    exact retiredRow_retiredRow ahead other InviteState.isOutstanding_cancelled
      old
  · rw [lastAt, mine, Option.map_some]

theorem bindPairingOutboxPairKey_unlinked
    (unlinked : ∀ pairingId, ¬ Links tables inviteId pairingId) :
    bindPairingOutboxPairKey inviteId pairKey tables = (.ok (), tables) := by
  have none : candidateOutboxForInvite tables inviteId = none :=
    List.min?_eq_none_iff.mpr (List.eq_nil_iff_forall_not_mem.mpr
      fun pairingId member => unlinked pairingId (mem_candidateOutbox.mp member))
  unfold bindPairingOutboxPairKey
  rw [run_bind_ok (run_read _ _), none]
  rfl

end

end Torchat.Storage
