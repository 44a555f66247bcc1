import Torchat.Storage.PairingFacts

namespace Torchat.Storage

open Foundation PairingTable InviteState

structure Crossing where
  pairKey : String
  peer : InstallationId
  inviteId : String
  outgoing : PairingItem
  incoming : PairingItem
  sender : ContactRecord
  capability : String
  differ : outgoing.pairingId ≠ incoming.pairingId
  outgoingActive : outgoing.state.isOutstanding = true
  outgoingKey : ∀ key, outgoing.pairKey = some key → key = pairKey
  outgoingPeer : ∀ contact,
    outgoing.sender = some contact → contact.installationId = peer
  incomingActive : incoming.state.isOutstanding = true
  incomingKey : incoming.pairKey = some pairKey
  incomingSender : incoming.sender = some sender
  senderPeer : sender.installationId = peer
  incomingCapability : incoming.capability = some capability

inductive CrossingCall
  | putPairingOutbox
  | putPairingInbox
  | bindPairingOutboxPairKey

namespace Crossing

variable (crossing : Crossing)

abbrev own : String := crossing.outgoing.pairingId

abbrev other : String := crossing.incoming.pairingId

def keyed : Bool := crossing.outgoing.pairKey.isSome

def addressed : Bool := crossing.outgoing.sender.isSome

def linked : Bool := (outboxRow crossing.outgoing).details.mentions
  crossing.inviteId

/-- A put is a transaction of its own, so a failed one leaves the tables as they
were; the statements of a bind are committed one by one. -/
def perform (tables : PairingTables) : CrossingCall → PairingTables
  | .putPairingOutbox =>
    match putPairingOutbox tables crossing.outgoing with
    | .ok tables' => tables'
    | .error _ => tables
  | .putPairingInbox =>
    match putPairingInbox tables crossing.incoming with
    | .ok tables' => tables'
    | .error _ => tables
  | .bindPairingOutboxPairKey =>
    (bindPairingOutboxPairKey crossing.inviteId crossing.pairKey tables).2

def performAll (tables : PairingTables) (calls : List CrossingCall) :
    PairingTables :=
  calls.foldl crossing.perform tables

def activeRows (tables : PairingTables) : List String :=
  (if (tables.outbox.lookup crossing.own).any PairingRow.active then
    [crossing.own] else []) ++
  (if (tables.inbox.lookup crossing.other).any PairingRow.active then
    [crossing.other] else [])

def ForeignOutbox (row : PairingRow OutboxDetails) : Prop :=
  row.pairKey ≠ some crossing.pairKey ∧
  row.details.recipientInstallationId ≠ some crossing.peer ∧
  row.details.mentions crossing.inviteId = false

def ForeignInbox (row : PairingRow InboxDetails) : Prop :=
  row.pairKey ≠ some crossing.pairKey

/-! ## What the calls do to the two rows of the pair -/

inductive Standing
  | absent
  | active
  | retired
  deriving DecidableEq

structure View where
  outbox : Standing
  bound : Bool
  inbox : Standing

def View.initial : View := ⟨.absent, false, .absent⟩

def View.perform (view : View) : CrossingCall → View
  | .putPairingOutbox =>
    if crossing.keyed then
      if view.inbox = .active ∧ crossing.other < crossing.own then view
      else
        { outbox := .active
          bound := true
          inbox := if view.inbox = .active then .retired else view.inbox }
    else { view with outbox := .active, bound := false }
  | .putPairingInbox =>
    if view.outbox = .active ∧ view.bound ∧ crossing.own < crossing.other then
      view
    else
      { view with
        outbox :=
          if view.outbox = .active ∧ crossing.addressed then .retired
          else view.outbox
        inbox := .active }
  | .bindPairingOutboxPairKey =>
    if view.outbox = .active ∧ crossing.linked then
      if view.inbox = .active then
        if crossing.own < crossing.other then
          { view with bound := true, inbox := .retired }
        else { view with bound := true, outbox := .retired }
      else { view with bound := true }
    else view

def Standing.Shows (lives : PairingRow δ → Prop)
    (found : Option (PairingRow δ)) : Standing → Prop
  | .absent => found = none
  | .active => ∃ row, found = some row ∧ lives row
  | .retired => ∃ row, found = some row ∧ row.active = false

def outgoingRow (bound : Bool) : PairingRow OutboxDetails :=
  { pairKey := if bound then some crossing.pairKey else none
    state := crossing.outgoing.state
    details := (outboxRow crossing.outgoing).details }

def View.ShowsOutbox
    (view : View) (found : Option (PairingRow OutboxDetails)) : Prop :=
  view.outbox.Shows (· = crossing.outgoingRow view.bound) found

def View.ShowsInbox
    (view : View) (found : Option (PairingRow InboxDetails)) : Prop :=
  view.inbox.Shows
    (fun row => row.active = true ∧ row.pairKey = some crossing.pairKey) found

/-- The tables hold the two rows as the view says, and no other row is
selected by a statement about this pair. -/
structure Shows (tables : PairingTables) (view : View) : Prop where
  outbox : view.ShowsOutbox crossing (tables.outbox.lookup crossing.own)
  inbox : view.ShowsInbox crossing (tables.inbox.lookup crossing.other)
  outboxForeign : ∀ pairingId row, pairingId ≠ crossing.own →
    tables.outbox.lookup pairingId = some row → crossing.ForeignOutbox row
  inboxForeign : ∀ pairingId row, pairingId ≠ crossing.other →
    tables.inbox.lookup pairingId = some row → crossing.ForeignInbox row

variable {crossing}

namespace Standing.Shows

variable {standing : Standing} {found : Option (PairingRow δ)}
  (shows : standing.Shows lives found)

include shows

theorem any_active (live : ∀ row, lives row → row.active = true) :
    found.any PairingRow.active = decide (standing = .active) := by
  cases standing with
  | absent =>
    rw [show found = none from shows]
    rfl
  | active =>
    obtain ⟨row, rfl, held⟩ := shows
    simp [live row held]
  | retired =>
    obtain ⟨row, rfl, inactive⟩ := shows
    simp [inactive]

theorem of_active (held : found = some row) (active : row.active = true) :
    standing = .active ∧ lives row := by
  cases standing with
  | absent => cases held.symm.trans shows
  | active =>
    obtain ⟨_, same, live⟩ := shows
    cases held.symm.trans same
    exact ⟨rfl, live⟩
  | retired =>
    obtain ⟨_, same, inactive⟩ := shows
    cases held.symm.trans same
    rw [active] at inactive
    cases inactive

variable {f : PairingRow δ → PairingRow δ}
  (inactive : ∀ row, row.active = false → (f row).active = false)

include inactive

theorem keep (kept : ∀ row, lives row → lives (f row)) :
    standing.Shows lives (found.map f) := by
  cases standing with
  | absent => exact congrArg (Option.map f) shows
  | active =>
    obtain ⟨row, rfl, live⟩ := shows
    exact ⟨_, rfl, kept row live⟩
  | retired =>
    obtain ⟨row, rfl, gone⟩ := shows
    exact ⟨_, rfl, inactive row gone⟩

theorem retire (retires : ∀ row, lives row → (f row).active = false) :
    (if standing = .active then .retired else standing : Standing).Shows lives
      (found.map f) := by
  cases standing with
  | absent => exact congrArg (Option.map f) shows
  | active =>
    obtain ⟨row, rfl, live⟩ := shows
    exact ⟨_, rfl, retires row live⟩
  | retired =>
    obtain ⟨row, rfl, gone⟩ := shows
    exact ⟨_, rfl, inactive row gone⟩

end Standing.Shows

theorem Shows.outbox_superseded (shows : crossing.Shows tables view) :
    tables.outbox.hasSuperseded crossing.pairKey crossing.other =
      decide (view.outbox = .active ∧ view.bound ∧
        crossing.own < crossing.other) := by
  rw [Bool.eq_iff_iff, hasSuperseded_iff, decide_eq_true_iff]
  constructor
  · rintro ⟨pairingId, row, found, keyed, smaller, active⟩
    by_cases same : pairingId = crossing.own
    · subst same
      obtain ⟨standing, rfl⟩ := shows.outbox.of_active found active
      refine ⟨standing, ?_, smaller⟩
      by_contra unbound
      simp [outgoingRow, unbound] at keyed
    · exact absurd keyed (shows.outboxForeign pairingId row same found).1
  · rintro ⟨standing, bound, smaller⟩
    have own := shows.outbox
    rw [View.ShowsOutbox, standing] at own
    obtain ⟨_, found, rfl⟩ := own
    exact ⟨crossing.own, _, found, by simp [outgoingRow, bound], smaller,
      crossing.outgoingActive⟩

theorem Shows.inbox_superseded (shows : crossing.Shows tables view) :
    tables.inbox.hasSuperseded crossing.pairKey crossing.own =
      decide (view.inbox = .active ∧ crossing.other < crossing.own) := by
  rw [Bool.eq_iff_iff, hasSuperseded_iff, decide_eq_true_iff]
  constructor
  · rintro ⟨pairingId, row, found, keyed, smaller, active⟩
    by_cases same : pairingId = crossing.other
    · subst same
      exact ⟨(shows.inbox.of_active found active).1, smaller⟩
    · exact absurd keyed (shows.inboxForeign pairingId row same found)
  · rintro ⟨standing, smaller⟩
    have other := shows.inbox
    rw [View.ShowsInbox, standing] at other
    obtain ⟨row, found, active, keyed⟩ := other
    exact ⟨crossing.other, row, found, keyed, smaller, active⟩

theorem foreign_of_map {table table' : PairingTable δ} {own : String}
    {foreign : PairingRow δ → Prop} (f : String → PairingRow δ → PairingRow δ)
    (before : ∀ pairingId row, pairingId ≠ own →
      table.lookup pairingId = some row → foreign row)
    (found : ∀ pairingId, pairingId ≠ own →
      table'.lookup pairingId = (table.lookup pairingId).map (f pairingId))
    (same : ∀ pairingId row, foreign row → f pairingId row = row) :
    ∀ pairingId row, pairingId ≠ own →
      table'.lookup pairingId = some row → foreign row := by
  intro pairingId row different foundAt
  rw [found pairingId different, Option.map_eq_some_iff] at foundAt
  obtain ⟨old, oldFound, rfl⟩ := foundAt
  have oldForeign := before pairingId old different oldFound
  rw [same pairingId old oldForeign]
  exact oldForeign

section

variable (shows : crossing.Shows tables view)

include shows

theorem Shows.putPairingOutbox :
    crossing.Shows (crossing.perform tables .putPairingOutbox)
      (view.perform crossing .putPairingOutbox) := by
  unfold Crossing.perform View.perform Crossing.keyed
  cases hasKey : crossing.outgoing.pairKey with
  | none =>
    obtain ⟨tables', stored, inbox, found⟩ :=
      putPairingOutbox_unkeyed tables hasKey
    simp only [stored, Option.isSome_none, Bool.false_eq_true, if_false]
    refine ⟨?_, ?_, ?_, ?_⟩
    · rw [found, if_pos rfl]
      exact ⟨_, rfl, by simp [outgoingRow, outboxRow, hasKey]⟩
    · rw [inbox]
      exact shows.inbox
    · intro pairingId row different foundAt
      rw [found, if_neg different] at foundAt
      exact shows.outboxForeign pairingId row different foundAt
    · rw [inbox]
      exact shows.inboxForeign
  | some key =>
    have sameKey := crossing.outgoingKey key hasKey
    subst sameKey
    have superseded := shows.inbox_superseded
    by_cases behind :
        view.inbox = .active ∧ crossing.other < crossing.own
    · rw [decide_eq_true behind] at superseded
      rw [if_pos behind, putPairingOutbox_superseded hasKey superseded]
      exact shows
    · rw [decide_eq_false behind] at superseded
      rw [if_neg behind]
      obtain ⟨tables', stored, inbox, outbox⟩ :=
        putPairingOutbox_ok hasKey superseded
      simp only [stored]
      refine ⟨?_, ?_, ?_, ?_⟩
      · rw [outbox, if_pos rfl]
        exact ⟨_, rfl, by simp [outgoingRow, outboxRow, hasKey]⟩
      · rw [inbox]
        refine shows.inbox.retire retiredRow_inactive fun row live => ?_
        rw [retiredRow_of_selected live.1 live.2 crossing.differ.symm]
        rfl
      · refine foreign_of_map
          (retiredRow .cancelled crossing.pairKey crossing.own)
          shows.outboxForeign (fun pairingId different => ?_)
          fun pairingId row foreign => retiredRow_of_other_pair foreign.1
        rw [outbox, if_neg different]
      · exact foreign_of_map
          (retiredRow .archived crossing.pairKey crossing.own)
          shows.inboxForeign (fun pairingId _ => inbox pairingId)
          fun pairingId row foreign => retiredRow_of_other_pair foreign

theorem Shows.putPairingInbox :
    crossing.Shows (crossing.perform tables .putPairingInbox)
      (view.perform crossing .putPairingInbox) := by
  unfold Crossing.perform View.perform
  have superseded := shows.outbox_superseded
  by_cases behind : view.outbox = .active ∧ view.bound = true ∧
      crossing.own < crossing.other
  · rw [decide_eq_true behind] at superseded
    rw [if_pos behind, putPairingInbox_superseded crossing.incomingSender
      crossing.incomingCapability crossing.incomingKey superseded]
    exact shows
  · rw [decide_eq_false behind] at superseded
    obtain ⟨tables', stored, outbox, inbox⟩ :=
      putPairingInbox_ok crossing.incomingSender crossing.incomingCapability
        crossing.incomingKey superseded
    rw [crossing.senderPeer] at outbox
    rw [if_neg behind]
    simp only [stored]
    refine ⟨?_, ?_, ?_, ?_⟩
    · rw [outbox]
      have inactive (row : PairingRow OutboxDetails)
          (gone : row.active = false) : (crossedOutboxRow crossing.pairKey
            crossing.peer crossing.other crossing.own row).active = false := by
        simp [crossedOutboxRow, gone]
      cases recipient : crossing.outgoing.sender with
      | none =>
        simp only [Crossing.addressed, recipient, Option.isSome_none,
          Bool.false_eq_true, and_false, if_false]
        refine shows.outbox.keep inactive ?_
        rintro _ rfl
        simp [crossedOutboxRow, outgoingRow, outboxRow, recipient]
      | some contact =>
        simp only [Crossing.addressed, recipient, Option.isSome_some, and_true]
        refine shows.outbox.retire inactive ?_
        rintro _ rfl
        rw [crossedOutboxRow_of_selected ?_ crossing.differ ?_]
        · rfl
        · simp [outgoingRow, outboxRow, recipient,
            crossing.outgoingPeer contact recipient]
        · exact crossing.outgoingActive
    · rw [inbox, if_pos rfl]
      exact ⟨_, rfl, crossing.incomingActive, crossing.incomingKey⟩
    · refine foreign_of_map
        (crossedOutboxRow crossing.pairKey crossing.peer crossing.other)
        shows.outboxForeign (fun pairingId _ => outbox pairingId)
        fun pairingId row foreign => ?_
      simp [crossedOutboxRow, foreign.2.1]
    · refine foreign_of_map
        (retiredRow .archived crossing.pairKey crossing.other)
        shows.inboxForeign (fun pairingId different => ?_)
        fun pairingId row foreign => retiredRow_of_other_pair foreign
      rw [inbox, if_neg different]

theorem Shows.outbox_found (standing : view.outbox = .active) :
    tables.outbox.lookup crossing.own =
      some (crossing.outgoingRow view.bound) := by
  have own := shows.outbox
  rw [View.ShowsOutbox, standing] at own
  obtain ⟨_, found, rfl⟩ := own
  exact found

theorem Shows.links_iff : Links tables crossing.inviteId pairingId ↔
    pairingId = crossing.own ∧ view.outbox = .active ∧
      crossing.linked = true := by
  constructor
  · rintro ⟨row, found, active, mentions⟩
    have isOwn : pairingId = crossing.own := by
      by_contra different
      have foreign := shows.outboxForeign pairingId row different found
      rw [foreign.2.2] at mentions
      cases mentions
    subst isOwn
    obtain ⟨standing, rfl⟩ := shows.outbox.of_active found active
    exact ⟨rfl, standing, mentions⟩
  · rintro ⟨rfl, standing, linked⟩
    exact ⟨_, shows.outbox_found standing, crossing.outgoingActive, linked⟩

theorem Shows.existing (linked : crossing.linked = true) :
    existingOutboxForPair tables crossing.pairKey crossing.inviteId = none := by
  unfold existingOutboxForPair
  rw [Table.keys_retain_eq_nil]
  · rfl
  · intro pairingId row found
    by_cases same : pairingId = crossing.own
    · subst same
      by_cases active : row.active = true
      · obtain ⟨-, rfl⟩ := shows.outbox.of_active found active
        have omitted : (outboxRow crossing.outgoing).details.omits
            crossing.inviteId = false := by
          unfold Crossing.linked OutboxDetails.mentions at linked
          unfold OutboxDetails.omits
          cases payload : (outboxRow crossing.outgoing).details.payload with
          | none => rfl
          | some text => simpa [payload] using linked
        simp [outgoingRow, omitted]
      · simp [active]
    · have foreign := shows.outboxForeign pairingId row same found
      simp [PairingRow.keyed, foreign.1]

theorem Shows.inbox_active (found : tables.inbox.lookup pairingId = some row)
    (active : row.active = true) (keyed : row.pairKey = some crossing.pairKey) :
    pairingId = crossing.other ∧ view.inbox = .active := by
  have isOther : pairingId = crossing.other := by
    by_contra different
    exact shows.inboxForeign pairingId row different found keyed
  subst isOther
  exact ⟨rfl, (shows.inbox.of_active found active).1⟩

end

def ahead (crossing : Crossing) (view : View) : String :=
  if view.inbox = .active ∧ crossing.other < crossing.own then crossing.other
  else crossing.own

section

variable (shows : crossing.Shows tables view)

include shows

theorem Shows.bound (chosen : view.outbox = .active ∧ crossing.linked = true) :
    ∃ after, Storage.bindPairingOutboxPairKey crossing.inviteId crossing.pairKey
        tables = (.ok (), after) ∧
      Bound crossing.own (crossing.ahead view) crossing.inviteId
        crossing.pairKey tables after := by
  refine bindPairingOutboxPairKey_bound (shows.links_iff.mpr ⟨rfl, chosen⟩)
    (fun pairingId linked => (shows.links_iff.mp linked).1) ?_ ?_ ?_ ?_
  · rw [shows.existing chosen.2]
    nofun
  · unfold Crossing.ahead
    split
    · rename_i beaten
      exact beaten.2.le
    · exact le_rfl
  · intro other row found active keyed
    obtain ⟨rfl, standing⟩ := shows.inbox_active found active keyed
    unfold Crossing.ahead
    split
    · exact le_rfl
    · rename_i unbeaten
      exact not_lt.mp fun smaller => unbeaten ⟨standing, smaller⟩
  · unfold Crossing.ahead
    split
    · rename_i beaten
      have other := shows.inbox
      rw [View.ShowsInbox, beaten.1] at other
      exact .inr other
    · exact .inl rfl

theorem Shows.bindPairingOutboxPairKey :
    crossing.Shows (crossing.perform tables .bindPairingOutboxPairKey)
      (view.perform crossing .bindPairingOutboxPairKey) := by
  unfold Crossing.perform View.perform
  by_cases chosen : view.outbox = .active ∧ crossing.linked = true
  · obtain ⟨after, ran, inbox, outbox, row, found, -, -, now⟩ :=
      shows.bound chosen
    rw [shows.outbox_found chosen.1] at found
    cases found
    have foreignOut := foreign_of_map _ shows.outboxForeign outbox
      fun pairingId row foreign => retiredRow_of_other_pair foreign.1
    have foreignIn := foreign_of_map _ shows.inboxForeign
      (fun pairingId _ => inbox pairingId)
      fun pairingId row foreign => retiredRow_of_other_pair foreign
    simp only [ran, if_pos chosen]
    by_cases beaten : view.inbox = .active ∧ crossing.other < crossing.own
    · rw [Crossing.ahead, if_pos beaten] at inbox now
      rw [retiredRow_of_selected (by exact crossing.outgoingActive) rfl
        crossing.differ] at now
      rw [if_pos beaten.1, if_neg beaten.2.asymm]
      refine ⟨⟨_, now, rfl⟩, ?_, foreignOut, foreignIn⟩
      rw [inbox]
      refine shows.inbox.keep retiredRow_inactive fun row live => ?_
      rwa [retiredRow_self]
    · rw [Crossing.ahead, if_neg beaten] at inbox now
      rw [retiredRow_self] at now
      have bound (view' : View) (standing : view'.outbox = .active)
          (bound : view'.bound = true) :
          view'.ShowsOutbox crossing (after.outbox.lookup crossing.own) := by
        rw [View.ShowsOutbox, standing, bound]
        exact ⟨_, now, rfl⟩
      have gone := shows.inbox.retire (f := retiredRow .archived
        crossing.pairKey crossing.own crossing.other) retiredRow_inactive
        fun row live => congrArg PairingRow.active
          (retiredRow_of_selected live.1 live.2 crossing.differ.symm)
      rw [← inbox] at gone
      by_cases standing : view.inbox = .active
      · have smaller : crossing.own < crossing.other :=
          lt_of_le_of_ne (not_lt.mp fun less => beaten ⟨standing, less⟩)
            crossing.differ
        rw [if_pos standing] at gone ⊢
        rw [if_pos smaller]
        exact ⟨bound _ chosen.1 rfl, gone, foreignOut, foreignIn⟩
      · rw [if_neg standing] at gone ⊢
        exact ⟨bound _ chosen.1 rfl, gone, foreignOut, foreignIn⟩
  · have unlinked (pairingId : String) :
        ¬ Links tables crossing.inviteId pairingId :=
      fun linked => chosen (shows.links_iff.mp linked).2
    rw [bindPairingOutboxPairKey_unlinked unlinked, if_neg chosen]
    exact shows

theorem Shows.perform (call : CrossingCall) :
    crossing.Shows (crossing.perform tables call)
      (view.perform crossing call) := by
  cases call with
  | putPairingOutbox => exact shows.putPairingOutbox
  | putPairingInbox => exact shows.putPairingInbox
  | bindPairingOutboxPairKey => exact shows.bindPairingOutboxPairKey

theorem Shows.performAll (calls : List CrossingCall) :
    crossing.Shows (crossing.performAll tables calls)
      (calls.foldl (View.perform crossing) view) := by
  induction calls generalizing tables view with
  | nil => exact shows
  | cons call rest induction => exact induction (shows.perform call)

theorem Shows.activeRows :
    crossing.activeRows tables =
      (if view.outbox = .active then [crossing.own] else []) ++
      (if view.inbox = .active then [crossing.other] else []) := by
  unfold Crossing.activeRows
  rw [shows.outbox.any_active (by rintro _ rfl; exact crossing.outgoingActive),
    shows.inbox.any_active fun _ live => live.1]
  simp

end

end Crossing

/-- An order of the calls on one device: one put of either kind, and binds
before, between and after them. -/
structure Schedule where
  outboxFirst : Bool
  before : Nat
  between : Nat
  after : Nat

namespace Schedule

def binds (count : Nat) : List CrossingCall :=
  List.replicate count .bindPairingOutboxPairKey

def calls (schedule : Schedule) : List CrossingCall :=
  binds schedule.before ++
    (if schedule.outboxFirst then .putPairingOutbox else .putPairingInbox) ::
      (binds schedule.between ++
        (if schedule.outboxFirst then .putPairingInbox else .putPairingOutbox) ::
          binds schedule.after)

def Settles (schedule : Schedule) (crossing : Crossing) : Prop :=
  let boundLast := crossing.linked = true ∧ 0 < schedule.after
  if schedule.outboxFirst then
    if crossing.own < crossing.other then
      crossing.keyed = true ∨ (crossing.linked = true ∧ 0 < schedule.between) ∨
        (crossing.addressed = false ∧ boundLast)
    else crossing.addressed = true ∨ boundLast
  else crossing.keyed = true ∨ boundLast

instance (schedule : Schedule) (crossing : Crossing) :
    Decidable (schedule.Settles crossing) := by
  unfold Settles
  infer_instance

end Schedule

namespace Crossing

theorem View.perform_bind_idem (view : View) :
    (view.perform crossing .bindPairingOutboxPairKey).perform crossing
        .bindPairingOutboxPairKey =
      view.perform crossing .bindPairingOutboxPairKey := by
  obtain ⟨outbox, bound, inbox⟩ := view
  unfold View.perform
  cases linked : crossing.linked <;> cases outbox <;> cases inbox <;>
    by_cases smaller : crossing.own < crossing.other <;>
    simp [smaller]

theorem View.foldl_binds (view : View) (count : Nat) :
    (Schedule.binds count).foldl (View.perform crossing) view =
      if count = 0 then view
      else view.perform crossing .bindPairingOutboxPairKey := by
  induction count generalizing view with
  | zero => rfl
  | succ count induction =>
    rw [Schedule.binds, List.replicate_succ, List.foldl_cons]
    have rest := induction (view.perform crossing .bindPairingOutboxPairKey)
    rw [Schedule.binds] at rest
    rw [rest, View.perform_bind_idem]
    simp

def View.Won (crossing : Crossing) (view : View) : Prop :=
  (view.outbox = .active ↔ crossing.own < crossing.other) ∧
    (view.inbox = .active ↔ ¬ crossing.own < crossing.other)

theorem View.won_iff_settles (schedule : Schedule) :
    View.Won crossing
        (schedule.calls.foldl (View.perform crossing) View.initial) ↔
      schedule.Settles crossing := by
  obtain ⟨outboxFirst, before, between, after⟩ := schedule
  have asymm : crossing.own < crossing.other → ¬ crossing.other < crossing.own :=
    fun smaller => smaller.asymm
  have total : ¬ crossing.own < crossing.other → crossing.other < crossing.own :=
    fun notSmaller => lt_of_le_of_ne (not_lt.mp notSmaller) crossing.differ.symm
  simp only [View.Won, Schedule.calls, Schedule.Settles, List.foldl_append,
    List.foldl_cons, View.foldl_binds]
  have idle : (View.initial).perform crossing .bindPairingOutboxPairKey =
      View.initial := by
    simp [View.perform, View.initial]
  cases outboxFirst <;> cases keyed : crossing.keyed <;>
    cases addressed : crossing.addressed <;> cases linked : crossing.linked <;>
    by_cases smaller : crossing.own < crossing.other <;>
    by_cases noneBetween : between = 0 <;> by_cases noneAfter : after = 0 <;>
    simp_all [View.perform, View.initial, Nat.pos_iff_ne_zero]

theorem Shows.settled_iff
    (shows : crossing.Shows tables View.initial) (schedule : Schedule) :
    crossing.activeRows (crossing.performAll tables schedule.calls) =
        [min crossing.own crossing.other] ↔
      schedule.Settles crossing := by
  rw [(shows.performAll schedule.calls).activeRows,
    ← View.won_iff_settles schedule]
  generalize schedule.calls.foldl (View.perform crossing) View.initial = view
  unfold View.Won
  have differ := crossing.differ
  by_cases smaller : crossing.own < crossing.other
  · rw [min_eq_left smaller.le]
    by_cases outbox : view.outbox = .active <;>
      by_cases inbox : view.inbox = .active <;>
      simp [outbox, inbox, smaller, differ.symm]
  · rw [min_eq_right (not_lt.mp smaller)]
    by_cases outbox : view.outbox = .active <;>
      by_cases inbox : view.inbox = .active <;>
      simp [outbox, inbox, smaller, differ]

end Crossing

/-- Two devices whose pairings cross: what one submitted is what the other
received, under the pair key of the two installations. -/
structure CrossedDevices where
  digest : String → String
  left : Crossing
  right : Crossing
  leftKey : left.pairKey = pairingPairKey digest right.peer left.peer
  rightKey : right.pairKey = pairingPairKey digest left.peer right.peer
  leftReceived : left.other = right.own
  rightReceived : right.other = left.own

namespace CrossedDevices

def smaller (devices : CrossedDevices) : String :=
  min devices.left.own devices.right.own

theorem converge_iff
    (devices : CrossedDevices) (left right : PairingTables)
    (leftFresh : devices.left.Shows left .initial)
    (rightFresh : devices.right.Shows right .initial)
    (leftOrder rightOrder : Schedule) :
    (devices.left.activeRows
          (devices.left.performAll left leftOrder.calls) = [devices.smaller] ∧
      devices.right.activeRows
          (devices.right.performAll right rightOrder.calls) =
        [devices.smaller]) ↔
      leftOrder.Settles devices.left ∧ rightOrder.Settles devices.right := by
  have leftSmaller : devices.smaller =
      min devices.left.own devices.left.other := by
    rw [smaller, devices.leftReceived]
  have rightSmaller : devices.smaller =
      min devices.right.own devices.right.other := by
    rw [smaller, devices.rightReceived, min_comm]
  rw [← leftFresh.settled_iff leftOrder, ← rightFresh.settled_iff rightOrder,
    ← leftSmaller, ← rightSmaller]

def contact (installationId : InstallationId) : ContactRecord :=
  { installationId := installationId
    nickname := "peer"
    publicKey := "key"
    fingerprint := "fingerprint" }

def submitted (pairingId : String) (recipient pairKey payload : Option String) :
    PairingItem :=
  { pairingId := pairingId
    pairKey := pairKey
    sender := recipient.map contact
    capability := none
    expiresAt := 120
    state := .pending
    received := false
    availableActions := [.cancel]
    offerInviteId := none
    offerPayload := payload }

def offered (pairingId : String) (sender : InstallationId) (pairKey : String) :
    PairingItem :=
  { submitted pairingId (some sender) (some pairKey) none with
    capability := some pairingId
    received := true
    availableActions := [.accept, .reject] }

def side (own other : String) (peer : InstallationId) (pairKey : String)
    (known recorded : Bool) (differ : own ≠ other) : Crossing where
  pairKey := pairKey
  peer := peer
  inviteId := "invite"
  outgoing := submitted own (if known then some peer else none) none
    (if recorded then some "\x7b\"inviteId\":\"invite\"\x7d" else none)
  incoming := offered other peer pairKey
  sender := contact peer
  capability := other
  differ := differ
  outgoingActive := rfl
  outgoingKey := by simp [submitted]
  outgoingPeer := by
    cases known <;> simp [submitted, contact]
  incomingActive := rfl
  incomingKey := rfl
  incomingSender := rfl
  senderPeer := rfl
  incomingCapability := rfl

def sample (known recorded : Bool) : CrossedDevices where
  digest := id
  left := side "p1" "p2" "b" "a:b" known recorded (by decide)
  right := side "p2" "p1" "a" "a:b" known recorded (by decide)
  leftKey := show "a:b" = pairingPairKey id "a" "b" by decide
  rightKey := show "a:b" = pairingPairKey id "b" "a" by decide
  leftReceived := rfl
  rightReceived := rfl

theorem shows_empty (crossing : Crossing) :
    crossing.Shows ⟨.empty, .empty⟩ .initial where
  outbox := Table.lookup_empty _
  inbox := Table.lookup_empty _
  outboxForeign := fun _ _ _ found => by cases found
  inboxForeign := fun _ _ _ found => by cases found

def submittedFirst : Schedule :=
  { outboxFirst := true, before := 0, between := 0, after := 1 }

/-- With no column of the outgoing row filled in, nothing ties it to the pair;
with its recipient known and its key bound late, each device keeps the other's
pairing. -/
theorem crossed_pairings_stay_crossed :
    let run (known recorded : Bool) (left : Bool) :=
      let crossing :=
        if left then (sample known recorded).left
        else (sample known recorded).right
      crossing.activeRows
        (crossing.performAll ⟨.empty, .empty⟩ submittedFirst.calls)
    run false false true = ["p1", "p2"] ∧ run false false false = ["p2", "p1"] ∧
      run true true true = ["p2"] ∧ run true true false = ["p1"] := by
  decide

theorem recorded_pairings_converge :
    let devices := sample false true
    submittedFirst.Settles devices.left ∧
      submittedFirst.Settles devices.right ∧
      devices.left.activeRows (devices.left.performAll ⟨.empty, .empty⟩
        submittedFirst.calls) = ["p1"] ∧
      devices.right.activeRows (devices.right.performAll ⟨.empty, .empty⟩
        submittedFirst.calls) = ["p1"] := by
  have settled : submittedFirst.Settles (sample false true).left ∧
      submittedFirst.Settles (sample false true).right := by
    decide
  exact ⟨settled.1, settled.2, (converge_iff (sample false true) _ _
    (shows_empty _) (shows_empty _) submittedFirst submittedFirst).mpr settled⟩

end CrossedDevices

/-! ## Storing an item beside the rows of its pair -/

section

variable {δ : Type}

def PairingTable.stateAt (table : PairingTable δ) (pairingId : String) :
    Option InviteState :=
  (table.lookup pairingId).map PairingRow.state

def PairingTable.clear (table : PairingTable δ) (selected : PairingRow δ → Bool)
    (pairingId : String) : Bool :=
  table.rows.entries.all fun entry =>
    !(entry.2.active && (selected entry.2 && decide (entry.1 ≠ pairingId)))

/-- The item is stored in its state, and no other row of the two tables changes
state. -/
structure StoresAlone (item : PairingItem) (own own' : PairingTable δ)
    (other other' : PairingTable γ) : Prop where
  stored : own'.stateAt item.pairingId = some item.state
  own : ∀ pairingId, pairingId ≠ item.pairingId →
    own'.stateAt pairingId = own.stateAt pairingId
  other : ∀ pairingId, other'.stateAt pairingId = other.stateAt pairingId

def UndisturbedInbox (tables : PairingTables) (item : PairingItem) : Prop :=
  ∃ after, putPairingInbox tables item = .ok after ∧
    StoresAlone item tables.inbox after.inbox tables.outbox after.outbox

def UndisturbedOutbox (tables : PairingTables) (item : PairingItem) : Prop :=
  ∃ after, putPairingOutbox tables item = .ok after ∧
    StoresAlone item tables.outbox after.outbox tables.inbox after.inbox

/-- A row the put gives way to is there only when nothing is left to store, and
otherwise no row is there that has to give way. -/
def roomInInbox (tables : PairingTables) (item : PairingItem) : Bool :=
  item.sender.any fun sender => item.capability.isSome &&
    item.pairKey.all fun pairKey =>
      if tables.outbox.hasSuperseded pairKey item.pairingId then
        tables.inbox.stateAt item.pairingId = some item.state
      else
        tables.inbox.clear (·.keyed pairKey) item.pairingId &&
          tables.outbox.clear (fun row => row.details.recipientInstallationId =
            some sender.installationId) item.pairingId

def roomInOutbox (tables : PairingTables) (item : PairingItem) : Bool :=
  item.pairKey.all fun pairKey =>
    if tables.inbox.hasSuperseded pairKey item.pairingId then
      tables.outbox.stateAt item.pairingId = some item.state
    else
      tables.outbox.clear (·.keyed pairKey) item.pairingId &&
        tables.inbox.clear (·.keyed pairKey) item.pairingId

def Retires (f : String → PairingRow δ → PairingRow δ)
    (selected : PairingRow δ → Bool) (pairingId : String) : Prop :=
  ∃ state, state.isOutstanding = false ∧ ∀ target row,
    (f target row).state =
      if row.active && (selected row && decide (target ≠ pairingId)) then state
      else row.state

theorem retiredRow_retires (retired : state.isOutstanding = false) :
    Retires (δ := δ) (retiredRow state pairKey pairingId) (·.keyed pairKey)
      pairingId := by
  refine ⟨state, retired, fun target row => ?_⟩
  unfold retiredRow
  split
  · rfl
  · rfl

theorem crossedOutboxRow_retires :
    Retires (crossedOutboxRow pairKey recipient pairingId)
      (fun row => row.details.recipientInstallationId = some recipient)
      pairingId := by
  refine ⟨.cancelled, rfl, fun target row => ?_⟩
  unfold crossedOutboxRow
  rw [Bool.and_comm]
  split
  · rfl
  · rfl

theorem Retires.kept_iff
    {table table' : PairingTable δ} (retires : Retires f selected pairingId)
    (found : ∀ target, target ≠ pairingId →
      table'.lookup target = (table.lookup target).map (f target)) :
    (∀ target, target ≠ pairingId →
        table'.stateAt target = table.stateAt target) ↔
      table.clear selected pairingId = true := by
  obtain ⟨state, retired, retires⟩ := retires
  unfold clear
  rw [List.all_eq_true]
  constructor
  · rintro kept ⟨target, row⟩ stored
    have present := Table.lookup_eq_some_iff.mpr stored
    rw [Bool.not_eq_true', ← Bool.not_eq_true]
    intro chosen
    simp only [Bool.and_eq_true, decide_eq_true_eq] at chosen
    have same := kept target chosen.2.2
    rw [stateAt, found target chosen.2.2, stateAt,
      lookup, present] at same
    simp only [Option.map_some, Option.some.injEq, retires, chosen, ne_eq,
      not_false_eq_true, decide_true, Bool.and_true, if_true] at same
    have active := chosen.1
    rw [PairingRow.active, ← same, retired] at active
    cases active
  · intro clear target other
    rw [stateAt, found target other, stateAt]
    cases present : table.lookup target with
    | none => rfl
    | some row =>
      have free := clear _ (Table.lookup_eq_some_iff.mp present)
      rw [Bool.not_eq_true'] at free
      simp only [Option.map_some, retires, free, Bool.false_eq_true, if_false]

theorem Retires.own_kept (retires : Retires f selected pairingId)
    (row : PairingRow δ) : (f pairingId row).state = row.state := by
  obtain ⟨_, _, retires⟩ := retires
  simp [retires]

variable {own' : PairingTable δ}

theorem storesAlone_iff {other other' : PairingTable γ}
    (retiresOwn : Retires f selected item.pairingId)
    (retiresOther : Retires g chosen item.pairingId)
    (stored : row.state = item.state)
    (ownFound : ∀ target, own'.lookup target =
      if target = item.pairingId then some row
      else (own.lookup target).map (f target))
    (otherFound : ∀ target,
      other'.lookup target = (other.lookup target).map (g target)) :
    StoresAlone item own own' other other' ↔
      (own.clear selected item.pairingId &&
        other.clear chosen item.pairingId) = true := by
  have kept := retiresOwn.kept_iff fun target differs =>
    (ownFound target).trans (if_neg differs)
  have spared := retiresOther.kept_iff fun target _ => otherFound target
  rw [Bool.and_eq_true, ← kept, ← spared]
  constructor
  · exact fun alone => ⟨alone.own, fun target _ => alone.other target⟩
  · rintro ⟨ownKept, otherKept⟩
    refine ⟨by simp [stateAt, ownFound, stored], ownKept, ?_⟩
    intro target
    by_cases same : target = item.pairingId
    · subst same
      rw [stateAt, otherFound, stateAt]
      cases other.lookup item.pairingId with
      | none => rfl
      | some row => simp [retiresOther.own_kept row]
    · exact otherKept target same

theorem storesAlone_unchanged :
    StoresAlone item own own other other ↔
      own.stateAt item.pairingId = some item.state :=
  ⟨StoresAlone.stored, fun stored => ⟨stored, fun _ _ => rfl, fun _ => rfl⟩⟩

theorem storesAlone_new (stored : row.state = item.state)
    (found : ∀ target, own'.lookup target =
      if target = item.pairingId then some row else own.lookup target) :
    StoresAlone item own own' other other := by
  refine ⟨by simp [stateAt, found, stored], ?_, fun _ => rfl⟩
  intro target differs
  rw [stateAt, found, if_neg differs, stateAt]

theorem undisturbedInbox_iff (tables : PairingTables) (item : PairingItem) :
    UndisturbedInbox tables item ↔ roomInInbox tables item = true := by
  unfold UndisturbedInbox roomInInbox
  cases hasSender : item.sender with
  | none => simp [putPairingInbox, hasSender]
  | some sender =>
  cases hasCapability : item.capability with
  | none => simp [putPairingInbox, hasSender, hasCapability]
  | some capability =>
  simp only [Option.any_some, Option.isSome_some, Bool.true_and]
  cases key : item.pairKey with
  | none =>
    obtain ⟨after, stored, outbox, inbox⟩ := upsertPairingInbox_ok tables
      item sender capability (by simp [PairingTable.FreeFor, key])
    have put : putPairingInbox tables item = .ok after := by
      simpa [putPairingInbox, hasSender, hasCapability, key] using stored
    simp only [put, Except.ok.injEq, exists_eq_left', outbox]
    exact iff_of_true (storesAlone_new rfl inbox) rfl
  | some pairKey =>
    rw [Option.all_some]
    cases superseded : tables.outbox.hasSuperseded pairKey item.pairingId with
    | true =>
      simp only [putPairingInbox_superseded hasSender hasCapability key
        superseded, Except.ok.injEq, exists_eq_left', storesAlone_unchanged,
        if_true, decide_eq_true_eq]
    | false =>
      obtain ⟨after, put, outbox, inbox⟩ := putPairingInbox_ok hasSender
        hasCapability key superseded
      simp only [put, Except.ok.injEq, exists_eq_left', Bool.false_eq_true,
        if_false]
      exact storesAlone_iff (retiredRow_retires isOutstanding_archived)
        crossedOutboxRow_retires rfl inbox outbox

theorem undisturbedOutbox_iff (tables : PairingTables) (item : PairingItem) :
    UndisturbedOutbox tables item ↔ roomInOutbox tables item = true := by
  unfold UndisturbedOutbox roomInOutbox
  cases key : item.pairKey with
  | none =>
    obtain ⟨after, put, inbox, outbox⟩ := putPairingOutbox_unkeyed tables key
    simp only [put, Except.ok.injEq, exists_eq_left', inbox]
    exact iff_of_true (storesAlone_new rfl outbox) rfl
  | some pairKey =>
    rw [Option.all_some]
    cases superseded : tables.inbox.hasSuperseded pairKey item.pairingId with
    | true =>
      simp only [putPairingOutbox_superseded key superseded,
        Except.ok.injEq, exists_eq_left', storesAlone_unchanged, if_true,
        decide_eq_true_eq]
    | false =>
      obtain ⟨after, put, inbox, outbox⟩ :=
        putPairingOutbox_ok key superseded
      simp only [put, Except.ok.injEq, exists_eq_left', Bool.false_eq_true,
        if_false]
      exact storesAlone_iff (retiredRow_retires isOutstanding_cancelled)
        (retiredRow_retires isOutstanding_archived) rfl outbox
        inbox

end

/-- Neither put looks at the state of the item it stores, so a finished one needs
the same room as any other. -/
theorem item_is_stored_alone_iff (tables : PairingTables) (item : PairingItem) :
    (UndisturbedInbox tables item ↔ roomInInbox tables item = true) ∧
      (UndisturbedOutbox tables item ↔ roomInOutbox tables item = true) :=
  ⟨undisturbedInbox_iff tables item, undisturbedOutbox_iff tables item⟩

def requested (pairingId : String) (state : InviteState) : PairingItem :=
  { CrossedDevices.offered pairingId "b" "a:b" with state := state }

def requestedAgain : PairingTables :=
  let stored := do
    putPairingInbox (← putPairingInbox .empty (requested "p1" .rejected))
      (requested "p2" .pending)
  stored.toOption.getD .empty

theorem archiving_a_request_retires_another :
    requestedAgain.inbox.stateAt "p2" = some .pending ∧
      (putPairingInbox requestedAgain (requested "p1" .archived)).toOption.map
          (·.inbox.stateAt "p2") = some (some .archived) ∧
      ¬ UndisturbedInbox requestedAgain (requested "p1" .archived) := by
  refine ⟨by decide +kernel, by decide +kernel, ?_⟩
  rw [undisturbedInbox_iff]
  decide +kernel

end Torchat.Storage
