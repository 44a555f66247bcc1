import Torchat.Relay.Integrity

namespace Torchat

variable {frame : RendezvousServerFrame}

namespace RendezvousServerFrame

def requests (handle : String) : RendezvousServerFrame → Bool
  | .pairingRequested _ slotHandle .. => slotHandle = handle
  | _ => false

inductive Terminal (pairingId : Uuid) : RendezvousServerFrame → Prop
  | rejected : Terminal pairingId (.pairingRejected pairingId)
  | finalized : Terminal pairingId (.pairingFinalized pairingId)
  | cancelled : Terminal pairingId (.pairingCancelled pairingId)

inductive Outcome (pairingId : Uuid) : RendezvousServerFrame → Prop
  | accepted (response : Bytes) :
      Outcome pairingId (.pairingAccepted pairingId response)
  | ended {frame : RendezvousServerFrame} :
      frame.Terminal pairingId → Outcome pairingId frame

theorem Terminal.requests (terminal : frame.Terminal pairingId)
    (handle : String) : frame.requests handle = false := by
  cases terminal <;> rfl

theorem Outcome.names (outcome : frame.Outcome pairingId) :
    frame.pairing? = some pairingId ∧ frame.tokens = [] := by
  cases outcome with
  | accepted => exact ⟨rfl, rfl⟩
  | ended terminal => cases terminal <;> exact ⟨rfl, rfl⟩

end RendezvousServerFrame

def RendezvousClientFrame.credentials :
    RendezvousClientFrame → Option (Uuid × String)
  | .acceptPairing pairingId sideToken _ => some (pairingId, sideToken)
  | .rejectPairing pairingId sideToken => some (pairingId, sideToken)
  | .pairingCommitted pairingId sideToken => some (pairingId, sideToken)
  | .pairingFinalized pairingId sideToken => some (pairingId, sideToken)
  | .cancelPairing pairingId sideToken => some (pairingId, sideToken)
  | _ => none

namespace Relay

open Foundation

def State.Issued (relay : State Digest) (token : String) : Prop :=
  ∃ entry ∈ relay.sent, token ∈ entry.2.tokens

/-- The tokens a frame may have drawn for it are two, and new. A frame that is
refused draws none, and any values will do. -/
def FreshTokens (relay : State Digest) : Input → Prop
  | .command chance (.frame _ (.createPairingSlot ..))
  | .command chance (.frame _ (.beginPairing ..)) =>
    chance.tokens 0 ≠ chance.tokens 1 ∧
    ¬ relay.Issued (chance.tokens 0) ∧ ¬ relay.Issued (chance.tokens 1)
  | _ => True

def State.requests (relay : State Digest) (handle : String) : Nat :=
  relay.sent.countP fun entry => entry.2.requests handle

def State.AskedOwner (relay : State Digest) (pairingId : Uuid)
    (owner : ConnectionId) (token : String) : Prop :=
  ∃ slotHandle key offer expiresAt,
    (owner, .pairingRequested pairingId slotHandle token key offer expiresAt) ∈
      relay.sent

def State.ToldJoiner (relay : State Digest) (pairingId : Uuid)
    (joiner : ConnectionId) (token : String) : Prop :=
  ∃ requestId expiresAt,
    (joiner, .pairingStarted requestId pairingId token expiresAt) ∈ relay.sent

/-- The side token is the one this party was sent for this very bridge: its
digest is the one the bridge keeps. -/
def State.IssuedTo
    (relay : State Digest) (hash : String → Digest) (pairingId : Uuid)
    (bridge : Bridge Digest) (party : ConnectionId) (token : String) : Prop :=
  (party = bridge.owner ∧ bridge.ownerTokenHash = hash token ∧
    relay.AskedOwner pairingId party token) ∨
  (party = bridge.joiner ∧ bridge.joinerTokenHash = hash token ∧
    relay.ToldJoiner pairingId party token)

/-- The bridge opened under this id with this owner token is still there. A
pairing id may be used again, a token is not. -/
def State.Holds (relay : State Digest) (hash : String → Digest)
    (pairingId : Uuid) (ownerToken : String) : Prop :=
  ∃ bridge, relay.bridges.lookup pairingId = some bridge ∧
    bridge.ownerTokenHash = hash ownerToken

def State.news (before after : State Digest) :
    List (ConnectionId × RendezvousServerFrame) :=
  after.sent.drop before.sent.length

/-- The bridge that what a step says about a pairing is about: the one stored
under its id or, where there is none, the one the step opens. -/
def State.subject (before after : State Digest) (pairingId : Uuid) :
    Option (Bridge Digest) :=
  (before.bridges.lookup pairingId).or (after.bridges.lookup pairingId)

variable [DecidableEq Digest] (hash : String → Digest)

/-- What the record of sent frames knows about the slots and the bridges. -/
structure Ledger (relay : State Digest) : Prop where
  keyed : ∀ digest slot, relay.slots.lookup digest = some slot →
    digest = hash slot.handle
  waiting : ∀ digest slot, relay.slots.lookup digest = some slot →
    relay.Issued slot.handle ∧ relay.requests slot.handle = 0
  once : ∀ handle, relay.requests handle ≤ 1
  asked : ∀ handle, 0 < relay.requests handle → relay.Issued handle
  opened : ∀ pairingId bridge, relay.bridges.lookup pairingId = some bridge →
    ∃ ownerToken joinerToken,
      bridge.ownerTokenHash = hash ownerToken ∧
      bridge.joinerTokenHash = hash joinerToken ∧
      relay.AskedOwner pairingId bridge.owner ownerToken ∧
      relay.ToldJoiner pairingId bridge.joiner joinerToken

/-! ## The record only grows -/

section Growth

omit [DecidableEq Digest]

variable {relay relay' : State Digest} (grown : relay'.sent = relay.sent ++ new)

include grown

theorem news_of_grown : relay.news relay' = new := by
  rw [State.news, grown, List.drop_left]

theorem mem_of_grown (member : entry ∈ relay.sent) : entry ∈ relay'.sent :=
  grown ▸ List.mem_append_left new member

theorem State.Issued.grow (issued : relay.Issued token) :
    relay'.Issued token := by
  obtain ⟨entry, member, handed⟩ := issued
  exact ⟨entry, mem_of_grown grown member, handed⟩

theorem State.AskedOwner.grow (asked : relay.AskedOwner pairingId owner token) :
    relay'.AskedOwner pairingId owner token := by
  obtain ⟨slotHandle, key, offer, expiresAt, member⟩ := asked
  exact ⟨slotHandle, key, offer, expiresAt, mem_of_grown grown member⟩

theorem State.ToldJoiner.grow (told : relay.ToldJoiner pairingId joiner token) :
    relay'.ToldJoiner pairingId joiner token := by
  obtain ⟨requestId, expiresAt, member⟩ := told
  exact ⟨requestId, expiresAt, mem_of_grown grown member⟩

theorem requests_of_grown (handle : String) :
    relay'.requests handle =
      relay.requests handle + new.countP fun entry => entry.2.requests handle := by
  rw [State.requests, grown, List.countP_append, State.requests]

omit grown in
theorem State.AskedOwner.issued
    (asked : relay.AskedOwner pairingId owner token) : relay.Issued token := by
  obtain ⟨slotHandle, key, offer, expiresAt, member⟩ := asked
  exact ⟨_, member, List.mem_singleton.mpr rfl⟩

end Growth

theorem Effect.grown (effect : Effect hash relay input relay') :
    ∃ new, relay'.sent = relay.sent ++ new := by
  cases effect with
  | ignored | slotCancelled | connected | disconnected | ticked =>
    exact ⟨[], (List.append_nil _).symm⟩
  | answered | slotCreated | bridgeOpened | responded | bridgeEnded =>
    exact ⟨_, rfl⟩

namespace Ledger

theorem empty : Ledger hash (State.empty : State Digest) where
  keyed := by
    intro digest slot found
    cases found
  waiting := by
    intro digest slot found
    cases found
  once := fun _ => Nat.zero_le 1
  asked := by
    intro handle asked
    cases asked
  opened := by
    intro pairingId bridge found
    cases found

variable {hash}

theorem weaken (ledger : Ledger hash relay)
    (grown : relay'.sent = relay.sent ++ new)
    (quiet : ∀ entry ∈ new, ∀ handle, entry.2.requests handle = false)
    (slots : ∀ digest slot, relay'.slots.lookup digest = some slot →
      relay.slots.lookup digest = some slot)
    (bridges : ∀ pairingId bridge,
      relay'.bridges.lookup pairingId = some bridge →
      relay.bridges.lookup pairingId = some bridge) : Ledger hash relay' := by
  have same : ∀ handle, relay'.requests handle = relay.requests handle := by
    intro handle
    rw [requests_of_grown grown, List.countP_eq_zero.mpr, Nat.add_zero]
    intro entry member
    simp [quiet entry member handle]
  constructor
  · intro digest slot found
    exact ledger.keyed digest slot (slots digest slot found)
  · intro digest slot found
    have before := ledger.waiting digest slot (slots digest slot found)
    exact ⟨before.1.grow grown, (same _).trans before.2⟩
  · intro handle
    exact (same handle).le.trans (ledger.once handle)
  · intro handle asked
    exact (ledger.asked handle (same handle ▸ asked)).grow grown
  · intro pairingId bridge found
    obtain ⟨ownerToken, joinerToken, ownerHash, joinerHash, asked, told⟩ :=
      ledger.opened pairingId bridge (bridges pairingId bridge found)
    exact ⟨ownerToken, joinerToken, ownerHash, joinerHash, asked.grow grown,
      told.grow grown⟩

theorem createSlot (ledger : Ledger hash relay)
    (unissued : ¬ relay.Issued slot.handle)
    (grown : relay'.sent = relay.sent ++ [entry])
    (quiet : ∀ handle, entry.2.requests handle = false)
    (handed : slot.handle ∈ entry.2.tokens)
    (slots : relay'.slots = relay.slots.insert (hash slot.handle) slot)
    (bridges : relay'.bridges = relay.bridges) : Ledger hash relay' := by
  have same : ∀ handle, relay'.requests handle = relay.requests handle := by
    intro handle
    rw [requests_of_grown grown]
    simp [quiet]
  have old : Ledger hash { relay' with slots := relay.slots } :=
    ledger.weaken grown (by simpa using quiet) (fun _ _ found => found)
      (fun _ _ found => bridges ▸ found)
  refine ⟨?_, ?_, old.once, old.asked, old.opened⟩
  · intro digest found foundAt
    rw [slots, Table.lookup_insert] at foundAt
    split at foundAt
    · rename_i here
      cases foundAt
      exact here
    · exact old.keyed digest found foundAt
  · intro digest found foundAt
    rw [slots, Table.lookup_insert] at foundAt
    split at foundAt
    · cases foundAt
      refine ⟨⟨entry, grown ▸ List.mem_append_right _ ?_, handed⟩, ?_⟩
      · exact List.mem_singleton.mpr rfl
      · rw [same]
        by_contra asked
        exact unissued (ledger.asked _ (Nat.pos_of_ne_zero asked))
    · exact old.waiting digest found foundAt

theorem openBridge (ledger : Ledger hash relay)
    (found : relay.slots.lookup (hash slotHandle) = some slot)
    (grown : relay'.sent = relay.sent ++ [(bridge.owner,
          .pairingRequested pairingId slot.handle ownerToken key offer
            requestedUntil),
        (bridge.joiner,
          .pairingStarted requestId pairingId joinerToken startedUntil)])
    (ownerHash : bridge.ownerTokenHash = hash ownerToken)
    (joinerHash : bridge.joinerTokenHash = hash joinerToken)
    (slots : relay'.slots = relay.slots.erase (hash slotHandle))
    (bridges : relay'.bridges = relay.bridges.insert pairingId bridge) :
    Ledger hash relay' := by
  have waiting := ledger.waiting _ slot found
  have requests : ∀ handle, relay'.requests handle =
      relay.requests handle + if slot.handle = handle then 1 else 0 := by
    intro handle
    rw [requests_of_grown grown]
    simp [List.countP_cons, RendezvousServerFrame.requests]
  constructor
  · intro digest other foundAt
    rw [slots] at foundAt
    exact ledger.keyed digest other (lookup_of_erase foundAt)
  · intro digest other foundAt
    rw [slots, Table.lookup_erase] at foundAt
    split at foundAt
    · cases foundAt
    · rename_i elsewhere
      have before := ledger.waiting digest other foundAt
      have different : slot.handle ≠ other.handle := by
        intro equal
        apply elsewhere
        rw [ledger.keyed digest other foundAt, ← equal,
          ← ledger.keyed _ slot found]
      refine ⟨before.1.grow grown, ?_⟩
      rw [requests, before.2, if_neg different]
  · intro handle
    rw [requests]
    split
    · rename_i equal
      rw [← equal, waiting.2]
    · exact ledger.once handle
  · intro handle asked
    rw [requests] at asked
    split at asked
    · rename_i equal
      exact equal ▸ waiting.1.grow grown
    · exact (ledger.asked handle asked).grow grown
  · intro candidate stored foundAt
    rw [bridges, Table.lookup_insert] at foundAt
    split at foundAt
    · rename_i here
      cases foundAt
      subst here
      exact ⟨ownerToken, joinerToken, ownerHash, joinerHash,
        ⟨slot.handle, key, offer, requestedUntil, by simp [grown]⟩,
        ⟨requestId, startedUntil, by simp [grown]⟩⟩
    · obtain ⟨owner, joiner, ownerHash, joinerHash, asked, told⟩ :=
        ledger.opened candidate stored foundAt
      exact ⟨owner, joiner, ownerHash, joinerHash, asked.grow grown,
        told.grow grown⟩

end Ledger

theorem Ending.terminal {pairingId : Uuid} {id : ConnectionId} {token : String}
    {frame : RendezvousClientFrame}
    (ending : Ending bridge hash pairingId id token frame news) :
    news.Terminal pairingId := by
  cases ending with
  | rejected => exact .rejected
  | committed | finalized => exact .finalized
  | cancelled => exact .cancelled

theorem Ledger.effect
    (ledger : Ledger hash relay) (effect : Effect hash relay input relay')
    (fresh : FreshTokens relay input) : Ledger hash relay' := by
  have unheard : ∀ {frames : List (ConnectionId × RendezvousServerFrame)},
      (∀ entry ∈ frames, ∀ handle, entry.2.requests handle = false) →
      ∀ entry ∈ delivered relay.connections frames, ∀ handle,
        entry.2.requests handle = false :=
    fun quiet entry member => quiet entry (List.mem_of_mem_filter member)
  cases effect with
  | ignored =>
    exact ledger.weaken (List.append_nil _).symm (by simp)
      (fun _ _ found => found) (fun _ _ found => found)
  | answered _ _ _ _ answer _ _ noPairing =>
    refine ledger.weaken rfl ?_ (fun _ _ found => found)
      (fun _ _ found => found)
    simp only [List.mem_singleton, forall_eq]
    intro handle
    cases answer <;> first | rfl | cases noPairing
  | slotCreated chance id requestId key ttl connection slot _ _ _ _ _ _ _ named =>
    refine ledger.createSlot (named ▸ fresh.2.1) rfl (fun _ => rfl) ?_
      (named ▸ rfl) rfl
    rw [named]
    exact List.mem_cons_self
  | bridgeOpened _ _ _ _ _ _ _ _ _ slot bridge _ _ _ _ found _ _ _ _ _ ownedBy
      joinedBy ownerToken joinerToken =>
      subst joinedBy
      rw [← ownedBy]
      exact ledger.openBridge found rfl ownerToken joinerToken rfl rfl
  | responded =>
    exact ledger.weaken rfl (unheard (by simp [RendezvousServerFrame.requests]))
      (fun _ _ found => found) (fun _ _ found => found)
  | bridgeEnded _ _ _ _ _ _ _ _ _ ending =>
    have quiet := (ending.terminal hash).requests
    exact ledger.weaken rfl (unheard (by simp [quiet]))
      (fun _ _ => lookup_of_erase) (fun _ _ => lookup_of_erase)
  | slotCancelled =>
    exact ledger.weaken (List.append_nil _).symm (by simp)
      (fun _ _ => lookup_of_erase) (fun _ _ found => found)
  | connected =>
    exact ledger.weaken (List.append_nil _).symm (by simp)
      (fun _ _ found => found) (fun _ _ found => found)
  | disconnected =>
    refine ledger.weaken (List.append_nil _).symm (by simp) ?_
      (fun _ _ => lookup_of_dropBridges)
    intro digest slot found
    simp only [disconnect, dropBridges, Table.lookup_retain,
      Option.filter_eq_some_iff] at found
    exact found.1
  | ticked =>
    refine ledger.weaken (List.append_nil _).symm (by simp) ?_
      (fun _ _ => lookup_of_dropBridges)
    intro digest slot found
    simp only [expireState, dropBridges, Table.lookup_retain,
      Option.filter_eq_some_iff] at found
    exact found.1

theorem Ending.shown {pairingId : Uuid} {id : ConnectionId} {token : String}
    {frame : RendezvousClientFrame}
    (ending : Ending bridge hash pairingId id token frame news) :
    frame.credentials = some (pairingId, token) ∧
    ((id = bridge.owner ∧ bridge.ownerTokenHash = hash token) ∨
      (id = bridge.joiner ∧ bridge.joinerTokenHash = hash token)) := by
  have side : ∀ owner, authorize hash (some bridge) id token owner = true →
      (id = bridge.owner ∧ bridge.ownerTokenHash = hash token) ∨
        (id = bridge.joiner ∧ bridge.joinerTokenHash = hash token) := by
    intro owner allowed
    cases owner with
    | false =>
      simp only [authorize, Option.any_some, Bool.false_and, Bool.false_or,
        Bool.not_false, Bool.true_and, Bool.and_eq_true,
        decide_eq_true_eq] at allowed
      exact .inr ⟨allowed.1.symm, allowed.2⟩
    | true =>
      simp only [authorize, Option.any_some, Bool.true_and, Bool.not_true,
        Bool.false_and, Bool.or_false, Bool.and_eq_true,
        decide_eq_true_eq] at allowed
      exact .inl ⟨allowed.1.symm, allowed.2⟩
  have either (allowed : authorizeEither hash (some bridge) id token = true) :
      (id = bridge.owner ∧ bridge.ownerTokenHash = hash token) ∨
        (id = bridge.joiner ∧ bridge.joinerTokenHash = hash token) := by
    rcases Bool.or_eq_true_iff.mp allowed with owner | joiner
    · exact side true owner
    · exact side false joiner
  cases ending with
  | rejected allowed => exact ⟨rfl, either allowed⟩
  | committed allowed => exact ⟨rfl, side false allowed⟩
  | finalized allowed => exact ⟨rfl, side true allowed⟩
  | cancelled allowed => exact ⟨rfl, either allowed⟩

theorem Ledger.issuedTo
    (ledger : Ledger hash relay) (injective : Function.Injective hash)
    (found : relay.bridges.lookup pairingId = some bridge)
    (shown : (party = bridge.owner ∧ bridge.ownerTokenHash = hash token) ∨
      (party = bridge.joiner ∧ bridge.joinerTokenHash = hash token)) :
    relay.IssuedTo hash pairingId bridge party token := by
  obtain ⟨ownerToken, joinerToken, ownerHash, joinerHash, asked, told⟩ :=
    ledger.opened pairingId bridge found
  rcases shown with ⟨rfl, matches'⟩ | ⟨rfl, matches'⟩
  · cases injective (ownerHash.symm.trans matches')
    exact .inl ⟨rfl, matches', asked⟩
  · cases injective (joinerHash.symm.trans matches')
    exact .inr ⟨rfl, matches', told⟩

omit [DecidableEq Digest] in
theorem notMem_news (same : relay'.sent = relay.sent) :
    entry ∉ State.news relay relay' := by
  rw [news_of_grown (same.trans (List.append_nil _).symm)]
  exact List.not_mem_nil

/-- A party hears about a stored pairing, at the word of one that showed its
token. -/
def Told (relay : State Digest) (input : Input) (relay' : State Digest)
    (target : ConnectionId) (frame : RendezvousServerFrame) (pairingId : Uuid) :
    Prop :=
  ∃ bridge chance sender request token,
    relay.bridges.lookup pairingId = some bridge ∧
    bridge.HasParty target = true ∧
    input = .command chance (.frame sender request) ∧
    request.credentials = some (pairingId, token) ∧
    ((sender = bridge.owner ∧ bridge.ownerTokenHash = hash token) ∨
      (sender = bridge.joiner ∧ bridge.joinerTokenHash = hash token)) ∧
    (frame.Terminal pairingId → relay'.bridges = relay.bridges.erase pairingId)

theorem Effect.named_cases (effect : Effect hash relay input relay')
    (sent : (target, frame) ∈ relay.news relay')
    (names : frame.pairing? = some pairingId) :
    (frame.tokens ≠ [] ∧
      ∃ bridge, relay.subject relay' pairingId = some bridge) ∨
    Told hash relay input relay' target frame pairingId := by
  cases effect with
  | ignored | slotCancelled | connected | disconnected | ticked =>
    exact absurd sent (notMem_news rfl)
  | answered _ _ _ _ answer _ _ noPairing =>
    rw [news_of_grown rfl, List.mem_singleton] at sent
    cases sent
    cases noPairing.symm.trans names
  | slotCreated =>
    rw [news_of_grown rfl, List.mem_singleton] at sent
    cases sent
    cases names
  | bridgeOpened _ _ _ opened _ _ _ _ _ _ bridge _ _ _ _ _ _ unused =>
    rw [news_of_grown rfl] at sent
    simp only [List.mem_cons, List.not_mem_nil, or_false] at sent
    obtain ⟨rfl, drawn⟩ : opened = pairingId ∧ frame.tokens ≠ [] := by
      rcases sent with same | same
      · cases same
        exact ⟨Option.some.inj names, List.cons_ne_nil _ _⟩
      · cases same
        exact ⟨Option.some.inj names, List.cons_ne_nil _ _⟩
    refine .inl ⟨drawn, bridge, ?_⟩
    rw [State.subject, unused, Option.none_or, Table.lookup_insert, if_pos rfl]
  | responded chance id _ sideToken _ bridge _ found allowed =>
    rw [news_of_grown rfl] at sent
    cases List.mem_singleton.mp (List.mem_of_mem_filter sent)
    cases names
    exact .inr ⟨bridge, chance, id, _, sideToken, found,
      by simp [Bridge.HasParty], rfl, rfl, .inl ⟨allowed.1.symm, allowed.2⟩,
      nofun⟩
  | bridgeEnded chance id _ sideToken request news bridge _ found ending =>
    rw [news_of_grown rfl] at sent
    have member := List.mem_of_mem_filter sent
    simp only [List.mem_cons, List.not_mem_nil, or_false,
      Prod.mk.injEq] at member
    obtain ⟨rfl, party⟩ : frame = news ∧ bridge.HasParty target = true := by
      rcases member with ⟨rfl, rfl⟩ | ⟨rfl, rfl⟩
      · exact ⟨rfl, by simp [Bridge.HasParty]⟩
      · exact ⟨rfl, by simp [Bridge.HasParty]⟩
    have ended := RendezvousServerFrame.Outcome.ended (ending.terminal hash)
    cases ended.names.1.symm.trans names
    obtain ⟨credentials, shown⟩ := ending.shown hash
    exact .inr ⟨bridge, chance, id, request, sideToken, found, party, rfl,
      credentials, shown, fun _ => rfl⟩

theorem Effect.outcome_cases (effect : Effect hash relay input relay')
    (sent : (target, frame) ∈ relay.news relay')
    (outcome : frame.Outcome pairingId) :
    Told hash relay input relay' target frame pairingId :=
  (effect.named_cases hash sent outcome.names.1).resolve_left
    fun opened => opened.1 outcome.names.2

theorem Effect.subject_of_named (effect : Effect hash relay input relay')
    (sent : (target, frame) ∈ relay.news relay')
    (names : frame.pairing? = some pairingId) :
    ∃ bridge, relay.subject relay' pairingId = some bridge := by
  obtain ⟨_, about⟩ | ⟨bridge, _, _, _, _, found, _⟩ :=
    effect.named_cases hash sent names
  · exact about
  · exact ⟨bridge, by rw [State.subject, found, Option.some_or]⟩

theorem Effect.bridge_cases (effect : Effect hash relay input relay')
    (found : relay'.bridges.lookup pairingId = some bridge) :
    relay.bridges.lookup pairingId = some bridge ∨
    ∃ token, bridge.ownerTokenHash = hash token ∧
      (FreshTokens relay input → ¬ relay.Issued token) := by
  cases effect with
  | ignored | answered | slotCreated | responded | slotCancelled | connected =>
    exact .inl found
  | bridgeEnded => exact .inl (lookup_of_erase found)
  | disconnected | ticked => exact .inl (lookup_of_dropBridges found)
  | bridgeOpened chance _ _ _ _ _ _ _ _ _ opened _ _ _ _ _ _ _ _ _ _ _ _
      ownerToken =>
      rw [Table.lookup_insert] at found
      split at found
      · cases found
        exact .inr ⟨chance.tokens 0, ownerToken, fun fresh => fresh.2.1⟩
      · exact .inl found

structure Gone (relay : State Digest) (pairingId : Uuid) (ownerToken : String) :
    Prop where
  issued : relay.Issued ownerToken
  removed : ¬ relay.Holds hash pairingId ownerToken

theorem Gone.effect (injective : Function.Injective hash)
    (gone : Gone hash relay pairingId ownerToken)
    (effect : Effect hash relay input relay')
    (fresh : FreshTokens relay input) :
    Gone hash relay' pairingId ownerToken := by
  obtain ⟨new, grown⟩ := effect.grown hash
  refine ⟨gone.issued.grow grown, ?_⟩
  rintro ⟨bridge, found, matches'⟩
  rcases effect.bridge_cases hash found with before | ⟨token, drawn, unissued⟩
  · exact gone.removed ⟨bridge, before, matches'⟩
  · cases injective (matches'.symm.trans drawn)
    exact unissued fresh gone.issued

theorem Effect.removes_of_terminal (effect : Effect hash relay input relay')
    (sent : (target, frame) ∈ relay.news relay')
    (terminal : frame.Terminal pairingId) :
    ∃ bridge, relay.bridges.lookup pairingId = some bridge ∧
      relay'.bridges.lookup pairingId = none := by
  obtain ⟨bridge, _, _, _, _, found, _, _, _, _, removes⟩ :=
    effect.outcome_cases hash sent (.ended terminal)
  refine ⟨bridge, found, ?_⟩
  rw [removes terminal, Table.lookup_erase, if_pos rfl]

omit [DecidableEq Digest] in
theorem Gone.subject_differs (before : Gone hash relay pairingId ownerToken)
    (after : Gone hash relay' pairingId ownerToken)
    (about : relay.subject relay' pairingId = some bridge) :
    bridge.ownerTokenHash ≠ hash ownerToken := by
  intro matches'
  rcases Option.or_eq_some_iff.mp about with found | ⟨-, found⟩
  · exact before.removed ⟨bridge, found, matches'⟩
  · exact after.removed ⟨bridge, found, matches'⟩

theorem Ledger.issued_of_holds
    (ledger : Ledger hash relay) (injective : Function.Injective hash)
    (held : relay.Holds hash pairingId ownerToken) :
    relay.Issued ownerToken := by
  obtain ⟨bridge, found, matches'⟩ := held
  obtain ⟨token, _, ownerHash, _, asked, _⟩ :=
    ledger.opened pairingId bridge found
  cases injective (matches'.symm.trans ownerHash)
  exact asked.issued

theorem gone_after
    (injective : Function.Injective hash) (referential : Referential relay)
    (gone : Gone hash relay pairingId ownerToken)
    (admitted :
      ((Checked.actor hash).restrict FreshTokens).Admits relay later) :
    Referential ((Checked.actor hash).run relay later) ∧
      Gone hash ((Checked.actor hash).run relay later) pairingId ownerToken := by
  refine admitted.invariant
    (fun relay => Referential relay ∧ Gone hash relay pairingId ownerToken) ?_
    ⟨referential, gone⟩
  rintro relay input ⟨referential, gone⟩ ⟨⟨relay', stepped⟩, fresh⟩
  have effect := Checked.step_effect hash referential stepped
  simp only [Machine.restrict, Checked.next_of_step hash stepped]
  exact ⟨referential.effect hash effect, gone.effect hash injective effect fresh⟩

theorem pairing_frames_are_authorized
    (injective : Function.Injective hash) (relay : State Digest)
    (reached : ((Checked.actor hash).restrict FreshTokens).Reachable relay) :
    (∀ input relay',
      Checked.step Checked.saturatingSub hash relay input = .ok relay' →
      ∀ target frame pairingId,
        (target, frame) ∈ relay.news relay' → frame.Outcome pairingId →
        ∃ bridge chance sender request token,
          relay.bridges.lookup pairingId = some bridge ∧
          bridge.HasParty target = true ∧
          input = .command chance (.frame sender request) ∧
          request.credentials = some (pairingId, token) ∧
          relay.IssuedTo hash pairingId bridge sender token) ∧
    (∀ handle, relay.requests handle ≤ 1) ∧
    (∀ input relay',
      FreshTokens relay input →
      Checked.step Checked.saturatingSub hash relay input = .ok relay' →
      (∀ target frame pairingId,
        (target, frame) ∈ relay.news relay' → frame.Terminal pairingId →
        ∃ bridge, relay.bridges.lookup pairingId = some bridge ∧
          relay'.bridges.lookup pairingId = none) ∧
      ∀ pairingId ownerToken,
        relay.Holds hash pairingId ownerToken →
        ¬ relay'.Holds hash pairingId ownerToken →
        ∀ later input' after,
          ((Checked.actor hash).restrict FreshTokens).Admits relay' later →
          FreshTokens ((Checked.actor hash).run relay' later) input' →
          Checked.step Checked.saturatingSub hash
            ((Checked.actor hash).run relay' later) input' = .ok after →
          ¬ after.Holds hash pairingId ownerToken ∧
          ∀ target frame,
            (target, frame) ∈
              ((Checked.actor hash).run relay' later).news after →
            frame.pairing? = some pairingId →
            ∃ bridge,
              ((Checked.actor hash).run relay' later).subject after pairingId =
                some bridge ∧
              bridge.ownerTokenHash ≠ hash ownerToken) := by
  obtain ⟨referential, ledger⟩ :=
    invariant_of_effect hash (Ledger.empty hash) (.effect hash) reached
  refine ⟨?_, ledger.once, ?_⟩
  · intro input relay' stepped target frame pairingId sent outcome
    have effect := Checked.step_effect hash referential stepped
    obtain ⟨bridge, chance, sender, request, token, found, party, from',
      credentials, shown, _⟩ := effect.outcome_cases hash sent outcome
    exact ⟨bridge, chance, sender, request, token, found, party, from',
      credentials, ledger.issuedTo hash injective found shown⟩
  · intro input relay' fresh stepped
    have effect := Checked.step_effect hash referential stepped
    refine ⟨fun target frame pairingId => effect.removes_of_terminal hash, ?_⟩
    intro pairingId ownerToken held removed later input' after admitted fresh'
      stepped'
    obtain ⟨new, grown⟩ := effect.grown hash
    have gone : Gone hash relay' pairingId ownerToken :=
      ⟨(ledger.issued_of_holds hash injective held).grow grown, removed⟩
    obtain ⟨laterReferential, laterGone⟩ := gone_after hash injective
      (referential.effect hash effect) gone admitted
    have laterEffect := Checked.step_effect hash laterReferential stepped'
    have afterGone := laterGone.effect hash injective laterEffect fresh'
    refine ⟨afterGone.removed, ?_⟩
    intro target frame sent names
    obtain ⟨bridge, about⟩ := laterEffect.subject_of_named hash sent names
    exact ⟨bridge, about, laterGone.subject_differs hash afterGone about⟩

/-! The joiner of the bridge opened before commits, and both are told. -/

instance (relay : State Digest) (token : String) :
    Decidable (relay.Issued token) :=
  inferInstanceAs (Decidable (∃ entry ∈ relay.sent, token ∈ entry.2.tokens))

theorem bridgedRelay_freshly_reachable :
    ((Checked.actor id).restrict FreshTokens).Reachable bridgedRelay := by
  refine Machine.Reachable.run .init bridgingInputs ?_
  exact ⟨⟨⟨_, rfl⟩, trivial⟩, ⟨⟨_, rfl⟩, trivial⟩,
    ⟨⟨_, rfl⟩, by decide, by decide, by decide⟩,
    ⟨⟨_, rfl⟩, by decide, by decide, by decide⟩, trivial⟩

def joinerCommits : Input :=
  .command (pairingDraws "")
    (.frame joiningClient (.pairingCommitted 5 "side second"))

theorem bridgedRelay_commit_authorized :
    ∃ relay',
      Checked.step Checked.saturatingSub id bridgedRelay joinerCommits =
        .ok relay' ∧
      (owningClient, .pairingFinalized 5) ∈ bridgedRelay.news relay' ∧
      ∃ bridge chance sender request token,
        bridgedRelay.bridges.lookup 5 = some bridge ∧
        bridge.HasParty owningClient = true ∧
        joinerCommits = .command chance (.frame sender request) ∧
        request.credentials = some (5, token) ∧
        bridgedRelay.IssuedTo id 5 bridge sender token := by
  have authorized := (pairing_frames_are_authorized id Function.injective_id
    bridgedRelay bridgedRelay_freshly_reachable).1
  refine ⟨_, rfl, by decide, ?_⟩
  exact authorized joinerCommits _ rfl owningClient (.pairingFinalized 5) 5
    (by decide) (.ended .finalized)

end Relay

end Torchat
