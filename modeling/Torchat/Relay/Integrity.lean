import Torchat.Relay.Checked

namespace Torchat.Relay

open Foundation Checked Table State

theorem lookup_of_erase [DecidableEq κ] {table : Table κ ν}
    (found : (table.erase key).lookup target = some row) :
    table.lookup target = some row := by
  rw [lookup_erase] at found
  split at found
  · cases found
  · exact found

section

variable (connections : Connections)

@[simp] theorem contains_releaseBridges (bridges : List (Bridge Digest))
    (target : ConnectionId) :
    (releaseBridges connections bridges).contains target =
      connections.contains target := by
  induction bridges generalizing connections with
  | nil => rfl
  | cons bridge rest induction =>
    have rested := induction (credited connections bridge)
    rw [credited, contains_releasePairing, contains_releasePairing] at rested
    exact rested

@[simp] theorem size_releaseBridges (bridges : List (Bridge Digest)) :
    (releaseBridges connections bridges).size = connections.size := by
  induction bridges generalizing connections with
  | nil => rfl
  | cons bridge rest induction =>
    have rested := induction (credited connections bridge)
    rw [credited, releasePairing, releasePairing, size_modify,
      size_modify] at rested
    exact rested

@[simp] theorem contains_slotReturned (slot : Option (Slot Digest))
    (target : ConnectionId) :
    (slotReturned connections slot).contains target =
      connections.contains target := by
  cases slot with
  | none => rfl
  | some slot => exact contains_releaseSlot connections slot.owner target

@[simp] theorem size_slotReturned (slot : Option (Slot Digest)) :
    (slotReturned connections slot).size = connections.size := by
  cases slot with
  | none => rfl
  | some slot => simp [slotReturned, releaseSlot]

end

/-! ## The bridges and the pairing counters -/

def Bridge.HasParty (bridge : Bridge Digest) (id : ConnectionId) : Bool :=
  bridge.owner = id || bridge.joiner = id

def State.partyTo (relay : State Digest) (id : ConnectionId) : Nat :=
  relay.bridges.count fun _ bridge => bridge.HasParty id

def pairingCounter (connections : Connections) (id : ConnectionId) :
    Option Nat :=
  (connections.lookup id).map Connection.pairings

section

variable (connections : Connections) (id target : ConnectionId)

theorem pairingCounter_modify (f : Connection → Connection) (g : Nat → Nat)
    (changed : ∀ connection, (f connection).pairings = g connection.pairings) :
    pairingCounter (connections.modify id f) target =
      (pairingCounter connections target).map fun pairings =>
        if target = id then g pairings else pairings := by
  unfold pairingCounter
  rw [lookup_modify]
  by_cases same : target = id
  · cases connections.lookup target <;> simp [same, changed]
  · cases connections.lookup target <;> simp [same]

theorem pairingCounter_modify_of_same (f : Connection → Connection)
    (same : ∀ connection, (f connection).pairings = connection.pairings) :
    pairingCounter (connections.modify id f) target =
      pairingCounter connections target :=
  map_lookup_modify same id target

@[simp] theorem pairingCounter_releaseSlot :
    pairingCounter (releaseSlot connections id) target =
      pairingCounter connections target :=
  pairingCounter_modify_of_same connections id target _ fun _ => rfl

end

variable {bridges : List (Bridge Digest)}

theorem pairingCounter_releaseBridges (connections : Connections)
    (target : ConnectionId)
    (apart : ∀ bridge ∈ bridges, bridge.owner ≠ bridge.joiner) :
    pairingCounter (releaseBridges connections bridges) target =
      (pairingCounter connections target).map fun pairings =>
        pairings - bridges.countP (Bridge.HasParty · target) := by
  induction bridges generalizing connections with
  | nil => simp [releaseBridges]
  | cons bridge rest induction =>
    have rested := induction (credited connections bridge)
      fun other member => apart other (.tail bridge member)
    have different := apart bridge List.mem_cons_self
    change pairingCounter (releaseBridges (credited connections bridge) rest)
      target = _
    rw [rested, credited, releasePairing, releasePairing,
      pairingCounter_modify _ _ _ _ (· - 1) (fun _ => rfl),
      pairingCounter_modify _ _ _ _ (· - 1) (fun _ => rfl),
      List.countP_cons]
    cases pairingCounter connections target with
    | none => rfl
    | some pairings =>
      simp only [Option.map_some, Bridge.HasParty, Option.some.injEq]
      by_cases owns : target = bridge.owner
      · have joins : target ≠ bridge.joiner := owns ▸ different
        simp [owns, different]
        omega
      · by_cases joins : target = bridge.joiner
        · simp [joins, different, Ne.symm different]
          omega
        · simp [owns, joins, Ne.symm owns, Ne.symm joins]

theorem pairingCounter_credited (connections : Connections)
    (apart : bridge.owner ≠ bridge.joiner) (id : ConnectionId) :
    pairingCounter (credited connections bridge) id =
      (pairingCounter connections id).map fun pairings =>
        pairings - if bridge.HasParty id then 1 else 0 := by
  have released : pairingCounter (releaseBridges _ [bridge]) id = _ :=
    pairingCounter_releaseBridges connections id (by simpa using apart)
  simpa [releaseBridges, credited, List.countP_cons] using released

theorem lookup_of_dropBridges
    (found : (dropBridges relay selected).bridges.lookup pairingId =
      some bridge) : relay.bridges.lookup pairingId = some bridge := by
  simp only [dropBridges, lookup_retain, Option.filter_eq_some_iff] at found
  exact found.1

variable {relay : State Digest}

theorem pairingCounter_dropBridges
    (apart : ∀ pairingId bridge,
      relay.bridges.lookup pairingId = some bridge →
      bridge.owner ≠ bridge.joiner) (id : ConnectionId) :
    pairingCounter (dropBridges relay selected).connections id =
      (pairingCounter relay.connections id).map fun pairings =>
        pairings - (relay.bridges.retain selected).count
          fun _ bridge => bridge.HasParty id := by
  rw [← countP_values]
  apply pairingCounter_releaseBridges
  intro bridge member
  obtain ⟨pairingId, found⟩ := exists_of_mem_values member
  rw [lookup_retain, Option.filter_eq_some_iff] at found
  exact apart pairingId bridge found.1

theorem partyTo_dropBridges (relay : State Digest)
    (selected : Uuid → Bridge Digest → Bool) (id : ConnectionId) :
    relay.partyTo id = (relay.bridges.retain selected).count
          (fun _ bridge => bridge.HasParty id) +
        (dropBridges relay selected).partyTo id := by
  have kept : (dropBridges relay selected).partyTo id =
      relay.bridges.count fun key bridge =>
        bridge.HasParty id && !selected key bridge := by
    simp only [partyTo, dropBridges, count_retain]
  rw [kept]
  exact count_split relay.bridges _ selected

structure Bridged (relay : State Digest) : Prop where
  apart : ∀ pairingId bridge, relay.bridges.lookup pairingId = some bridge →
    bridge.owner ≠ bridge.joiner
  connected : ∀ pairingId bridge id,
    relay.bridges.lookup pairingId = some bridge → bridge.HasParty id = true →
    (pairingCounter relay.connections id).isSome
  counted : ∀ id pairings,
    pairingCounter relay.connections id = some pairings →
    pairings = relay.partyTo id ∧ pairings ≤ maxPairingsPerConnection

namespace Bridged

theorem empty : Bridged (empty : State Digest) where
  apart := by
    intro pairingId bridge found
    cases found
  connected := by
    intro pairingId bridge id found
    cases found
  counted := by
    intro id pairings counter
    cases counter

section

variable (bridged : Bridged relay)

include bridged

theorem transfer (sameBridges : relay'.bridges = relay.bridges)
    (sameCounters : ∀ id,
      pairingCounter relay'.connections id =
        pairingCounter relay.connections id) : Bridged relay' where
  apart := by
    rw [sameBridges]
    exact bridged.apart
  connected := by
    simp only [sameBridges, sameCounters]
    exact bridged.connected
  counted := by
    simp only [partyTo, sameBridges, sameCounters]
    exact bridged.counted

theorem shrink
    (fewer : ∀ pairingId bridge,
      relay'.bridges.lookup pairingId = some bridge →
      relay.bridges.lookup pairingId = some bridge)
    (stay : ∀ pairingId bridge id,
      relay'.bridges.lookup pairingId = some bridge →
      bridge.HasParty id = true →
      (pairingCounter relay.connections id).isSome →
      (pairingCounter relay'.connections id).isSome)
    (lowered : ∀ id pairings,
      pairingCounter relay'.connections id = some pairings →
      ∃ before, pairingCounter relay.connections id = some before ∧
        pairings = before - (relay.partyTo id - relay'.partyTo id) ∧
        relay'.partyTo id ≤ relay.partyTo id) : Bridged relay' where
  apart := by
    intro pairingId bridge found
    exact bridged.apart pairingId bridge (fewer pairingId bridge found)
  connected := by
    intro pairingId bridge id found party
    refine stay pairingId bridge id found party ?_
    exact bridged.connected pairingId bridge id (fewer pairingId bridge found)
      party
  counted := by
    intro id pairings counter
    obtain ⟨before, counterBefore, equal, less⟩ := lowered id pairings counter
    have counted := bridged.counted id before counterBefore
    omega

theorem openBridge (apart : bridge.owner ≠ bridge.joiner)
    (unused : relay.bridges.lookup pairingId = none)
    (joinerOnline : relay.connections.lookup bridge.joiner = some joiner)
    (joinerFew : joiner.pairings < maxPairingsPerConnection)
    (ownerOnline : relay.connections.lookup bridge.owner = some owner)
    (ownerFew : owner.pairings < maxPairingsPerConnection) :
    Bridged
      { relay with
        connections :=
          chargePairing
            (chargePairing (releaseSlot relay.connections bridge.owner)
              bridge.joiner)
            bridge.owner
        bridges := relay.bridges.insert pairingId bridge } := by
  have charged : ∀ id,
      pairingCounter (chargePairing
            (chargePairing (releaseSlot relay.connections bridge.owner)
              bridge.joiner)
            bridge.owner) id =
        (pairingCounter relay.connections id).map fun pairings =>
          pairings + if bridge.HasParty id then 1 else 0 := by
    intro id
    rw [chargePairing, chargePairing,
      pairingCounter_modify _ _ _ _ (· + 1) (fun _ => rfl),
      pairingCounter_modify _ _ _ _ (· + 1) (fun _ => rfl),
      pairingCounter_releaseSlot]
    cases pairingCounter relay.connections id with
    | none => rfl
    | some pairings =>
      by_cases owns : id = bridge.owner
      · subst owns
        simp [Bridge.HasParty, apart]
      · by_cases joins : id = bridge.joiner
        · subst joins
          simp [Bridge.HasParty, owns]
        · simp [Bridge.HasParty, owns, joins, Ne.symm owns, Ne.symm joins]
  have spare : ∀ id pairings,
      pairingCounter relay.connections id = some pairings →
      bridge.HasParty id = true → pairings < maxPairingsPerConnection := by
    intro id pairings counter party
    simp only [Bridge.HasParty, Bool.or_eq_true, decide_eq_true_eq] at party
    rcases party with rfl | rfl
    · simp only [pairingCounter, ownerOnline, Option.map_some,
        Option.some.injEq] at counter
      exact counter ▸ ownerFew
    · simp only [pairingCounter, joinerOnline, Option.map_some,
        Option.some.injEq] at counter
      exact counter ▸ joinerFew
  constructor
  · intro candidate stored found
    rw [lookup_insert] at found
    split at found
    · cases found
      exact apart
    · exact bridged.apart candidate stored found
  · intro candidate stored id found party
    simp only [charged, Option.isSome_map]
    rw [lookup_insert] at found
    split at found
    · cases found
      simp only [Bridge.HasParty, Bool.or_eq_true, decide_eq_true_eq] at party
      rcases party with rfl | rfl
      · simp [pairingCounter, ownerOnline]
      · simp [pairingCounter, joinerOnline]
    · exact bridged.connected candidate stored id found party
  · intro id pairings counter
    rw [charged, Option.map_eq_some_iff] at counter
    obtain ⟨before, counterBefore, rfl⟩ := counter
    obtain ⟨counted, few⟩ := bridged.counted id before counterBefore
    constructor
    · unfold partyTo at counted ⊢
      rw [count_insert _ _ unused, counted]
    · split
      · rename_i party
        exact spare id before counterBefore party
      · exact few

theorem endBridge
    (found : relay.bridges.lookup pairingId = some bridge) :
    Bridged
      { relay with
        connections := credited relay.connections bridge
        bridges := relay.bridges.erase pairingId } := by
  have apart := bridged.apart pairingId bridge found
  have counters := pairingCounter_credited relay.connections apart
  refine bridged.shrink (fun _ _ => lookup_of_erase) ?_ ?_
  · intro _ _ id _ _ online
    simpa [counters] using online
  · intro id pairings counter
    rw [counters, Option.map_eq_some_iff] at counter
    obtain ⟨before, counterBefore, rfl⟩ := counter
    have erased := count_erase (fun _ bridge => Bridge.HasParty bridge id) found
    refine ⟨before, counterBefore, ?_, ?_⟩
    · simp only [partyTo]
      omega
    · simp only [partyTo]
      omega

theorem dropBridges (selected : Uuid → Bridge Digest → Bool) :
    Bridged (Relay.dropBridges relay selected) := by
  refine bridged.shrink (fun _ _ => lookup_of_dropBridges) ?_ ?_
  · intro _ _ id _ _ online
    simpa [pairingCounter_dropBridges bridged.apart] using online
  · intro id pairings counter
    rw [pairingCounter_dropBridges bridged.apart,
      Option.map_eq_some_iff] at counter
    obtain ⟨before, counterBefore, rfl⟩ := counter
    have parts := partyTo_dropBridges relay selected id
    exact ⟨before, counterBefore, by omega, by omega⟩

theorem disconnect (id : ConnectionId) :
    Bridged (Relay.disconnect relay id) := by
  unfold Relay.disconnect
  generalize gone : ({ relay with
    connections := relay.connections.erase id
    slots := relay.slots.retain fun _ slot => slot.owner ≠ id } :
      State Digest) = left
  have sameBridges : left.bridges = relay.bridges := by rw [← gone]
  have sameParty : ∀ target, relay.partyTo target = left.partyTo target := by
    intro target
    rw [partyTo, partyTo, sameBridges]
  have counters : ∀ target, pairingCounter left.connections target =
      if target = id then none
      else pairingCounter relay.connections target := by
    intro target
    rw [← gone, pairingCounter, lookup_erase]
    split <;> rfl
  have apart := sameBridges ▸ bridged.apart
  refine bridged.shrink ?_ ?_ ?_
  · intro pairingId bridge found
    rw [← sameBridges]
    exact lookup_of_dropBridges found
  · intro pairingId bridge target found party online
    have away : target ≠ id := by
      rintro rfl
      simp only [Relay.dropBridges, lookup_retain,
        Option.filter_eq_some_iff] at found
      simp only [Bridge.HasParty, Bool.or_eq_true, decide_eq_true_eq] at party
      simp [party] at found
    simpa [pairingCounter_dropBridges apart, counters, away] using online
  · intro target pairings counter
    rw [pairingCounter_dropBridges apart, counters,
      Option.map_eq_some_iff] at counter
    obtain ⟨before, counterBefore, rfl⟩ := counter
    split at counterBefore
    · cases counterBefore
    · have parts := partyTo_dropBridges left
        (fun _ bridge => bridge.owner = id ∨ bridge.joiner = id) target
      rw [sameParty]
      exact ⟨before, counterBefore, by omega, by omega⟩

theorem connect {id : ConnectionId}
    (unused : relay.connections.lookup id = none) :
    Bridged
      { relay with
        connections := relay.connections.insert id
          { slots := 0, pairings := 0, attempts := [] } } := by
  have counters : ∀ target,
      pairingCounter (relay.connections.insert id
          { slots := 0, pairings := 0, attempts := [] }) target =
        if target = id then some 0
        else pairingCounter relay.connections target := by
    intro target
    rw [pairingCounter, lookup_insert]
    split <;> rfl
  have noBridges : relay.partyTo id = 0 := by
    rw [partyTo, count_eq_zero_iff]
    intro pairingId bridge found
    by_contra party
    have online := bridged.connected pairingId bridge id found
      (by simpa using party)
    simp [pairingCounter, unused] at online
  constructor
  · exact bridged.apart
  · intro pairingId bridge target found party
    have online := bridged.connected pairingId bridge target found party
    rw [counters]
    split
    · rfl
    · exact online
  · intro target pairings counter
    rw [counters] at counter
    split at counter
    · rename_i same
      cases counter
      exact ⟨same ▸ noBridges.symm, Nat.zero_le _⟩
    · exact bridged.counted target pairings counter

end

end Bridged

theorem Checked.releases_checked {connections : Connections}
    (apart : ∀ bridge ∈ bridges, bridge.owner ≠ bridge.joiner)
    (enough : ∀ id connection,
      connections.lookup id = some connection →
      bridges.countP (Bridge.HasParty · id) ≤ connection.pairings) :
    Releases Checked.checkedSub connections bridges := by
  induction bridges generalizing connections with
  | nil => rfl
  | cons bridge rest induction =>
    have different := apart bridge List.mem_cons_self
    have positive : ∀ id connection,
        connections.lookup id = some connection →
        bridge.HasParty id = true → 0 < connection.pairings := by
      intro id connection found party
      have least := enough id connection found
      rw [List.countP_cons, if_pos party] at least
      omega
    have lowered : ∀ connection : Connection, 0 < connection.pairings →
        Checked.checkedSub connection.pairings =
          .ok (connection.pairings - 1) :=
      fun connection some => if_neg (Nat.pos_iff_ne_zero.mp some)
    refine .cons _ ?_ ?_ (induction ?_ ?_)
    · intro connection found
      exact lowered connection
        (positive _ connection found (by simp [Bridge.HasParty]))
    · intro connection found
      rw [Relay.releasePairing, lookup_modify,
        if_neg (Ne.symm different)] at found
      exact lowered connection
        (positive _ connection found (by simp [Bridge.HasParty]))
    · exact fun other member => apart other (.tail bridge member)
    · intro id connection found
      have counter : pairingCounter (credited connections bridge) id =
          some connection.pairings := by
        simp [pairingCounter, found]
      rw [pairingCounter_credited connections different, pairingCounter]
        at counter
      obtain ⟨pairings, found, equal⟩ :=
        Option.map_eq_some_iff.mp counter
      obtain ⟨before, foundBefore, rfl⟩ := Option.map_eq_some_iff.mp found
      have least := enough id before foundBefore
      rw [List.countP_cons] at least
      omega

theorem Bridged.releasable (bridged : Bridged relay) :
    Releasable Checked.checkedSub relay := by
  intro connections bridges part sub
  have apart : ∀ bridge ∈ bridges, bridge.owner ≠ bridge.joiner := by
    intro bridge member
    obtain ⟨pairingId, found⟩ :=
      exists_of_mem_values (sub.subset member)
    exact bridged.apart pairingId bridge found
  have enough : ∀ id connection,
      connections.lookup id = some connection →
      bridges.countP (Bridge.HasParty · id) ≤ connection.pairings := by
    intro id connection found
    have counted := bridged.counted id connection.pairings
      (by simp [pairingCounter, part id connection found])
    rw [counted.1, partyTo, ← countP_values]
    exact sub.countP_le
  exact releases_checked apart enough

/-! ## The slots and their owners -/

variable [DecidableEq Digest]

/-- What ties the slot table to the connections, with the two table limits. -/
structure Referential (relay : State Digest) : Prop where
  owned : Checked.SlotsOwned relay
  connections : relay.connections.size ≤ maxConnections
  slots : relay.slots.size ≤ maxSlots

namespace Referential

theorem empty : Referential (empty : State Digest) where
  owned := by
    intro digest slot found
    cases found
  connections := Nat.zero_le _
  slots := Nat.zero_le _

theorem weaken (referential : Referential relay)
    (fewer : ∀ digest slot, relay'.slots.lookup digest = some slot →
      relay.slots.lookup digest = some slot)
    (stay : ∀ id, relay'.connections.contains id = relay.connections.contains id)
    (connections : relay'.connections.size = relay.connections.size)
    (slots : relay'.slots.size ≤ relay.slots.size) : Referential relay' where
  owned := by
    intro digest slot found
    rw [stay]
    exact referential.owned digest slot (fewer digest slot found)
  connections := connections ▸ referential.connections
  slots := slots.trans referential.slots

end Referential

variable (hash : String → Digest)

theorem Referential.effect (referential : Referential relay)
    (effect : Effect hash relay input relay') : Referential relay' := by
  cases effect with
  | ignored =>
    exact referential.weaken (fun _ _ found => found) (fun _ => rfl) rfl le_rfl
  | answered =>
    exact referential.weaken (fun _ _ found => found) (by simp) (by simp) le_rfl
  | slotCreated chance id _ _ _ connection slot _ _ _ online _ room owned =>
    refine ⟨?_, by simpa using referential.connections, ?_⟩
    · intro digest found foundAt
      rw [contains_modify]
      rw [lookup_insert] at foundAt
      split at foundAt
      · cases foundAt
        exact contains_iff.mpr ⟨connection, owned ▸ online⟩
      · exact referential.owned digest found foundAt
    · exact (size_insert_le _ _ _).trans room
  | bridgeOpened =>
    exact referential.weaken (fun _ _ => lookup_of_erase) (by simp)
      (by simp [chargePairing, releaseSlot]) (size_retain_le _ _)
  | responded =>
    exact referential.weaken (fun _ _ found => found) (fun _ => rfl) rfl le_rfl
  | bridgeEnded =>
    exact referential.weaken (fun _ _ => lookup_of_erase)
      (by simp [credited]) (by simp [credited, releasePairing])
      (size_retain_le _ _)
  | slotCancelled =>
    exact referential.weaken (fun _ _ => lookup_of_erase) (by simp)
      (by simp [releaseSlot]) (size_retain_le _ _)
  | connected _ id _ room =>
    refine ⟨?_, (size_insert_le _ _ _).trans room, referential.slots⟩
    intro digest slot found
    have online := referential.owned digest slot found
    simp only [contains, lookup_insert] at online ⊢
    split
    · rfl
    · exact online
  | disconnected _ id =>
    refine ⟨?_, ?_, (size_retain_le _ _).trans referential.slots⟩
    · intro digest slot found
      simp only [disconnect, dropBridges, lookup_retain,
        Option.filter_eq_some_iff, decide_eq_true_eq] at found
      have online := referential.owned digest slot found.1
      simp only [disconnect, dropBridges, contains_releaseBridges]
      simp only [contains, lookup_erase, if_neg found.2] at online ⊢
      exact online
    · simp only [disconnect, dropBridges, size_releaseBridges]
      exact (size_retain_le _ _).trans referential.connections
  | ticked now =>
    refine referential.weaken ?_ (by simp [expireState, dropBridges])
      (by simp [expireState, dropBridges]) (size_retain_le _ _)
    intro digest slot found
    simp only [expireState, dropBridges, lookup_retain,
      Option.filter_eq_some_iff] at found
    exact found.1

theorem createPairingSlot_not_panicked
    (chance : Chance) (relay : State Digest) (id : ConnectionId)
    (connection : Connection) (requestId : Uuid) (key : Key32) (ttl : UInt16) :
    createPairingSlot hash chance relay id connection requestId key ttl ≠
      .error .panicked := by
  intro failed
  unfold createPairingSlot at failed
  split at failed
  · cases failed
  · dsimp only at failed
    split at failed <;> cases failed

theorem beginPairing_not_panicked (owned : SlotsOwned relay) (chance : Chance)
    (id : ConnectionId) (connection : Connection) (requestId pairingId : Uuid)
    (slotHandle : String) (key : Key32) (offer : Bytes) :
    beginPairing hash chance relay id connection requestId pairingId slotHandle
      key offer ≠ .error .panicked := by
  intro failed
  unfold beginPairing at failed
  split at failed
  · cases failed
  · split at failed
    · cases failed
    · rename_i slot found
      obtain ⟨owner, ownerOnline⟩ := contains_iff.mp (owned _ slot found)
      simp only [ownerOnline] at failed
      repeat' split at failed
      all_goals cases failed

theorem processFrame_not_panicked (owned : SlotsOwned relay)
    (chance : Chance) (id : ConnectionId) (frame : RendezvousClientFrame) :
    processFrame hash chance relay id frame ≠ .error .panicked := by
  intro failed
  unfold processFrame at failed
  split at failed
  · cases failed
  · dsimp only at failed
    split at failed
    case h_2 => exact createPairingSlot_not_panicked hash _ _ _ _ _ _ _ failed
    case h_4 => exact beginPairing_not_panicked hash owned _ _ _ _ _ _ _ _ failed
    all_goals first
      | cases failed
      | split at failed <;> cases failed

def NewConnection (relay : State Digest) : Input → Prop
  | .command _ (.connected id) => relay.connections.lookup id = none
  | _ => True

theorem step_not_panicked (owned : SlotsOwned relay) (input : Input) :
    step hash relay input ≠ .error .panicked := by
  intro failed
  cases input with
  | tick now => cases failed
  | command chance command =>
    cases command with
    | connected | disconnected => cases failed
    | frame id frame =>
      simp only [step, handleCommand] at failed
      cases processed : processFrame hash chance relay id frame with
      | ok relay' =>
        rw [processed] at failed
        cases failed
      | error halt =>
        rw [processed] at failed
        cases failed
        exact processFrame_not_panicked hash owned _ _ _ processed

theorem Checked.step_saturating
    (referential : Referential relay) (input : Input) :
    Checked.step Checked.saturatingSub hash relay input =
      (Relay.step hash relay input).mapError .halted :=
  step_eq _ hash referential.owned
    (fun _ _ _ _ => releases_saturating _ _) input

theorem Checked.step_effect
    (referential : Referential relay)
    (stepped : Checked.step Checked.saturatingSub hash relay input = .ok relay') :
    Effect hash relay input relay' := by
  rw [step_saturating hash referential] at stepped
  cases taken : Relay.step hash relay input with
  | error halt =>
    rw [taken] at stepped
    cases stepped
  | ok next =>
    rw [taken] at stepped
    cases stepped
    exact Relay.step_effect hash taken

theorem Checked.next_of_step
    (stepped : Checked.step Checked.saturatingSub hash relay input = .ok relay') :
    (Checked.actor hash).next relay input = relay' := by
  simp [Checked.actor, stepped]

theorem Bridged.effect
    (bridged : Bridged relay) (effect : Effect hash relay input relay')
    (new : NewConnection relay input) : Bridged relay' := by
  cases effect with
  | ignored => exact bridged.transfer rfl fun _ => rfl
  | answered | slotCreated =>
    exact bridged.transfer rfl fun _ =>
      pairingCounter_modify_of_same _ _ _ _ fun _ => rfl
  | bridgeOpened _ _ _ _ _ _ _ _ _ slot bridge _ _ _ online _ others unused few
      ownerOnline ownerFew ownedBy joinedBy =>
      subst joinedBy
      rw [← ownedBy] at ownerOnline others
      have opened := bridged.openBridge others unused online few ownerOnline
        ownerFew
      rw [ownedBy] at opened
      exact opened.transfer rfl fun _ => rfl
  | responded => exact bridged.transfer rfl fun _ => rfl
  | bridgeEnded _ _ _ _ _ _ bridge _ found =>
    refine (bridged.endBridge found).transfer rfl fun id => ?_
    cases relay.slots.lookup bridge.slotHash with
    | none => rfl
    | some slot => exact pairingCounter_releaseSlot _ _ _
  | slotCancelled => exact bridged.transfer rfl fun _ => by simp
  | connected _ id =>
    exact (bridged.connect new).transfer rfl fun _ => rfl
  | disconnected _ id => exact (bridged.disconnect id).transfer rfl fun _ => rfl
  | ticked now =>
    have dropped := bridged.dropBridges fun _ bridge => bridge.expiresAt ≤ now
    exact dropped.transfer rfl fun _ => rfl

theorem referential_of_reachable
    (reached : (Checked.actor hash).Reachable relay) : Referential relay := by
  refine reached.invariant Referential .empty ?_
  rintro relay input referential ⟨relay', stepped⟩
  rw [Checked.next_of_step hash stepped]
  exact referential.effect hash (Checked.step_effect hash referential stepped)

theorem invariant_of_effect {holds : State Digest → Prop} (start : holds .empty)
    (kept : ∀ {relay input relay'}, holds relay →
      Effect hash relay input relay' → allowed relay input → holds relay')
    (reached : ((Checked.actor hash).restrict allowed).Reachable relay) :
    Referential relay ∧ holds relay := by
  refine reached.invariant (fun relay => Referential relay ∧ holds relay)
    ⟨.empty, start⟩ ?_
  rintro relay input ⟨referential, held⟩ ⟨⟨relay', stepped⟩, admitted⟩
  have effect := Checked.step_effect hash referential stepped
  simp only [Machine.restrict, Checked.next_of_step hash stepped]
  exact ⟨referential.effect hash effect, kept held effect admitted⟩

/-- The same run with a subtraction that faults at zero: no counter is ever
lowered below what it counts. -/
theorem bridge_parties_and_counters_agree
    (relay : State Digest)
    (reached : ((Checked.actor hash).restrict NewConnection).Reachable relay) :
    (∀ pairingId bridge, relay.bridges.lookup pairingId = some bridge →
      bridge.owner ≠ bridge.joiner ∧
      relay.connections.contains bridge.owner = true ∧
      relay.connections.contains bridge.joiner = true) ∧
    (∀ id connection, relay.connections.lookup id = some connection →
      connection.pairings = relay.partyTo id ∧
      connection.pairings ≤ maxPairingsPerConnection) ∧
    ∀ input,
      Checked.step Checked.checkedSub hash relay input =
        Checked.step Checked.saturatingSub hash relay input ∧
      Checked.step Checked.checkedSub hash relay input ≠ .error .underflow := by
  obtain ⟨referential, bridged⟩ :=
    invariant_of_effect hash Bridged.empty (.effect hash) reached
  have online : ∀ id, (pairingCounter relay.connections id).isSome →
      relay.connections.contains id = true := by
    intro id counted
    simpa [pairingCounter, Table.contains] using counted
  refine ⟨?_, ?_, ?_⟩
  · intro pairingId bridge found
    refine ⟨bridged.apart pairingId bridge found, online _ ?_, online _ ?_⟩
    · exact bridged.connected pairingId bridge _ found
        (by simp [Bridge.HasParty])
    · exact bridged.connected pairingId bridge _ found
        (by simp [Bridge.HasParty])
  · intro id connection found
    exact bridged.counted id _ (by simp [pairingCounter, found])
  · intro input
    have checked := Checked.step_eq Checked.checkedSub hash referential.owned
      bridged.releasable input
    constructor
    · rw [checked, Checked.step_saturating hash referential]
    · rw [checked]
      cases step hash relay input <;> simp [Except.mapError]

/-! Two clients, and the bridge one opens on the other's slot. -/

def owningClient : ConnectionId := 1

def joiningClient : ConnectionId := 2

def pairingDraws (names : String) : Chance where
  clock _ := 0
  tokens n := if n = 0 then names ++ " first" else names ++ " second"
  codes := [⟨Vector.replicate 8 7⟩]

def bridgingInputs : List Input :=
  [.command (pairingDraws "") (.connected owningClient),
    .command (pairingDraws "") (.connected joiningClient),
    .command (pairingDraws "slot")
      (.frame owningClient (.createPairingSlot 0 (Vector.replicate 32 0) 120)),
    .command (pairingDraws "side")
      (.frame joiningClient
        (.beginPairing 0 5 "slot first" (Vector.replicate 32 0) []))]

def bridgedRelay : State String :=
  (Checked.actor id).run .empty bridgingInputs

theorem bridgedRelay_reachable :
    ((Checked.actor id).restrict NewConnection).Reachable bridgedRelay := by
  refine Machine.Reachable.run .init bridgingInputs ?_
  exact ⟨⟨⟨_, rfl⟩, rfl⟩, ⟨⟨_, rfl⟩, rfl⟩, ⟨⟨_, rfl⟩, trivial⟩,
    ⟨⟨_, rfl⟩, trivial⟩, trivial⟩

theorem bridgedRelay_counted :
    bridgedRelay.partyTo joiningClient = 1 ∧
    ∀ connection, bridgedRelay.connections.lookup joiningClient =
      some connection → connection.pairings = 1 := by
  have agree := bridge_parties_and_counters_agree id bridgedRelay
    bridgedRelay_reachable
  refine ⟨by decide, fun connection found => ?_⟩
  rw [(agree.2.1 joiningClient connection found).1]
  decide

/-- No input, from whomever and in whatever order, makes the actor panic. -/
theorem relay_actor_never_panics
    (relay : State Digest) (reached : (Checked.actor hash).Reachable relay) :
    (∀ digest slot, relay.slots.lookup digest = some slot →
      relay.connections.contains slot.owner = true) ∧
    relay.connections.size ≤ maxConnections ∧
    relay.slots.size ≤ maxSlots ∧
    ∀ input, Checked.step Checked.saturatingSub hash relay input ≠
      .error (.halted .panicked) := by
  have referential := referential_of_reachable hash reached
  refine ⟨referential.owned, referential.connections, referential.slots, ?_⟩
  intro input failed
  rw [Checked.step_saturating hash referential] at failed
  cases stepped : step hash relay input with
  | ok relay' =>
    rw [stepped] at failed
    cases failed
  | error halt =>
    rw [stepped] at failed
    cases failed
    exact step_not_panicked hash referential.owned input stepped

theorem bridgedRelay_never_panics :
    bridgedRelay.connections.size = 2 ∧
    ∀ input, Checked.step Checked.saturatingSub id bridgedRelay input ≠
      .error (.halted .panicked) :=
  ⟨by decide,
    (relay_actor_never_panics id bridgedRelay
      bridgedRelay_reachable.of_restrict).2.2.2⟩

end Torchat.Relay
