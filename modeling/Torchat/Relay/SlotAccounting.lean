import Torchat.Relay.Effects

namespace Torchat.Relay

open Foundation Table State

def slotCounter (connections : Connections) (id : ConnectionId) : Option Nat :=
  (connections.lookup id).map Connection.slots

def State.owned (relay : State Digest) (id : ConnectionId) : Nat :=
  relay.slots.count fun _ slot => slot.owner = id

section

variable (connections : Connections) (id target : ConnectionId)

@[simp] theorem slotCounter_modify_of_same (f : Connection → Connection)
    (same : ∀ connection, (f connection).slots = connection.slots) :
    slotCounter (connections.modify id f) target =
      slotCounter connections target :=
  map_lookup_modify same id target

@[simp] theorem slotCounter_chargePairing :
    slotCounter (chargePairing connections id) target =
      slotCounter connections target :=
  slotCounter_modify_of_same connections id target _ fun _ => rfl

@[simp] theorem slotCounter_releasePairing :
    slotCounter (releasePairing connections id) target =
      slotCounter connections target :=
  slotCounter_modify_of_same connections id target _ fun _ => rfl

theorem slotCounter_releaseSlot :
    slotCounter (releaseSlot connections id) target =
      (slotCounter connections target).map fun slots =>
        if target = id then slots - 1 else slots := by
  unfold slotCounter releaseSlot
  rw [lookup_modify]
  by_cases same : target = id
  · cases connections.lookup target <;> simp [same]
  · cases connections.lookup target <;> simp [same]

end

@[simp] theorem slotCounter_releaseBridges (connections : Connections)
    (bridges : List (Bridge Digest)) (target : ConnectionId) :
    slotCounter (releaseBridges connections bridges) target =
      slotCounter connections target :=
  map_lookup_releaseBridges fun _ _ => rfl

variable [DecidableEq Digest]

/-- Every connected client's counter is what it owns plus `lapsed`, and every
live slot belongs to a connected client. -/
structure Accounted (relay : State Digest) (lapsed : ConnectionId → Nat) :
    Prop where
  counted : ∀ id slots,
    slotCounter relay.connections id = some slots →
      slots = relay.owned id + lapsed id
  connected : ∀ digest slot,
    relay.slots.lookup digest = some slot →
      (slotCounter relay.connections slot.owner).isSome

theorem Accounted.empty : Accounted (empty : State Digest) fun _ => 0 where
  counted := by
    intro id slots counter
    cases counter
  connected := by
    intro digest slot found
    cases found

variable {relay' : State Digest}

theorem Accounted.transfer (accounted : Accounted relay lapsed)
    (sameSlots : relay'.slots = relay.slots)
    (sameCounters : ∀ id,
      slotCounter relay'.connections id = slotCounter relay.connections id) :
    Accounted relay' lapsed where
  counted := by
    intro id slots counter
    rw [sameCounters] at counter
    unfold owned
    rw [sameSlots]
    exact accounted.counted id slots counter
  connected := by
    intro digest slot found
    rw [sameSlots] at found
    rw [sameCounters]
    exact accounted.connected digest slot found

theorem Accounted.dropBridges (accounted : Accounted relay lapsed)
    (selected : Uuid → Bridge Digest → Bool) :
    Accounted (dropBridges relay selected) lapsed :=
  accounted.transfer rfl fun id => by simp [Relay.dropBridges]

variable {relay : State Digest}

section

variable (accounted : Accounted relay lapsed)

include accounted

theorem Accounted.expireState (now : Int) :
    Accounted (expireState relay now) fun id =>
      lapsed id + relay.slots.count fun _ slot =>
          slot.owner = id && !decide (slot.expiresAt > now) := by
  have retained :
      Accounted
        { relay with
          slots := relay.slots.retain fun _ slot => slot.expiresAt > now }
        fun id =>
          lapsed id + relay.slots.count fun _ slot =>
              slot.owner = id && !decide (slot.expiresAt > now) := by
    constructor
    · intro id slots counter
      have before := accounted.counted id slots counter
      have parts := count_split relay.slots
        (fun _ slot => decide (slot.owner = id))
        (fun _ slot => decide (slot.expiresAt > now))
      simp only [owned] at before ⊢
      omega
    · intro digest slot found
      rw [lookup_retain, Option.filter_eq_some_iff] at found
      exact accounted.connected digest slot found.1
  exact (retained.dropBridges _).transfer rfl fun _ => rfl

theorem Accounted.insertSlot (belongs : slot.owner = owner)
    (unused : relay.slots.lookup digest = none)
    (online : (slotCounter relay.connections owner).isSome) :
    Accounted
      { relay with
        slots := relay.slots.insert digest slot
        connections := relay.connections.modify owner fun connection =>
          { connection with slots := connection.slots + 1 } }
      lapsed where
  counted := by
    intro id slots counter
    simp only [slotCounter, lookup_modify] at counter
    unfold owned
    rw [count_insert _ _ unused]
    by_cases same : id = owner
    · subst same
      cases found : relay.connections.lookup id with
      | none => simp [found] at counter
      | some connection =>
        have before := accounted.counted id connection.slots
          (by simp [slotCounter, found])
        simp only [found, if_true, Option.map_some, Option.some.injEq]
          at counter
        unfold owned at before
        simp only [belongs, decide_true, if_true]
        omega
    · rw [if_neg same] at counter
      have before := accounted.counted id slots counter
      have other : ¬ slot.owner = id := fun equal =>
        same (equal.symm.trans belongs)
      unfold owned at before
      simp only [other, decide_false, Bool.false_eq_true, if_false]
      omega
  connected := by
    intro candidate found foundAt
    have counters : ∀ id,
        (slotCounter (relay.connections.modify owner fun connection =>
            { connection with slots := connection.slots + 1 }) id).isSome =
          (slotCounter relay.connections id).isSome := by
      intro id
      unfold slotCounter
      rw [lookup_modify]
      split <;> simp
    rw [counters]
    rw [lookup_insert] at foundAt
    split at foundAt
    · cases foundAt
      rw [belongs]
      exact online
    · exact accounted.connected candidate found foundAt

theorem Accounted.eraseSlot (found : relay.slots.lookup digest = some slot) :
    Accounted
      { relay with
        slots := relay.slots.erase digest
        connections := releaseSlot relay.connections slot.owner }
      lapsed where
  counted := by
    intro id slots counter
    rw [slotCounter_releaseSlot, Option.map_eq_some_iff] at counter
    obtain ⟨before, counterBefore, rfl⟩ := counter
    have counted := accounted.counted id before counterBefore
    have erased := count_erase (fun _ slot => decide (slot.owner = id)) found
    simp only [owned] at counted ⊢
    by_cases same : id = slot.owner
    · subst same
      simp only [decide_true, if_true] at erased ⊢
      omega
    · have other : ¬ slot.owner = id := fun equal => same equal.symm
      simp only [other, decide_false, Bool.false_eq_true, if_false] at erased
      rw [if_neg same]
      omega
  connected := by
    intro candidate live foundAt
    simp only [lookup_erase] at foundAt
    split at foundAt
    · cases foundAt
    · have before := accounted.connected candidate live foundAt
      rw [slotCounter_releaseSlot]
      simpa using before

theorem Accounted.connect (id : ConnectionId)
    (unused : relay.connections.lookup id = none) :
    Accounted
      { relay with
        connections := relay.connections.insert id
          { slots := 0, pairings := 0, attempts := [] } }
      fun target => if target = id then 0 else lapsed target := by
  have nothingOwned : relay.owned id = 0 := by
    rw [owned, count_eq_zero_iff]
    intro digest slot found
    have online := accounted.connected digest slot found
    rw [decide_eq_false_iff_not]
    rintro rfl
    simp [slotCounter, unused] at online
  constructor
  · intro target slots counter
    simp only [slotCounter, lookup_insert] at counter
    split at counter
    · rename_i same
      subst same
      simp only [Option.map_some, Option.some.injEq] at counter
      rw [if_pos rfl]
      simp only [owned] at nothingOwned ⊢
      omega
    · rename_i different
      rw [if_neg different]
      exact accounted.counted target slots counter
  · intro digest slot found
    have online := accounted.connected digest slot found
    simp only [slotCounter, lookup_insert]
    split
    · rfl
    · exact online

theorem Accounted.disconnect (id : ConnectionId) :
    Accounted (disconnect relay id) lapsed := by
  apply Accounted.dropBridges
  constructor
  · intro target slots counter
    simp only [slotCounter, lookup_erase] at counter
    split at counter
    · cases counter
    · rename_i different
      have counted := accounted.counted target slots counter
      simp only [owned] at counted ⊢
      rw [count_retain]
      have keptAll :
          (fun (_ : Digest) (slot : Slot Digest) =>
            decide (slot.owner = target) && decide (slot.owner ≠ id)) =
          fun _ slot => decide (slot.owner = target) := by
        funext _ slot
        by_cases same : slot.owner = target
        · simp [same, different]
        · simp [same]
      rw [keptAll]
      exact counted
  · intro digest slot found
    simp only [lookup_retain, Option.filter_eq_some_iff,
      decide_eq_true_eq] at found
    have online := accounted.connected digest slot found.1
    simp only [slotCounter, lookup_erase, if_neg found.2]
    exact online

theorem Accounted.endBridge (bridge : Bridge Digest) :
    Accounted
      { relay with
        connections :=
          slotReturned (credited relay.connections bridge)
            (relay.slots.lookup bridge.slotHash)
        slots := relay.slots.erase bridge.slotHash }
      lapsed := by
  have closed : Accounted
      { relay with connections := credited relay.connections bridge } lapsed :=
    accounted.transfer rfl fun _ => by simp [credited]
  cases found : relay.slots.lookup bridge.slotHash with
  | none =>
    rw [erase_missing found]
    exact closed
  | some slot => exact closed.eraseSlot found

end

variable (hash : String → Digest)

def NothingLapses (relay : State Digest) : Input → Prop
  | .tick now => ∀ digest slot,
      relay.slots.lookup digest = some slot → slot.expiresAt > now
  | _ => True

theorem Accounted.tick_iff
    (accounted : Accounted relay fun _ => 0) (now : Int) :
    Accounted (Relay.expireState relay now) (fun _ => 0) ↔
      NothingLapses relay (.tick now) := by
  have ticked := accounted.expireState now
  constructor
  · intro exact digest slot found
    by_contra expired
    have online := accounted.connected digest slot found
    obtain ⟨slots, counter⟩ := Option.isSome_iff_exists.mp online
    have counterAfter :
        slotCounter (Relay.expireState relay now).connections slot.owner =
          some slots := by
      simpa [Relay.expireState, Relay.dropBridges] using counter
    have withLapse := ticked.counted slot.owner slots counterAfter
    have without := exact.counted slot.owner slots counterAfter
    have noneLost :
        (relay.slots.count fun _ candidate =>
          candidate.owner = slot.owner &&
            !decide (candidate.expiresAt > now)) = 0 := by
      omega
    have kept := count_eq_zero_iff.mp noneLost digest slot found
    simp [expired] at kept
  · intro nothing
    have noneLost : ∀ id,
        (relay.slots.count fun _ slot =>
          slot.owner = id && !decide (slot.expiresAt > now)) = 0 := by
      intro id
      rw [count_eq_zero_iff]
      intro digest slot found
      simp [nothing digest slot found]
    simpa [noneLost] using ticked

theorem Accounted.effect (accounted : Accounted relay fun _ => 0)
    (effect : Effect hash relay input relay') (fresh : Fresh hash relay input)
    (nothing : NothingLapses relay input) : Accounted relay' fun _ => 0 := by
  cases effect with
  | ignored => exact accounted.transfer rfl fun _ => rfl
  | answered =>
    exact accounted.transfer rfl fun _ =>
      slotCounter_modify_of_same _ _ _ _ fun _ => rfl
  | slotCreated _ _ _ _ _ connection slot _ _ _ online _ _ owned =>
    have inserted := accounted.insertSlot owned fresh
      (by simp [slotCounter, online])
    exact inserted.transfer rfl fun _ => rfl
  | bridgeOpened _ _ _ _ _ _ _ _ _ slot _ _ _ _ _ found =>
    exact (accounted.eraseSlot found).transfer rfl fun _ => by simp
  | responded => exact accounted.transfer rfl fun _ => rfl
  | bridgeEnded _ _ _ _ _ _ bridge =>
    exact (accounted.endBridge bridge).transfer rfl fun _ => rfl
  | slotCancelled _ _ _ _ slot _ found owned =>
    subst owned
    exact (accounted.eraseSlot found).transfer rfl fun _ => rfl
  | connected _ id =>
    have joined := accounted.connect id fresh
    simp only [ite_self] at joined
    exact joined.transfer rfl fun _ => rfl
  | disconnected _ id =>
    exact (accounted.disconnect id).transfer rfl fun _ => rfl
  | ticked now =>
    exact ((accounted.tick_iff now).mpr nothing).transfer rfl fun _ => rfl

theorem accounted_of_reachable
    (reached : ((actor hash).restrict NothingLapses).Reachable relay) :
    Accounted relay fun _ => 0 := by
  refine reached.invariant (fun relay => Accounted relay fun _ => 0) .empty ?_
  rintro relay input accounted ⟨⟨fresh, relay', stepped⟩, nothing⟩
  have next : (actor hash).next relay input = relay' := by
    simp [actor, stepped]
  simp only [Machine.restrict, next]
  exact accounted.effect hash (step_effect hash stepped) fresh nothing

def RefusedForCapacity (relay : State Digest) (id : ConnectionId) : Prop :=
  ∃ chance requestId key ttl relay',
    processFrame hash chance relay id (.createPairingSlot requestId key ttl) =
      .ok relay' ∧
    relay'.sent = relay.sent ++ [(id, .error (some requestId) "capacity")]

theorem counter_full_of_refused
    {id : ConnectionId} (refused : RefusedForCapacity hash relay id) :
    ∃ slots, slotCounter relay.connections id = some slots ∧
      (maxSlotsPerConnection ≤ slots ∨ maxSlots ≤ relay.slots.size) := by
  obtain ⟨chance, requestId, key, ttl, relay', processed, answered⟩ := refused
  unfold Relay.processFrame at processed
  cases online : relay.connections.lookup id with
  | none =>
    rw [online] at processed
    cases processed
    simp at answered
  | some connection =>
    refine ⟨connection.slots, by simp [slotCounter, online], ?_⟩
    simp only [online, Relay.createPairingSlot] at processed
    split at processed
    · assumption
    · split at processed
      · cases processed
      · cases processed
        unfold Relay.send at answered
        split at answered <;> simp at answered

theorem slot_counters_exact_while_nothing_lapses
    (relay : State Digest)
    (reached : ((actor hash).restrict NothingLapses).Reachable relay) :
    (∀ id connection,
      relay.connections.lookup id = some connection →
        connection.slots = relay.owned id) ∧
    (∀ id, RefusedForCapacity hash relay id →
      maxSlotsPerConnection ≤ relay.owned id ∨ maxSlots ≤ relay.slots.size) := by
  have accounted := accounted_of_reachable hash reached
  constructor
  · intro id connection online
    exact accounted.counted id connection.slots (by simp [slotCounter, online])
  · intro id refused
    obtain ⟨slots, counter, full⟩ := counter_full_of_refused hash refused
    have counted := accounted.counted id slots counter
    rcases full with owned | table
    · exact .inl (by omega)
    · exact .inr table

/-! A client that takes two slots and lets them expire. -/

def client : ConnectionId := 1

def drawn (name : String) (digit : Fin 10) : Chance where
  clock _ := 0
  tokens n := if n = 0 then name ++ " handle" else name ++ " capability"
  codes := [⟨Vector.replicate 8 digit⟩]

def createSlot (name : String) (digit : Fin 10) : Input :=
  .command (drawn name digit)
    (.frame client (.createPairingSlot 0 (Vector.replicate 32 0) 120))

def twoSlots : List Input :=
  [.command (drawn "" (Fin.last 9)) (.connected client),
    createSlot "first" (Fin.last 9), createSlot "second" (Fin.last 9).rev]

def holdingTwo : State String := (actor id).run .empty twoSlots

theorem holdingTwo_reachable :
    ((actor id).restrict NothingLapses).Reachable holdingTwo := by
  refine Machine.Reachable.run .init twoSlots ?_
  exact ⟨⟨⟨rfl, _, rfl⟩, trivial⟩, ⟨⟨rfl, _, rfl⟩, trivial⟩,
    ⟨⟨rfl, _, rfl⟩, trivial⟩, trivial⟩

theorem holdingTwo_counted :
    holdingTwo.owned client = 2 ∧
    ∀ connection, holdingTwo.connections.lookup client = some connection →
      connection.slots = holdingTwo.owned client :=
  ⟨by decide,
    (slot_counters_exact_while_nothing_lapses id holdingTwo
      holdingTwo_reachable).1 client⟩

def afterExpiry : State String := (actor id).next holdingTwo (.tick 120)

/-- The client owns no slot, its counter still says two, and it gets no new
slot although the table is empty. -/
theorem expired_slots_stay_counted :
    (actor id).Reachable afterExpiry ∧
    afterExpiry.owned client = 0 ∧
    slotCounter afterExpiry.connections client = some 2 ∧
    afterExpiry.slots.size = 0 ∧
    RefusedForCapacity id afterExpiry client := by
  have ticks : (actor id).enabled holdingTwo (.tick 120) :=
    ⟨trivial, _, rfl⟩
  have reached : (actor id).Reachable afterExpiry :=
    Machine.Reachable.step _ holdingTwo_reachable.of_restrict ticks
  refine ⟨reached, by decide, by decide, by decide, ?_⟩
  exact ⟨drawn "third" 3, 0, Vector.replicate 32 0, 120, _, rfl, rfl⟩

end Torchat.Relay
