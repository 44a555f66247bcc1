import Torchat.Relay.Actor

namespace Torchat

def RendezvousServerFrame.pairing? : RendezvousServerFrame → Option Uuid
  | .pairingRequested pairingId .. => some pairingId
  | .pairingStarted _ pairingId .. => some pairingId
  | .pairingAccepted pairingId _ => some pairingId
  | .pairingRejected pairingId => some pairingId
  | .pairingCommitted pairingId => some pairingId
  | .pairingFinalized pairingId => some pairingId
  | .pairingCancelled pairingId => some pairingId
  | _ => none

def RendezvousServerFrame.tokens : RendezvousServerFrame → List String
  | .pairingSlotCreated _ slotHandle _ slotCapability _ =>
    [slotHandle, slotCapability]
  | .pairingRequested _ _ ownerSideToken .. => [ownerSideToken]
  | .pairingStarted _ _ joinerSideToken _ => [joinerSideToken]
  | _ => []

namespace Relay

open Foundation

section

variable (relay : State Digest) (id : ConnectionId)
  (frame : RendezvousServerFrame)

@[simp] theorem send_slots : (send relay id frame).slots = relay.slots := by
  unfold send
  split <;> rfl

@[simp] theorem send_connections :
    (send relay id frame).connections = relay.connections := by
  unfold send
  split <;> rfl

@[simp] theorem send_bridges :
    (send relay id frame).bridges = relay.bridges := by
  unfold send
  split <;> rfl

end

def delivered (connections : Connections)
    (frames : List (ConnectionId × RendezvousServerFrame)) :
    List (ConnectionId × RendezvousServerFrame) :=
  frames.filter fun entry => connections.contains entry.1

theorem map_lookup_releaseBridges
    (same : ∀ (connection : Connection) pairings,
      column { connection with pairings := pairings } = column connection) :
    ((releaseBridges connections bridges).lookup target).map column =
      (connections.lookup target).map column := by
  induction bridges generalizing connections with
  | nil => rfl
  | cons bridge rest induction =>
    refine induction.trans ?_
    exact (Table.map_lookup_modify (fun _ => same _ _) _ _).trans
      (Table.map_lookup_modify (fun _ => same _ _) _ _)

section

variable (relay : State Digest) (id : ConnectionId)
  (frame : RendezvousServerFrame)

theorem send_eq :
    send relay id frame =
      { relay with
        sent := relay.sent ++ delivered relay.connections [(id, frame)] } := by
  unfold send delivered
  cases online : relay.connections.contains id <;> simp [online]

@[simp] theorem send_sent :
    (send relay id frame).sent =
      relay.sent ++ delivered relay.connections [(id, frame)] := by
  rw [send_eq]

end

theorem delivered_append (connections : Connections)
    (first second : List (ConnectionId × RendezvousServerFrame)) :
    delivered connections first ++ delivered connections second =
      delivered connections (first ++ second) :=
  (List.filter_append first second).symm

theorem delivered_congr
    (same : ∀ id, connections'.contains id = connections.contains id)
    (frames : List (ConnectionId × RendezvousServerFrame)) :
    delivered connections' frames = delivered connections frames := by
  simp only [delivered, same]

section

variable (connections : Connections) (id target : ConnectionId)

@[simp] theorem contains_releasePairing :
    (releasePairing connections id).contains target =
      connections.contains target :=
  Table.contains_modify connections id target _

@[simp] theorem contains_chargePairing :
    (chargePairing connections id).contains target =
      connections.contains target :=
  Table.contains_modify connections id target _

@[simp] theorem contains_releaseSlot :
    (releaseSlot connections id).contains target =
      connections.contains target :=
  Table.contains_modify connections id target _

end

def credited
    (connections : Connections) (bridge : Bridge Digest) : Connections :=
  releasePairing (releasePairing connections bridge.owner) bridge.joiner

def slotReturned
    (connections : Connections) (slot : Option (Slot Digest)) : Connections :=
  slot.elim connections fun slot => releaseSlot connections slot.owner

variable [DecidableEq Digest]

/-- The frame of a party that ends a bridge, the token it shows, and the frame
both parties are then sent. Who may send it differs: either side may reject or
cancel, the joiner commits and the owner finalizes. -/
inductive Ending (bridge : Bridge Digest) (hash : String → Digest)
    (pairingId : Uuid) (id : ConnectionId) (token : String) :
    RendezvousClientFrame → RendezvousServerFrame → Prop
  | rejected :
      authorizeEither hash (some bridge) id token = true →
      Ending bridge hash pairingId id token (.rejectPairing pairingId token)
        (.pairingRejected pairingId)
  | committed :
      authorize hash (some bridge) id token false = true →
      Ending bridge hash pairingId id token (.pairingCommitted pairingId token)
        (.pairingFinalized pairingId)
  | finalized :
      authorize hash (some bridge) id token true = true →
      Ending bridge hash pairingId id token (.pairingFinalized pairingId token)
        (.pairingFinalized pairingId)
  | cancelled :
      authorizeEither hash (some bridge) id token = true →
      Ending bridge hash pairingId id token (.cancelPairing pairingId token)
        (.pairingCancelled pairingId)

/-- Everything one step can do to the tables and to the record of sent frames,
with the guards that let it happen. The metrics are free. -/
inductive Effect (hash : String → Digest) (relay : State Digest) :
    Input → State Digest → Prop
  | ignored (input : Input) (metrics : Metrics) :
      Effect hash relay input { relay with metrics := metrics }
  | answered (chance : Chance) (id : ConnectionId)
      (frame : RendezvousClientFrame) (attempts : Connection → List Int)
      (answer : RendezvousServerFrame) (metrics : Metrics)
      (online : relay.connections.contains id = true)
      (noPairing : answer.pairing? = none) (noTokens : answer.tokens = []) :
      Effect hash relay (.command chance (.frame id frame))
        { relay with
          connections := relay.connections.modify id fun connection =>
            { connection with attempts := attempts connection }
          metrics := metrics
          sent := relay.sent ++ [(id, answer)] }
  | slotCreated (chance : Chance) (id : ConnectionId) (requestId : Uuid)
      (key : Key32) (ttl : UInt16) (connection : Connection)
      (slot : Slot Digest) (displayCode : String) (expiresAt : Int)
      (metrics : Metrics)
      (online : relay.connections.lookup id = some connection)
      (few : connection.slots < maxSlotsPerConnection)
      (room : relay.slots.size < maxSlots)
      (owned : slot.owner = id) (named : slot.handle = chance.tokens 0) :
      Effect hash relay
        (.command chance (.frame id (.createPairingSlot requestId key ttl)))
        { relay with
          connections := relay.connections.modify id fun connection =>
            { connection with slots := connection.slots + 1 }
          slots := relay.slots.insert (hash (chance.tokens 0)) slot
          metrics := metrics
          sent := relay.sent ++
            [(id, .pairingSlotCreated requestId (chance.tokens 0) displayCode
              (chance.tokens 1) expiresAt)] }
  | bridgeOpened (chance : Chance) (id : ConnectionId)
      (requestId pairingId : Uuid) (slotHandle : String) (key : Key32)
      (offer : Bytes) (connection owner : Connection) (slot : Slot Digest)
      (bridge : Bridge Digest) (requestedUntil startedUntil : Int)
      (metrics : Metrics)
      (online : relay.connections.lookup id = some connection)
      (found : relay.slots.lookup (hash slotHandle) = some slot)
      (others : slot.owner ≠ id)
      (unused : relay.bridges.lookup pairingId = none)
      (few : connection.pairings < maxPairingsPerConnection)
      (ownerOnline : relay.connections.lookup slot.owner = some owner)
      (ownerFew : owner.pairings < maxPairingsPerConnection)
      (ownedBy : bridge.owner = slot.owner) (joinedBy : bridge.joiner = id)
      (ownerToken : bridge.ownerTokenHash = hash (chance.tokens 0))
      (joinerToken : bridge.joinerTokenHash = hash (chance.tokens 1)) :
      Effect hash relay
        (.command chance
          (.frame id (.beginPairing requestId pairingId slotHandle key offer)))
        { relay with
          connections :=
            chargePairing
              (chargePairing (releaseSlot relay.connections slot.owner) id)
              slot.owner
          slots := relay.slots.erase (hash slotHandle)
          bridges := relay.bridges.insert pairingId bridge
          metrics := metrics
          sent := relay.sent ++
            [(slot.owner,
                .pairingRequested pairingId slot.handle (chance.tokens 0) key
                  offer requestedUntil),
              (id,
                .pairingStarted requestId pairingId (chance.tokens 1)
                  startedUntil)] }
  | responded (chance : Chance) (id : ConnectionId) (pairingId : Uuid)
      (sideToken : String) (response : Bytes) (bridge : Bridge Digest)
      (metrics : Metrics)
      (found : relay.bridges.lookup pairingId = some bridge)
      (allowed : bridge.owner = id ∧ bridge.ownerTokenHash = hash sideToken) :
      Effect hash relay
        (.command chance
          (.frame id (.acceptPairing pairingId sideToken response)))
        { relay with
          metrics := metrics
          sent := relay.sent ++
            delivered relay.connections
              [(bridge.joiner, .pairingAccepted pairingId response)] }
  | bridgeEnded (chance : Chance) (id : ConnectionId) (pairingId : Uuid)
      (sideToken : String) (frame : RendezvousClientFrame)
      (news : RendezvousServerFrame) (bridge : Bridge Digest)
      (metrics : Metrics)
      (found : relay.bridges.lookup pairingId = some bridge)
      (ending : Ending bridge hash pairingId id sideToken frame news) :
      Effect hash relay (.command chance (.frame id frame))
        { relay with
          connections :=
            slotReturned (credited relay.connections bridge)
              (relay.slots.lookup bridge.slotHash)
          slots := relay.slots.erase bridge.slotHash
          bridges := relay.bridges.erase pairingId
          metrics := metrics
          sent := relay.sent ++
            delivered relay.connections
              [(bridge.owner, news), (bridge.joiner, news)] }
  | slotCancelled (chance : Chance) (id : ConnectionId)
      (slotHandle slotCapability : String) (slot : Slot Digest)
      (metrics : Metrics)
      (found : relay.slots.lookup (hash slotHandle) = some slot)
      (owned : slot.owner = id) :
      Effect hash relay
        (.command chance
          (.frame id (.cancelPairingSlot slotHandle slotCapability)))
        { relay with
          connections := releaseSlot relay.connections id
          slots := relay.slots.erase (hash slotHandle)
          metrics := metrics }
  | connected (chance : Chance) (id : ConnectionId) (metrics : Metrics)
      (room : relay.connections.size < maxConnections) :
      Effect hash relay (.command chance (.connected id))
        { relay with
          connections := relay.connections.insert id
            { slots := 0, pairings := 0, attempts := [] }
          metrics := metrics }
  | disconnected (chance : Chance) (id : ConnectionId) (metrics : Metrics) :
      Effect hash relay (.command chance (.disconnected id))
        { disconnect relay id with metrics := metrics }
  | ticked (now : Int) (metrics : Metrics) :
      Effect hash relay (.tick now)
        { expireState relay now with metrics := metrics }

variable (hash : String → Digest) {id : ConnectionId}

theorem Effect.replied (chance : Chance) (frame : RendezvousClientFrame)
    (answer : RendezvousServerFrame) (metrics : Metrics)
    (online : relay.connections.contains id = true)
    (noPairing : answer.pairing? = none) (noTokens : answer.tokens = []) :
    Effect hash relay (.command chance (.frame id frame))
      { relay with
        metrics := metrics
        sent := relay.sent ++ [(id, answer)] } := by
  have unchanged := Table.modify_self relay.connections id
  have effect : Effect hash relay (.command chance (.frame id frame)) _ :=
    .answered chance id frame Connection.attempts answer metrics online
      noPairing noTokens
  rwa [unchanged] at effect

theorem delivered_online
    (online : connections.contains id = true) (frame : RendezvousServerFrame) :
    delivered connections [(id, frame)] = [(id, frame)] := by
  simp [delivered, online]

theorem Effect.rejected (chance : Chance) (frame : RendezvousClientFrame)
    (online : relay.connections.contains id = true) (requestId : Option Uuid)
    (code : String) :
    Effect hash relay (.command chance (.frame id frame))
      (syncMetrics (reject relay id requestId code)) := by
  have effect := Effect.replied hash chance frame (.error requestId code)
    (syncMetrics (reject relay id requestId code)).metrics online rfl rfl
  unfold reject at effect ⊢
  rw [send_eq, delivered_online online] at effect ⊢
  exact effect

theorem resolvePairingCode_effect
    (online : relay.connections.contains id = true) (requestId : Uuid)
    (displayCode : String) :
    Effect hash relay
      (.command chance (.frame id (.resolvePairingCode requestId displayCode)))
      (syncMetrics (resolvePairingCode hash chance relay id connection requestId
          displayCode)) := by
  have answered : ∀ attempts answer metrics,
      answer.pairing? = none → answer.tokens = [] →
      Effect hash relay
        (.command chance (.frame id (.resolvePairingCode requestId displayCode)))
        { relay with
          connections := relay.connections.modify id fun connection =>
            { connection with attempts := attempts }
          metrics := metrics
          sent := relay.sent ++ [(id, answer)] } :=
    fun attempts answer metrics noPairing noTokens =>
      .answered chance id _ (fun _ => attempts) answer metrics online noPairing
        noTokens
  have still : ∀ attempts : List Int,
      (relay.connections.modify id fun connection =>
        { connection with attempts := attempts }).contains id = true := by
    intro attempts
    rw [Table.contains_modify]
    exact online
  unfold resolvePairingCode reject
  dsimp only
  split
  · rw [send_eq, delivered_online (still _)]
    exact answered _ _ _ rfl rfl
  · split
    · rw [send_eq, delivered_online (still _)]
      exact answered _ _ _ rfl rfl
    · split
      · rw [send_eq, delivered_online (still _)]
        exact answered _ _ _ rfl rfl
      · rw [send_eq, delivered_online (still _)]
        exact answered _ _ _ rfl rfl

theorem createPairingSlot_effect
    (online : relay.connections.lookup id = some connection)
    (created :
      createPairingSlot hash chance relay id connection requestId key ttl =
        .ok relay') :
    Effect hash relay
      (.command chance (.frame id (.createPairingSlot requestId key ttl)))
      (syncMetrics relay') := by
  have present : relay.connections.contains id = true :=
    Table.contains_iff.mpr ⟨connection, online⟩
  unfold createPairingSlot at created
  split at created
  · cases created
    exact .rejected hash chance _ present _ _
  · rename_i spare
    simp only [not_or, Nat.not_le] at spare
    dsimp only at created
    split at created
    · cases created
    · cases created
      rw [send_eq, delivered_online (by rw [Table.contains_modify]; exact present)]
      exact .slotCreated chance id requestId key ttl connection _ _ _ _ online
        spare.1 spare.2 rfl rfl

theorem openBridge_effect (chance : Chance)
    (online : relay.connections.lookup id = some connection)
    (found : relay.slots.lookup (hash slotHandle) = some slot)
    (others : slot.owner ≠ id) (unused : relay.bridges.lookup pairingId = none)
    (few : connection.pairings < maxPairingsPerConnection)
    (ownerOnline : relay.connections.lookup slot.owner = some owner)
    (ownerFew : owner.pairings < maxPairingsPerConnection) (requestId : Uuid)
    (key : Key32) (offer : Bytes) :
    Effect hash relay (.command chance
        (.frame id (.beginPairing requestId pairingId slotHandle key offer)))
      (syncMetrics
        (openBridge hash chance relay id (hash slotHandle) slot requestId
          pairingId key offer)) := by
  have present : ∀ {target : ConnectionId} {row : Connection},
      relay.connections.lookup target = some row →
      (chargePairing
        (chargePairing (releaseSlot relay.connections slot.owner) id)
        slot.owner).contains target = true := by
    intro target row found
    simp only [contains_chargePairing, contains_releaseSlot]
    exact Table.contains_iff.mpr ⟨row, found⟩
  unfold openBridge
  rw [send_eq, send_eq]
  rw [delivered_online (present ownerOnline), delivered_online (present online),
    List.append_assoc]
  exact .bridgeOpened chance id requestId pairingId slotHandle key offer
    connection owner slot _ _ _ _ online found others unused few ownerOnline
    ownerFew rfl rfl rfl rfl

theorem beginPairing_effect
    (online : relay.connections.lookup id = some connection)
    (begun :
      beginPairing hash chance relay id connection requestId pairingId
        slotHandle key offer = .ok relay') :
    Effect hash relay (.command chance
        (.frame id (.beginPairing requestId pairingId slotHandle key offer)))
      (syncMetrics relay') := by
  have refused : ∀ code, Effect hash relay (.command chance
        (.frame id (.beginPairing requestId pairingId slotHandle key offer)))
      (syncMetrics (reject relay id (some requestId) code)) :=
    fun code => .rejected hash chance _
      (Table.contains_iff.mpr ⟨connection, online⟩) _ code
  unfold beginPairing at begun
  split at begun
  · cases begun
    exact refused _
  · split at begun
    · cases begun
      exact refused _
    · rename_i slot found
      split at begun
      · cases begun
        exact refused _
      · rename_i open'
        split at begun
        · cases begun
          exact refused _
        · rename_i unused
          split at begun
          · cases begun
            exact refused _
          · rename_i few
            split at begun
            · cases begun
            · rename_i owner ownerOnline
              split at begun
              · cases begun
                exact refused _
              · rename_i ownerFew
                cases begun
                refine openBridge_effect hash chance online found
                  (fun same => open' (.inr same)) ?_ (Nat.not_le.mp few)
                  ownerOnline (Nat.not_le.mp ownerFew) requestId key offer
                rw [Table.contains, Bool.not_eq_true,
                  Option.isSome_eq_false_iff] at unused
                exact Option.isNone_iff_eq_none.mp unused

theorem acceptPairing_effect (chance : Chance) (id : ConnectionId)
    (pairingId : Uuid) (sideToken : String) (response : Bytes) :
    Effect hash relay
      (.command chance (.frame id (.acceptPairing pairingId sideToken response)))
      (syncMetrics (acceptPairing hash relay id pairingId sideToken response)) := by
  unfold acceptPairing
  cases found : relay.bridges.lookup pairingId with
  | none => exact .ignored _ _
  | some bridge =>
    dsimp only
    split
    · rename_i allowed
      rw [send_eq]
      exact .responded chance id pairingId sideToken response bridge _ found
        ⟨allowed.1, allowed.2.1⟩
    · exact .ignored _ _

theorem finishPairing_effect (chance : Chance)
    (found : relay.bridges.lookup pairingId = some bridge)
    (ending : Ending bridge hash pairingId id sideToken frame news) :
    Effect hash relay (.command chance (.frame id frame))
      (syncMetrics (finishPairing relay pairingId news)) := by
  have effect := fun metrics => Effect.bridgeEnded chance id pairingId
    sideToken frame news bridge metrics found ending
  have told : ∀ target,
      delivered (releasePairing (releasePairing relay.connections bridge.owner)
        bridge.joiner) [(target, news)] =
        delivered relay.connections [(target, news)] :=
    fun target => delivered_congr (by simp) _
  unfold finishPairing
  rw [found]
  dsimp only
  rw [send_eq, send_eq]
  dsimp only
  rw [told, told, List.append_assoc, delivered_append]
  cases slotFound : relay.slots.lookup bridge.slotHash with
  | none =>
    rw [slotFound, Table.erase_missing slotFound] at effect
    exact effect _
  | some slot =>
    rw [slotFound] at effect
    exact effect _

theorem cancelPairingSlot_effect
    (chance : Chance) (id : ConnectionId) (slotHandle slotCapability : String) :
    Effect hash relay
      (.command chance (.frame id (.cancelPairingSlot slotHandle slotCapability)))
      (syncMetrics
        (cancelPairingSlot hash relay id slotHandle slotCapability)) := by
  unfold cancelPairingSlot
  cases found : relay.slots.lookup (hash slotHandle) with
  | none => exact .ignored _ _
  | some slot =>
    dsimp only
    split
    · rename_i allowed
      exact .slotCancelled chance id slotHandle slotCapability slot _ found
        allowed.1
    · exact .ignored _ _

theorem authorize_found
    (allowed : authorize hash bridge id token owner = true) :
    ∃ found, bridge = some found ∧
      authorize hash (some found) id token owner = true := by
  cases bridge with
  | none => cases allowed
  | some found => exact ⟨found, rfl, allowed⟩

theorem authorizeEither_found
    (allowed : authorizeEither hash bridge id token = true) :
    ∃ found, bridge = some found ∧
      authorizeEither hash (some found) id token = true := by
  cases bridge with
  | none => cases allowed
  | some found => exact ⟨found, rfl, allowed⟩

theorem processFrame_effect
    (processed : processFrame hash chance relay id frame = .ok relay') :
    Effect hash relay (.command chance (.frame id frame))
      (syncMetrics relay') := by
  unfold processFrame at processed
  cases online : relay.connections.lookup id with
  | none =>
    rw [online] at processed
    cases processed
    exact .ignored _ _
  | some connection =>
    simp only [online] at processed
    have present : relay.connections.contains id = true :=
      Table.contains_iff.mpr ⟨connection, online⟩
    -- The four frames that may end a bridge differ in who may send them.
    have finished : ∀ (authorized : Bool) pairingId token news,
        (authorized = true → ∃ bridge,
          relay.bridges.lookup pairingId = some bridge ∧
          Ending bridge hash pairingId id token frame news) →
        (if authorized then .ok (finishPairing relay pairingId news)
          else .ok relay : Except Halt (State Digest)) = .ok relay' →
        Effect hash relay (.command chance (.frame id frame))
          (syncMetrics relay') := by
      intro authorized pairingId token news ends result
      split at result
      · rename_i allowed
        cases result
        obtain ⟨bridge, found, ending⟩ := ends allowed
        exact finishPairing_effect hash chance found ending
      · cases result
        exact .ignored _ _
    cases frame with
    | ping =>
      cases processed
      rw [send_eq, delivered_online present]
      exact .replied hash chance _ _ _ present rfl rfl
    | createPairingSlot requestId key ttl =>
      exact createPairingSlot_effect hash online processed
    | resolvePairingCode requestId displayCode =>
      cases processed
      exact resolvePairingCode_effect hash present requestId displayCode
    | beginPairing requestId pairingId slotHandle key offer =>
      exact beginPairing_effect hash online processed
    | acceptPairing pairingId sideToken response =>
      cases processed
      exact acceptPairing_effect hash chance id pairingId sideToken response
    | rejectPairing pairingId sideToken =>
      refine finished _ pairingId sideToken _ (fun allowed => ?_) processed
      obtain ⟨bridge, found, shown⟩ := authorizeEither_found hash allowed
      exact ⟨bridge, found, .rejected shown⟩
    | pairingCommitted pairingId sideToken =>
      refine finished _ pairingId sideToken _ (fun allowed => ?_) processed
      obtain ⟨bridge, found, shown⟩ := authorize_found hash allowed
      exact ⟨bridge, found, .committed shown⟩
    | pairingFinalized pairingId sideToken =>
      refine finished _ pairingId sideToken _ (fun allowed => ?_) processed
      obtain ⟨bridge, found, shown⟩ := authorize_found hash allowed
      exact ⟨bridge, found, .finalized shown⟩
    | cancelPairing pairingId sideToken =>
      refine finished _ pairingId sideToken _ (fun allowed => ?_) processed
      obtain ⟨bridge, found, shown⟩ := authorizeEither_found hash allowed
      exact ⟨bridge, found, .cancelled shown⟩
    | cancelPairingSlot slotHandle slotCapability =>
      cases processed
      exact cancelPairingSlot_effect hash chance id slotHandle slotCapability

theorem step_effect (stepped : step hash relay input = .ok relay') :
    Effect hash relay input relay' := by
  cases input with
  | tick now =>
    cases stepped
    exact .ticked now _
  | command chance command =>
    cases command with
    | connected id =>
      cases stepped
      unfold connect
      split
      · rename_i room
        exact .connected chance id _ room
      · exact .ignored _ _
    | disconnected id =>
      cases stepped
      exact .disconnected chance id _
    | frame id frame =>
      simp only [step, handleCommand] at stepped
      cases processed : processFrame hash chance relay id frame with
      | error halt =>
        rw [processed] at stepped
        cases stepped
      | ok relayed =>
        rw [processed] at stepped
        cases stepped
        exact processFrame_effect hash processed

end Relay

end Torchat
