import Torchat.Relay.Effects

/-!
The actor with every partial access of the source written out: an index into
`connections`, an `unwrap` of `get_mut`, a byte slice of the pairing code and
the subtraction that lowers a pairing counter.
-/

namespace Torchat.Relay.Checked

open Foundation Table

inductive Fault
  | halted (halt : Halt)
  | underflow

def panicked : Fault := .halted .panicked

/-- `connections[&id]`. -/
def index (connections : Connections) (id : ConnectionId) :
    Except Fault Connection :=
  match connections.lookup id with
  | some connection => .ok connection
  | none => .error panicked

def unwrapMut (connections : Connections) (id : ConnectionId)
    (f : Connection → Connection) : Except Fault (Connections) :=
  if connections.contains id then .ok (connections.modify id f)
  else .error panicked

def splitAtByte : List Char → Nat → Except Fault (List Char × List Char)
  | rest, 0 => .ok ([], rest)
  | [], _ + 1 => .error panicked
  | head :: tail, bytes + 1 =>
    if head.utf8Size ≤ bytes + 1 then do
      let (taken, rest) ← splitAtByte tail (bytes + 1 - head.utf8Size)
      return (head :: taken, rest)
    else
      .error panicked

def formatPairingCode (code : String) : Except Fault String := do
  let (first, _) ← splitAtByte code.toList 4
  let (_, second) ← splitAtByte code.toList 4
  return String.ofList (first ++ ' ' :: second)

def saturatingSub (counter : Nat) : Except Fault Nat := .ok (counter - 1)

def checkedSub (counter : Nat) : Except Fault Nat :=
  if counter = 0 then .error .underflow else .ok (counter - 1)

variable (lower : Nat → Except Fault Nat)

def releasePairing (connections : Connections) (id : ConnectionId) :
    Except Fault (Connections) :=
  match connections.lookup id with
  | none => .ok connections
  | some connection => do
      let pairings ← lower connection.pairings
      return connections.modify id fun connection =>
        { connection with pairings := pairings }

def releaseBridge (connections : Connections) (bridge : Bridge Digest) :
    Except Fault (Connections) := do
  releasePairing lower (← releasePairing lower connections bridge.owner)
    bridge.joiner

def dropBridges (relay : State Digest)
    (selected : Uuid → Bridge Digest → Bool) : Except Fault (State Digest) := do
  let connections ←
    (relay.bridges.retain selected).values.foldlM (releaseBridge lower)
      relay.connections
  return { relay with
    connections := connections
    bridges := relay.bridges.retain fun id bridge => !selected id bridge }

def expireState (relay : State Digest) (now : Int) :
    Except Fault (State Digest) := do
  let expiredSlots := relay.slots.count fun _ slot => slot.expiresAt ≤ now
  let relay :=
    { relay with slots := relay.slots.retain fun _ slot => slot.expiresAt > now }
  let relay ← dropBridges lower relay fun _ bridge => bridge.expiresAt ≤ now
  return { relay with
    metrics :=
      { relay.metrics with
        expiredSlots := relay.metrics.expiredSlots + expiredSlots } }

def disconnect (relay : State Digest) (id : ConnectionId) :
    Except Fault (State Digest) :=
  dropBridges lower
    { relay with
      connections := relay.connections.erase id
      slots := relay.slots.retain fun _ slot => slot.owner ≠ id }
    fun _ bridge => bridge.owner = id ∨ bridge.joiner = id

variable [DecidableEq Digest]

def finishPairing (relay : State Digest) (id : Uuid)
    (frame : RendezvousServerFrame) : Except Fault (State Digest) :=
  match relay.bridges.lookup id with
  | none => .ok relay
  | some bridge => do
      let connections ← releaseBridge lower relay.connections bridge
      let relay :=
        { relay with
          bridges := relay.bridges.erase id
          connections := connections }
      let relay := send (send relay bridge.owner frame) bridge.joiner frame
      match relay.slots.lookup bridge.slotHash with
      | none => return relay
      | some slot =>
        return { relay with
          slots := relay.slots.erase bridge.slotHash
          connections := releaseSlot relay.connections slot.owner }

variable (hash : String → Digest)

def createPairingSlot (chance : Chance) (relay : State Digest)
    (id : ConnectionId) (requestId : Uuid) (rendezvousPublicKey : Key32)
    (requestedTtlSeconds : UInt16) : Except Fault (State Digest) := do
  let connection ← index relay.connections id
  if connection.slots ≥ maxSlotsPerConnection ∨ relay.slots.size ≥ maxSlots then
    return reject relay id (some requestId) "capacity"
  else
    let ttl := max 10 (min requestedTtlSeconds.toNat slotTtl)
    let unused := fun (candidate : PairingCode) =>
      !relay.slots.values.any fun slot => slot.codeHash = hash candidate.text
    match chance.codes.find? unused with
    | none => .error (.halted .drawing)
    | some code =>
      let displayCode ← formatPairingCode code.text
      let handle := chance.tokens 0
      let capability := chance.tokens 1
      let slots := relay.slots.insert (hash handle)
        { owner := id
          handle := handle
          capabilityHash := hash capability
          codeHash := hash code.text
          rendezvousPublicKey := rendezvousPublicKey
          expiresAt := chance.clock 0 + ttl }
      let connections ← unwrapMut relay.connections id fun connection =>
        { connection with slots := connection.slots + 1 }
      return send { relay with slots := slots, connections := connections } id
        (.pairingSlotCreated requestId handle displayCode capability
          (chance.clock 1 + ttl))

def resolvePairingCode (chance : Chance) (relay : State Digest)
    (id : ConnectionId) (requestId : Uuid) (displayCode : String) :
    Except Fault (State Digest) := do
  let now := chance.clock 0
  let connection ← index relay.connections id
  let recent := connection.attempts.filter fun attempt => attempt + 60 > now
  let withAttempts := fun (attempts : List Int) => do
    let connections ← unwrapMut relay.connections id fun connection =>
      { connection with attempts := attempts }
    return { relay with connections := connections }
  if recent.length ≥ maxCodeAttempts then
    let relay ← withAttempts recent
    return reject relay id (some requestId) "rate_limited"
  else
    let relay ← withAttempts (recent ++ [now])
    match normalizePairingCode displayCode with
    | none => return reject relay id (some requestId) "invalid_code"
    | some code =>
      let live := fun (slot : Slot Digest) =>
        slot.codeHash = hash code ∧ slot.expiresAt > now
      match relay.slots.values.find? fun slot => live slot with
      | none => return reject relay id (some requestId) "invalid_code"
      | some slot =>
        return send relay id
          (.pairingSlotResolved requestId slot.handle
            slot.rendezvousPublicKey slot.expiresAt)

/-- `connections[&id].pairings >= MAX || connections[&owner].pairings >= MAX`:
the owner is looked up only where the first comparison fails. -/
def pairingsFull (connections : Connections) (id owner : ConnectionId) :
    Except Fault Bool := do
  if (← index connections id).pairings ≥ maxPairingsPerConnection then
    return true
  else
    return (← index connections owner).pairings ≥ maxPairingsPerConnection

def openBridge (chance : Chance) (relay : State Digest) (id : ConnectionId)
    (slotHash : Digest) (slot : Slot Digest) (requestId pairingId : Uuid)
    (joinerRendezvousPublicKey : Key32) (encryptedOffer : Bytes) :
    Except Fault (State Digest) := do
  let ownerToken := chance.tokens 0
  let joinerToken := chance.tokens 1
  let charge := fun (connection : Connection) =>
    { connection with pairings := connection.pairings + 1 }
  let connections := releaseSlot relay.connections slot.owner
  let connections ← unwrapMut connections id charge
  let connections ← unwrapMut connections slot.owner charge
  let relay :=
    { relay with
      slots := relay.slots.erase slotHash
      bridges := relay.bridges.insert pairingId
        { owner := slot.owner
          joiner := id
          ownerTokenHash := hash ownerToken
          joinerTokenHash := hash joinerToken
          slotHash := slotHash
          expiresAt := chance.clock 1 + bridgeTtl }
      connections := connections }
  let relay := send relay slot.owner
    (.pairingRequested pairingId slot.handle ownerToken
      joinerRendezvousPublicKey encryptedOffer (chance.clock 2 + bridgeTtl))
  return send relay id
    (.pairingStarted requestId pairingId joinerToken
      (chance.clock 3 + bridgeTtl))

def beginPairing (chance : Chance) (relay : State Digest) (id : ConnectionId)
    (requestId pairingId : Uuid) (slotHandle : String)
    (joinerRendezvousPublicKey : Key32) (encryptedOffer : Bytes) :
    Except Fault (State Digest) :=
  let refuse := fun code => .ok (reject relay id (some requestId) code)
  if encryptedOffer.length > maxPairingBlobBytes then
    refuse "blob_too_large"
  else
    match relay.slots.lookup (hash slotHandle) with
    | none => refuse "invalid_slot"
    | some slot =>
      if slot.expiresAt ≤ chance.clock 0 ∨ slot.owner = id then
        refuse "invalid_slot"
      else if relay.bridges.contains pairingId then
        refuse "duplicate_pairing"
      else do
        if ← pairingsFull relay.connections id slot.owner then
          refuse "capacity"
        else
          openBridge hash chance relay id (hash slotHandle) slot requestId
            pairingId joinerRendezvousPublicKey encryptedOffer

def processFrame (chance : Chance) (relay : State Digest) (id : ConnectionId)
    (frame : RendezvousClientFrame) : Except Fault (State Digest) :=
  if !relay.connections.contains id then
    .ok relay
  else
    let finishWhen := fun (authorized : Bool) (pairingId : Uuid)
        (frame : RendezvousServerFrame) =>
      if authorized then finishPairing lower relay pairingId frame
      else .ok relay
    match frame with
    | .ping => .ok (send relay id .pong)
    | .createPairingSlot requestId key ttl =>
      createPairingSlot hash chance relay id requestId key ttl
    | .resolvePairingCode requestId displayCode =>
      resolvePairingCode hash chance relay id requestId displayCode
    | .beginPairing requestId pairingId slotHandle key offer =>
      beginPairing hash chance relay id requestId pairingId slotHandle key
        offer
    | .acceptPairing pairingId sideToken response =>
      .ok (acceptPairing hash relay id pairingId sideToken response)
    | .rejectPairing pairingId sideToken =>
      finishWhen
        (authorizeEither hash (relay.bridges.lookup pairingId) id sideToken)
        pairingId (.pairingRejected pairingId)
    | .pairingCommitted pairingId sideToken =>
      finishWhen
        (authorize hash (relay.bridges.lookup pairingId) id sideToken false)
        pairingId (.pairingFinalized pairingId)
    | .pairingFinalized pairingId sideToken =>
      finishWhen
        (authorize hash (relay.bridges.lookup pairingId) id sideToken true)
        pairingId (.pairingFinalized pairingId)
    | .cancelPairing pairingId sideToken =>
      finishWhen
        (authorizeEither hash (relay.bridges.lookup pairingId) id sideToken)
        pairingId (.pairingCancelled pairingId)
    | .cancelPairingSlot slotHandle slotCapability =>
      .ok (cancelPairingSlot hash relay id slotHandle slotCapability)

def handleCommand (chance : Chance) (relay : State Digest) (command : Command) :
    Except Fault (State Digest) :=
  match command with
  | .connected id => .ok (syncMetrics (connect relay id))
  | .disconnected id => syncMetrics <$> disconnect lower relay id
  | .frame id frame =>
    syncMetrics <$> processFrame lower hash chance relay id frame

def step (relay : State Digest) : Input → Except Fault (State Digest)
  | .command chance command => handleCommand lower hash chance relay command
  | .tick now => syncMetrics <$> expireState lower relay now

/-- The actor as the source runs it, for any client and any ids. -/
def actor : Machine (State Digest) Input where
  init := .empty
  enabled relay input := ∃ relay', step saturatingSub hash relay input = .ok relay'
  next relay input :=
    match step saturatingSub hash relay input with
    | .ok relay' => relay'
    | .error _ => relay

/-! ## Agreement with the model that leaves the faults out -/

variable {id : ConnectionId}

theorem index_found (found : connections.lookup id = some connection) :
    index connections id = .ok connection := by
  simp [index, found]

theorem unwrapMut_present
    (present : connections.contains id = true) (f : Connection → Connection) :
    unwrapMut connections id f = .ok (connections.modify id f) :=
  if_pos present

theorem splitAtByte_ascii
    (ascii : ∀ character ∈ characters, character.utf8Size = 1)
    (within : bytes ≤ characters.length) :
    splitAtByte characters bytes =
      .ok (characters.take bytes, characters.drop bytes) := by
  induction characters generalizing bytes with
  | nil =>
    cases Nat.le_zero.mp within
    rfl
  | cons head tail induction =>
    cases bytes with
    | zero => rfl
    | succ bytes =>
      have single : head.utf8Size = 1 := ascii head List.mem_cons_self
      have rest : splitAtByte tail bytes = _ :=
        induction (fun character member => ascii character (.tail head member))
          (Nat.le_of_succ_le_succ within)
      simp [splitAtByte, single, rest, bind, Except.bind, pure, Except.pure]

theorem formatPairingCode_eq (code : PairingCode) :
    formatPairingCode code.text = .ok (Relay.formatPairingCode code) := by
  have digit : ∀ digit : Fin 10,
      (Char.ofNat ('0'.toNat + digit.val)).utf8Size = 1 := by decide
  have ascii : ∀ character ∈ code.characters, character.utf8Size = 1 := by
    intro character member
    obtain ⟨value, -, rfl⟩ := List.mem_map.mp member
    exact digit value
  have long : 4 ≤ code.characters.length := by
    rw [PairingCode.characters, List.length_map, Vector.length_toList]
    decide
  have parts := splitAtByte_ascii ascii long
  simp [formatPairingCode, PairingCode.text, parts, bind, Except.bind, pure,
    Except.pure, Relay.formatPairingCode]

def Releases
    (connections : Connections)
    (bridges : List (Bridge Digest)) : Prop :=
  bridges.foldlM (releaseBridge lower) connections =
    .ok (releaseBridges connections bridges)

theorem releasePairing_ok
    (lowered : ∀ connection, connections.lookup id = some connection →
      lower connection.pairings = .ok (connection.pairings - 1)) :
    releasePairing lower connections id =
      .ok (Relay.releasePairing connections id) := by
  unfold releasePairing Relay.releasePairing
  cases found : connections.lookup id with
  | none =>
    rw [modify_congr (g := fun connection => connection),
      modify_self]
    intro connection foundAt
    rw [found] at foundAt
    cases foundAt
  | some connection =>
    simp only [lowered connection found, bind, Except.bind, pure, Except.pure,
      Except.ok.injEq]
    apply modify_congr
    intro row foundAt
    rw [found] at foundAt
    cases foundAt
    rfl

omit [DecidableEq Digest] in
theorem Releases.cons {bridge : Bridge Digest}
    (owner : ∀ connection,
      connections.lookup bridge.owner = some connection →
      lower connection.pairings = .ok (connection.pairings - 1))
    (joiner : ∀ connection,
      (Relay.releasePairing connections bridge.owner).lookup bridge.joiner =
        some connection →
      lower connection.pairings = .ok (connection.pairings - 1))
    (others : Releases lower (credited connections bridge) rest) :
    Releases lower connections (bridge :: rest) := by
  have first : releaseBridge lower connections bridge =
      .ok (credited connections bridge) := by
    rw [releaseBridge, releasePairing_ok lower owner]
    exact releasePairing_ok lower joiner
  rw [Releases, List.foldlM_cons, first]
  exact others

omit [DecidableEq Digest] in
theorem releases_saturating (connections : Connections)
    (bridges : List (Bridge Digest)) :
    Releases saturatingSub connections bridges := by
  induction bridges generalizing connections with
  | nil => rfl
  | cons bridge rest induction =>
    exact .cons saturatingSub (fun _ _ => rfl) (fun _ _ => rfl)
      (induction (credited connections bridge))

def Releasable (relay : State Digest) : Prop :=
  ∀ connections bridges,
    (∀ id connection, connections.lookup id = some connection →
      relay.connections.lookup id = some connection) →
    bridges.Sublist relay.bridges.values →
    Releases lower connections bridges

def SlotsOwned (relay : State Digest) : Prop :=
  ∀ digest slot, relay.slots.lookup digest = some slot →
    relay.connections.contains slot.owner = true

variable {relay : State Digest}

omit [DecidableEq Digest] in
theorem dropBridges_eq
    (releases : Releases lower relay.connections
      (relay.bridges.retain selected).values) :
    dropBridges lower relay selected =
      .ok (Relay.dropBridges relay selected) := by
  rw [dropBridges, releases]
  rfl

theorem finishPairing_eq (releasable : Releasable lower relay) (id : Uuid)
    (frame : RendezvousServerFrame) :
    finishPairing lower relay id frame =
      .ok (Relay.finishPairing relay id frame) := by
  unfold finishPairing Relay.finishPairing
  cases found : relay.bridges.lookup id with
  | none => rfl
  | some bridge =>
    have single := releasable relay.connections [bridge]
      (fun _ _ found => found)
      (List.singleton_sublist.mpr (mem_values found))
    have released : releaseBridge lower relay.connections bridge =
        .ok (credited relay.connections bridge) := by
      simpa [Releases, releaseBridges, credited] using single
    simp only [released, bind, Except.bind]
    cases slotFound : relay.slots.lookup bridge.slotHash <;>
      simp [slotFound, credited, pure, Except.pure]

section

variable (online : relay.connections.lookup id = some connection)
  (chance : Chance) (requestId : Uuid)

include online

theorem createPairingSlot_eq (key : Key32) (ttl : UInt16) :
    createPairingSlot hash chance relay id requestId key ttl =
      (Relay.createPairingSlot hash chance relay id connection requestId key
        ttl).mapError .halted := by
  have present : relay.connections.contains id = true :=
    contains_iff.mpr ⟨connection, online⟩
  unfold createPairingSlot Relay.createPairingSlot
  simp only [index_found online, bind, Except.bind, formatPairingCode_eq,
    unwrapMut_present present]
  split
  · rfl
  · generalize chance.codes.find? _ = code
    cases code <;> rfl

theorem resolvePairingCode_eq (displayCode : String) :
    resolvePairingCode hash chance relay id requestId displayCode =
      .ok (Relay.resolvePairingCode hash chance relay id connection requestId
        displayCode) := by
  have present : relay.connections.contains id = true :=
    contains_iff.mpr ⟨connection, online⟩
  unfold resolvePairingCode Relay.resolvePairingCode
  simp only [index_found online, bind, Except.bind, unwrapMut_present present,
    pure, Except.pure]
  split
  · rfl
  · cases normalizePairingCode displayCode with
    | none => rfl
    | some code =>
      dsimp only
      generalize relay.slots.values.find? _ = live
      cases live <;> rfl

end

theorem openBridge_eq (present : relay.connections.contains id = true)
    (ownerPresent : relay.connections.contains slot.owner = true)
    (chance : Chance) (slotHash : Digest) (requestId pairingId : Uuid)
    (key : Key32) (offer : Bytes) :
    openBridge hash chance relay id slotHash slot requestId pairingId key
        offer =
      .ok (Relay.openBridge hash chance relay id slotHash slot requestId
        pairingId key offer) := by
  have first :
      (releaseSlot relay.connections slot.owner).contains id = true := by
    rw [contains_releaseSlot]
    exact present
  have second :
      (chargePairing (releaseSlot relay.connections slot.owner) id).contains
        slot.owner = true := by
    rw [contains_chargePairing, contains_releaseSlot]
    exact ownerPresent
  unfold openBridge Relay.openBridge
  simp only [unwrapMut_present first, bind, Except.bind]
  rw [← chargePairing, unwrapMut_present second]
  rfl

theorem beginPairing_eq (owned : SlotsOwned relay)
    (online : relay.connections.lookup id = some connection) (chance : Chance)
    (requestId pairingId : Uuid) (slotHandle : String) (key : Key32)
    (offer : Bytes) :
    beginPairing hash chance relay id requestId pairingId slotHandle key offer =
      (Relay.beginPairing hash chance relay id connection requestId pairingId
        slotHandle key offer).mapError .halted := by
  have present : relay.connections.contains id = true :=
    contains_iff.mpr ⟨connection, online⟩
  unfold beginPairing Relay.beginPairing
  split
  · rfl
  · cases found : relay.slots.lookup (hash slotHandle) with
    | none => rfl
    | some slot =>
      have ownerPresent := owned _ slot found
      obtain ⟨owner, ownerOnline⟩ := contains_iff.mp ownerPresent
      have full : pairingsFull relay.connections id slot.owner =
          .ok (decide (connection.pairings ≥ maxPairingsPerConnection) ||
            decide (owner.pairings ≥ maxPairingsPerConnection)) := by
        unfold pairingsFull
        rw [index_found online, index_found ownerOnline]
        by_cases many : connection.pairings ≥ maxPairingsPerConnection
        · simp [many, bind, Except.bind, pure, Except.pure]
        · simp [many, bind, Except.bind, pure, Except.pure]
      simp only [full, ownerOnline, bind, Except.bind,
        openBridge_eq hash present ownerPresent]
      repeat' split
      all_goals first | rfl | simp_all

theorem processFrame_eq (owned : SlotsOwned relay)
    (releasable : Releasable lower relay) (chance : Chance) (id : ConnectionId)
    (frame : RendezvousClientFrame) :
    processFrame lower hash chance relay id frame =
      (Relay.processFrame hash chance relay id frame).mapError .halted := by
  unfold processFrame Relay.processFrame
  cases online : relay.connections.lookup id with
  | none => simp [contains, online, Except.mapError]
  | some connection =>
    have present : relay.connections.contains id = true :=
      contains_iff.mpr ⟨connection, online⟩
    simp only [present, Bool.not_true, Bool.false_eq_true, if_false,
      finishPairing_eq lower releasable]
    cases frame with
    | createPairingSlot requestId key ttl =>
      exact createPairingSlot_eq hash online chance requestId key ttl
    | resolvePairingCode requestId displayCode =>
      exact resolvePairingCode_eq hash online chance requestId displayCode
    | beginPairing requestId pairingId slotHandle key offer =>
      exact beginPairing_eq hash owned online chance requestId pairingId
        slotHandle key offer
    | ping | acceptPairing | cancelPairingSlot => rfl
    | rejectPairing | pairingCommitted | pairingFinalized | cancelPairing =>
      dsimp only; split <;> rfl

theorem step_eq (owned : SlotsOwned relay) (releasable : Releasable lower relay)
    (input : Input) :
    step lower hash relay input =
      (Relay.step hash relay input).mapError .halted := by
  cases input with
  | tick now =>
    have dropped : dropBridges lower
        { relay with
          slots := relay.slots.retain fun _ slot => slot.expiresAt > now }
        (fun _ bridge => bridge.expiresAt ≤ now) = _ :=
      dropBridges_eq lower (releasable _ _ (fun _ _ found => found)
          (values_retain_sublist _ _))
    simp only [step, expireState, dropped]
    rfl
  | command chance command =>
    cases command with
    | connected id => rfl
    | disconnected id =>
      have kept : ∀ target connection,
          (relay.connections.erase id).lookup target = some connection →
          relay.connections.lookup target = some connection := by
        intro target connection found
        rw [lookup_erase] at found
        split at found
        · cases found
        · exact found
      have dropped : disconnect lower relay id = _ :=
        dropBridges_eq lower (releasable _ _ kept (values_retain_sublist _ _))
      simp only [step, handleCommand, dropped]
      rfl
    | frame id frame =>
      simp only [step, handleCommand, Relay.step, Relay.handleCommand,
        processFrame_eq lower hash owned releasable]
      cases Relay.processFrame hash chance relay id frame <;> rfl

end Torchat.Relay.Checked
