import Mathlib.Data.List.Sort
import Torchat.Runtime.Host

namespace Torchat

open Foundation Storage

structure PairingPreparation where
  pairingId : String
  recipientInstallationId : InstallationId
  capability : String

structure PairingSendEffect where
  pairingId : String
  recipientInstallationId : InstallationId
  kind : PairingSendKind
  payload : Option String

namespace Pairing

def normalizePairingItem (item : PairingItem) : PairingItem :=
  { item with
    availableActions := pairingAvailableActions item.state item.received }

def mergeInviteState (stored remote : InviteState) : InviteState :=
  if stored = remote then stored
  else if stored = .archived ∨ stored = .completed then stored
  else if remote = .archived ∨ remote = .completed then remote
  else if (stored = .rejected ∨ stored = .cancelled ∨ stored = .expired ∨
      stored = .accepted) ∧ remote = .pending then stored
  else if stored = .pending then remote
  else stored

structure PairingMerge where
  item : PairingItem
  inserted : Bool
  changed : Bool

def mergePairingItem
    (stored : Option PairingItem) (remote : PairingItem) : PairingMerge :=
  match stored with
  | none => ⟨normalizePairingItem remote, true, true⟩
  | some stored =>
    let stored := normalizePairingItem stored
    let item := normalizePairingItem
      { stored with
        sender := stored.sender <|> remote.sender
        capability :=
          if stored.capability.getD "" = "" then remote.capability
          else stored.capability
        offerInviteId := stored.offerInviteId <|> remote.offerInviteId
        offerPayload := stored.offerPayload <|> remote.offerPayload
        pairKey := stored.pairKey <|> remote.pairKey
        expiresAt := max stored.expiresAt remote.expiresAt
        received := stored.received || remote.received
        state := mergeInviteState stored.state remote.state }
    ⟨item, false, item ≠ stored⟩

def isAsciiWhitespace (character : Char) : Bool :=
  character = ' ' || character = '\t' || character = '\n' ||
    character.toNat = 0x0c || character = '\r'

def normalizePairingCode (code : String) : RuntimeResult String :=
  let normalized := code.toList.filter fun value => !isAsciiWhitespace value
  if normalized.length = 8 ∧ normalized.all Char.isDigit then
    .ok (String.ofList normalized)
  else
    .error (.invalidParams "pairing code must contain exactly eight digits")

def hasOutstandingRequest (items : List PairingItem) : Bool :=
  items.any fun item => item.state.isOutstanding

def requireProfileReady : Option RuntimeProfile → RuntimeResult Unit
  | none => .error (.unavailable "runtime profile is not ready")
  | some profile =>
    if (trim profile.nickname).toList.length < 2 then
      .error (.conflict "set nickname before generating a pairing code")
    else
      .ok ()

def transitionInviteState :
    InviteState → PairingAction → RuntimeResult InviteState
  | .pending, .accept => .ok .accepted
  | .pending, .reject => .ok .rejected
  | .pending, .expire => .ok .expired
  | .pending, .cancel => .ok .cancelled
  | .accepted, .complete => .ok .completed
  | .accepted, .cancel => .ok .cancelled
  | .accepted, .archive | .rejected, .archive | .completed, .archive
  | .expired, .archive | .cancelled, .archive => .ok .archived
  | _, _ => .error
      (.conflict "pairing request cannot be transitioned from its current state")

def transitionItem
    (item : PairingItem) (action : PairingAction) : RuntimeResult PairingItem := do
  let state ← transitionInviteState item.state action
  return normalizePairingItem { item with state := state }

def pendingSendEffect (nowSecs : Int) (item : PairingItem) :
    RuntimeResult (List PairingSendEffect) :=
  match item.sender with
  | none =>
    if item.state = .accepted ∨ item.state = .rejected then
      .error (.conflict "pairing sender does not exist")
    else
      .ok []
  | some sender =>
    let effect := PairingSendEffect.mk item.pairingId sender.installationId
    match item.state with
    | .accepted =>
      if item.expiresAt < nowSecs then .ok []
      else if item.offerPayload.isNone then
        .error (.conflict "accepted pairing offer payload does not exist")
      else .ok [effect .offer item.offerPayload]
    | .rejected => .ok [effect .rejection none]
    | _ => .ok []

def pendingSendEffects (items : List PairingItem) (nowSecs : Int) :
    RuntimeResult (List PairingSendEffect) := do
  let effects := (← items.mapM (pendingSendEffect nowSecs)).flatten
  return effects.insertionSort fun left right =>
    left.recipientInstallationId ≤ right.recipientInstallationId

def mergeRemoteItem
    (items : List PairingItem) (remote : PairingItem) : PairingMerge :=
  mergePairingItem
    (items.find? fun item => item.pairingId = remote.pairingId) remote

/-- Each merge sees the results of the ones before it. -/
def mergeRemoteItems :
    List PairingItem → List PairingItem → List PairingItem × List PairingMerge
  | items, [] => (items, [])
  | items, remote :: rest =>
    let merge := mergeRemoteItem items remote
    let kept := items.eraseP fun item => item.pairingId = remote.pairingId
    let (items, merges) := mergeRemoteItems (kept ++ [merge.item]) rest
    (items, merge :: merges)

def prepareAccept (item : PairingItem) (contacts : List ContactRecord)
    (nowSecs : Int) : RuntimeResult PairingPreparation :=
  match item.sender with
  | none => .error (.conflict "pairing sender does not exist")
  | some sender =>
    let retrying := item.state = .accepted ∨ item.state = .completed
    let known := contacts.any fun contact =>
      contact.installationId = sender.installationId && !contact.blocked
    if ¬retrying ∧ known then
      .error (.conflict
        "contact already exists; remove it before pairing again")
    else
      match item.capability with
      | none => .error (.conflict "pairing capability does not exist")
      | some capability =>
        if ¬retrying ∧ item.expiresAt < nowSecs then
          .error (.conflict "pairing request is expired")
        else if ¬retrying ∧ !item.state.isPending then
          .error (.conflict
            "pairing request cannot be prepared from its current state")
        else
          .ok ⟨item.pairingId, sender.installationId, capability⟩

def prepareReject (item : PairingItem) (nowSecs : Int) :
    RuntimeResult (PairingItem × InstallationId) :=
  match item.sender with
  | none => .error (.conflict "pairing sender does not exist")
  | some sender =>
    if item.state = .rejected then .ok (item, sender.installationId)
    else if item.expiresAt < nowSecs then
      .error (.conflict "pairing request is expired")
    else do
      return (← transitionItem item .reject, sender.installationId)

def cannotCancel : RuntimeError :=
  .conflict "pairing request cannot be cancelled from its current state"

def prepareCancel (item : PairingItem) : RuntimeResult String :=
  if item.state.isOutstanding then .ok item.pairingId else .error cannotCancel

def commitCancel (item : PairingItem) : RuntimeResult PairingItem :=
  if item.state = .cancelled then .ok item
  else if item.state.isOutstanding then
    .ok (normalizePairingItem { item with state := .cancelled })
  else .error cannotCancel

def confirmCancel (item : PairingItem) : RuntimeResult (Option PairingItem) :=
  if item.state = .cancelled then .ok none else some <$> commitCancel item

def nextStateForPeerOutcome :
    InviteState → PairingPeerOutcome → RuntimeResult InviteState
  | .pending, .offerReceived | .accepted, .offerReceived => .ok .accepted
  | .pending, .rejectionReceived | .accepted, .rejectionReceived
  | .rejected, .rejectionReceived => .ok .rejected
  | .accepted, .welcomePrepared => .ok .completed
  | .completed, _ => .ok .completed
  | _, _ => .error
      (.conflict "pairing peer outcome is invalid for the current state")

def completeWelcome (item : PairingItem) : RuntimeResult PairingItem :=
  if item.capability.isNone then
    .error (.conflict "pairing capability does not exist")
  else
    match item.state with
    | .accepted => .ok (normalizePairingItem { item with state := .completed })
    | .completed => .ok item
    | _ => .error
        (.conflict "welcome cannot complete pairing from its current state")

/-- The items that expire last come first, and among equals the smaller id. -/
def visibleItems (items : List PairingItem) : List PairingItem :=
  (items.filter fun item => item.state ≠ .archived).insertionSort
    fun left right =>
      right.expiresAt < left.expiresAt ∨
        left.expiresAt = right.expiresAt ∧ left.pairingId ≤ right.pairingId

def expireItem (item : PairingItem) (nowSecs : Int) : Option PairingItem :=
  if item.state ≠ .pending ∨ item.expiresAt ≥ nowSecs then none
  else some (normalizePairingItem { item with state := .expired })

def expireItems (items : List PairingItem) (nowSecs : Int) : List PairingItem :=
  items.filterMap (expireItem · nowSecs)

def completeForExistingContact (item : PairingItem)
    (contactIds : List InstallationId) : Option PairingItem :=
  let targetIsContact := item.sender.any fun target =>
    contactIds.contains target.installationId
  if item.state.isOutstanding && targetIsContact then
    some (normalizePairingItem { item with state := .completed })
  else none

def boundTo (item : PairingItem) (installationId : InstallationId) : Bool :=
  item.sender.any fun sender => sender.installationId = installationId

def reconcileOutboxItem (item : PairingItem) (contact : ContactRecord)
    (installationId : InstallationId) (allowSingleUnboundRepair : Bool) :
    Option PairingItem :=
  if !item.state.isOutstanding then none
  else if !boundTo item installationId && !allowSingleUnboundRepair then none
  else
    some (normalizePairingItem
      { item with sender := some contact, state := .completed })

def reconcileOutboxItems (items : List PairingItem) (contact : ContactRecord)
    (installationId : InstallationId) : List PairingItem :=
  let outstanding := items.filter fun item => item.state.isOutstanding
  let explicitMatches := outstanding.countP (boundTo · installationId)
  outstanding.filterMap fun item =>
    reconcileOutboxItem item contact installationId
      (explicitMatches = 0 && outstanding.length = 1)

end Pairing

namespace Storage.Database

def onPairing (f : PairingTables → RuntimeResult PairingTables)
    (database : Database) : RuntimeResult Database := do
  return { database with pairing := ← f database.pairing }

def contactList (database : Database) : List ContactRecord :=
  database.contacts.values

def inboxItem (database : Database) (pairingId : String) : Option PairingItem :=
  (database.pairing.inbox.lookup pairingId).map (pairingInboxItem pairingId)

def outboxItem (database : Database) (pairingId : String) : Option PairingItem :=
  (database.pairing.outbox.lookup pairingId).map (pairingOutboxItem pairingId)

end Storage.Database

namespace Runtime

open Pairing

def putPairingInbox (item : PairingItem) : Call Unit :=
  write (Database.onPairing (Storage.putPairingInbox · item))

def putPairingOutbox (item : PairingItem) : Call Unit :=
  write (Database.onPairing (Storage.putPairingOutbox · item))

def pairingInbox : Call (List PairingItem) :=
  query fun database => Storage.pairingInbox database.pairing

def pairingOutbox : Call (List PairingItem) :=
  query fun database => Storage.pairingOutbox database.pairing

def inviteStateChanged (pairingId : String) (state : InviteState) : Call Unit :=
  pushEvent (.inviteStateChanged (some pairingId) (some state))

def required (found : Option α) (missing : String) : Call α :=
  Program.ofExcept (found.elim (.error (.notFound missing)) .ok)

def inboxRequired (pairingId : String) : Call PairingItem := do
  required (← query (·.inboxItem pairingId)) "pairing request does not exist"

def outboxRequired (pairingId : String) : Call PairingItem := do
  required (← query (·.outboxItem pairingId)) "pairing request does not exist"

def requirePairingProfileReady : Call Unit := do
  Program.ofExcept (requireProfileReady (← query Database.profile))

/-- The source changes the items in place; here the changed list is the
result. -/
def expirePairingItems (items : List PairingItem)
    (put : PairingItem → Call Unit) : Call (List PairingItem) := do
  let nowSecs ← nowSecs
  Program.forEach (expireItems items nowSecs) fun item => do
    put item
    inviteStateChanged item.pairingId .expired
  return items.map fun item => (expireItem item nowSecs).getD item

def expirePendingPairings : Call Unit := do
  let inbox ← pairingInbox
  let outbox ← pairingOutbox
  let _ ← expirePairingItems inbox putPairingInbox
  let _ ← expirePairingItems outbox putPairingOutbox

def completePairings (items : List PairingItem) : Call Unit :=
  Program.forEach items fun item => do
    putPairingOutbox item
    inviteStateChanged item.pairingId .completed

def completeOutboxPairingsForExistingContacts : Call Unit := do
  let contactIds := (← query Database.contactList).map
    ContactRecord.installationId
  let items ← pairingOutbox
  completePairings (items.filterMap (completeForExistingContact · contactIds))

def reconcileOutboxPairingContact
    (installationId : InstallationId) : Call Unit := do
  let contact ← required (← query (·.contact installationId))
    "contact does not exist"
  let items ← pairingOutbox
  completePairings (reconcileOutboxItems items contact installationId)

def prepareSubmitPairingCode (code : String) : Call String := do
  let normalized ← Program.ofExcept (normalizePairingCode code)
  let _ ← expirePairingItems (← pairingOutbox) putPairingOutbox
  completeOutboxPairingsForExistingContacts
  if hasOutstandingRequest (← pairingOutbox) then
    Program.fail (.conflict "an active pairing request already exists")
  return normalized

def commitSubmittedPairing (item : PairingItem) : Call PairingItem := do
  let item := normalizePairingItem item
  putPairingOutbox item
  inviteStateChanged item.pairingId item.state
  return item

def mergePairingInbox
    (remote : List PairingItem) : Call (List PairingItem) := do
  let items ← expirePairingItems (← pairingInbox) putPairingInbox
  let (items, merges) := mergeRemoteItems items remote
  Program.forEach merges fun merge => do
    if merge.inserted then
      pushEvent (.inviteReceived (some merge.item.pairingId)
        (merge.item.sender.map ContactRecord.nickname))
      putPairingInbox merge.item
    else if merge.changed then
      putPairingInbox merge.item
  return visibleItems items

def mergePairingOutbox
    (remote : List PairingItem) : Call (List PairingItem) := do
  let items ← expirePairingItems (← pairingOutbox) putPairingOutbox
  let (items, merges) := mergeRemoteItems items remote
  Program.forEach merges fun merge => do
    if merge.changed || merge.inserted then
      putPairingOutbox merge.item
      inviteStateChanged merge.item.pairingId merge.item.state
  return visibleItems items

def receivePairingOffer (item : PairingItem) : Call Unit := do
  let _ ← mergePairingInbox [item]

def finalizePairing (pairingId : String) : Call Unit := do
  match ← query (·.inboxItem pairingId) with
  | some item =>
    if item.state = .completed then return
    putPairingInbox (← Program.ofExcept (transitionItem item .complete))
    inviteStateChanged pairingId .completed
  | none =>
    match ← query (·.outboxItem pairingId) with
    | none => return
    | some item =>
      if item.state = .completed then return
      let state ← Program.ofExcept
        (nextStateForPeerOutcome item.state .welcomePrepared)
      putPairingOutbox (normalizePairingItem { item with state := state })
      inviteStateChanged pairingId state

def applyPairingPeerOutcome
    (pairingId : String) (outcome : PairingPeerOutcome) : Call Unit := do
  let item ← outboxRequired pairingId
  let state ← Program.ofExcept (nextStateForPeerOutcome item.state outcome)
  if item.state = state then return
  putPairingOutbox (normalizePairingItem { item with state := state })
  inviteStateChanged pairingId state

def pairingOutboxView : Call (List PairingItem) := do
  completeOutboxPairingsForExistingContacts
  let items ← expirePairingItems (← pairingOutbox) putPairingOutbox
  return visibleItems items

def featurePrepareAcceptPairing (pairingId : String) (nowSecs : Int) :
    Call PairingPreparation := do
  let item ← inboxRequired pairingId
  match item.sender with
  | none => Program.fail (.conflict "pairing sender does not exist")
  | some sender =>
    let contact ← query (·.contact sender.installationId)
    Program.ofExcept (prepareAccept item contact.toList nowSecs)

def featurePairingOfferPayload (pairingId : String) : Call String := do
  required (← inboxRequired pairingId).offerPayload
    "pairing offer does not exist"

def featureAcceptPairing (pairingId : String) : Call InviteState := do
  let item ← inboxRequired pairingId
  if item.state = .accepted ∨ item.state = .completed then return item.state
  let item ← Program.ofExcept (transitionItem item .accept)
  putPairingInbox item
  inviteStateChanged pairingId item.state
  return item.state

def featureRejectPairing (pairingId : String) (nowSecs : Int) :
    Call PairingSendEffect := do
  let item ← inboxRequired pairingId
  let (updated, recipient) ← Program.ofExcept (prepareReject item nowSecs)
  if item.state ≠ .rejected then
    putPairingInbox updated
    inviteStateChanged pairingId updated.state
  return ⟨pairingId, recipient, .rejection, none⟩

def featureArchivePairing (pairingId : String) : Call InviteState := do
  match ← query (·.inboxItem pairingId) with
  | some item =>
    let item ← Program.ofExcept (transitionItem item .archive)
    putPairingInbox item
    inviteStateChanged pairingId item.state
    return item.state
  | none =>
    let item ← outboxRequired pairingId
    let item ← Program.ofExcept (transitionItem item .archive)
    putPairingOutbox item
    inviteStateChanged pairingId item.state
    return item.state

def featurePrepareCancelPairing (pairingId : String) : Call String := do
  Program.ofExcept (prepareCancel (← outboxRequired pairingId))

def featureConfirmPairingCancelled (pairingId : String) : Call InviteState := do
  let item ← outboxRequired pairingId
  match ← Program.ofExcept (confirmCancel item) with
  | none => Program.pure ()
  | some item => do
      putPairingOutbox item
      inviteStateChanged pairingId item.state
  onDatabase (Program.modify (Database.recordCancelled pairingId))
  return .cancelled

def featurePendingPairingSendEffects (nowSecs : Int) :
    Call (List PairingSendEffect) := do
  Program.ofExcept (pendingSendEffects (← pairingInbox) nowSecs)

end Runtime

end Torchat
