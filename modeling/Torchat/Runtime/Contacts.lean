import Torchat.Runtime.Messaging

namespace Torchat.Runtime

open Foundation Storage

def putContact (contact : ContactRecord) : Call Unit :=
  write (Database.putContact contact)

def contactRequired (installationId : InstallationId) : Call ContactRecord := do
  required (← query (·.contact installationId)) "contact does not exist"

def featureUpdateContactSettings (installationId : InstallationId)
    (localAlias : Option String) (muted blocked : Bool) : Call Unit := do
  let contact ← contactRequired installationId
  let localAlias := (localAlias.map trim).filter (· ≠ "")
  if localAlias.any fun value => 32 < value.toList.length then
    Program.fail
      (.invalidParams "contact alias must not exceed 32 characters")
  putContact
    { contact with localAlias := localAlias, muted := muted, blocked := blocked }
  changed "contacts"

def verify (installationId : InstallationId) : Call Bool := do
  let contact ← contactRequired installationId
  if contact.verification = .verified then return false
  putContact { contact with verification := .verified }
  return true

def newConversation (installationId : InstallationId) (nowMs : Int) :
    ConversationSummary where
  id := installationId
  status := .active
  lastMessagePreview := "Nowa rozmowa"
  lastMessageAt := nowMs
  unreadCount := 0

def activateForContact (installationId : InstallationId) (nowMs : Int) :
    Call Bool := do
  match ← query (·.conversation installationId) with
  | none =>
    putConversation (newConversation installationId nowMs)
    return true
  | some conversation =>
    if conversation.status = .active then return false
    putConversation { conversation with status := .active }
    return true

def featureVerifyContact (installationId : InstallationId) (nowMs : Int) :
    Call Unit := do
  let verified ← verify installationId
  let activated ← activateForContact installationId nowMs
  if verified || activated then
    changed "contacts"
    changed "conversations"

def featureStartConversation (contactId : InstallationId) (nowMs : Int) :
    Call Unit := do
  let _ ← contactRequired contactId
  if ← activateForContact contactId nowMs then changed "conversations"

def featureSetConversationFocus
    (conversationId : InstallationId) (focused : Bool) : Call Unit := do
  onSession (RuntimeSession.setConversationFocus conversationId focused)
  let session ← Program.read Runtime.session
  if focused && session.conversationIsAttended conversationId then
    match ← query (·.conversation conversationId) with
    | none => return
    | some conversation =>
      if conversation.unreadCount = 0 then return
      write (Database.markConversationRead conversationId)
      pushEvent (.conversationReadChanged (some conversationId) (some 0))

def contactAcceptsMessages (installationId : InstallationId) : Call Bool := do
  return !(← contactRequired installationId).blocked

def withStoredDefaults (contact : ContactRecord)
    (existing : Option ContactRecord) : ContactRecord :=
  let prefer (value : String) (field : ContactRecord → String) : String :=
    if trim value = "" then existing.elim value field else value
  let contact :=
    { contact with
      nickname := prefer contact.nickname ContactRecord.nickname
      publicKey := prefer contact.publicKey ContactRecord.publicKey
      fingerprint := prefer contact.fingerprint ContactRecord.fingerprint }
  if trim contact.nickname = "" then
    { contact with nickname := fallbackContactNickname contact.installationId }
  else
    contact

@[simp] theorem withStoredDefaults_installationId
    (contact : ContactRecord) (existing : Option ContactRecord) :
    (withStoredDefaults contact existing).installationId =
      contact.installationId := by
  simp only [withStoredDefaults, apply_ite ContactRecord.installationId, ite_self]

def promoteContactWithStatus
    (contact : ContactRecord) (status : ConversationState)
    (openConversation : Bool) : Call ConversationSummary := do
  let existing ← query (·.contact contact.installationId)
  let contact := withStoredDefaults contact existing
  putContact contact
  let stored ← query (·.conversation contact.installationId)
  let conversation ← match stored with
    | some conversation => Program.pure conversation
    | none => do
        Program.pure (newConversation contact.installationId (← nowMs))
  let conversation := { conversation with status := status }
  putConversation conversation
  if openConversation then
    onSession (RuntimeSession.selectConversation conversation.id)
  changed "contacts"
  changed "conversations"
  return conversation

def welcomeAccepted (contact : ContactRecord) (openConversation : Bool)
    (inviteId : Option String) : Call ConversationSummary := do
  match inviteId with
  | none => Program.pure ()
  | some inviteId => do
      let items ← pairingInbox
      let item ← required
        (items.find? fun item => item.offerInviteId = some inviteId)
        "pairing request does not exist"
      let updated ← Program.ofExcept (Pairing.completeWelcome item)
      if item.state ≠ .completed then
        putPairingInbox updated
        inviteStateChanged updated.pairingId updated.state
  promoteContactWithStatus { contact with verification := .verified } .active
    openConversation

def applyRemoteRelationshipRemoval
    (installationId : InstallationId) (removedAt : Int) (removalId : String)
    (relationshipEpoch : Int) : Call Unit := do
  requireText installationId "contact installation id must not be empty"
  requireText removalId "relationship removal identifiers must not be empty"
  write (Database.applyRemoteRelationshipRemoval installationId removedAt
    removalId relationshipEpoch)
  changed "contacts"
  changed "conversations"

end Torchat.Runtime
