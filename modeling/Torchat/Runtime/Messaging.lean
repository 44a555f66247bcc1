import Torchat.Runtime.Operations

namespace Torchat

open Foundation Storage

structure MessageSendEffect where
  messageId : Uuid
  conversationId : InstallationId
  recipientInstallationId : InstallationId
  body : String
  replyTo : Option MessageReply

def messageStateOnSendPrepare : MessageState → Option MessageState
  | .queued | .sending => some .sending
  | .sent | .delivered | .read | .failed => none

def messageStateAfterTransportOutcome (current : MessageState)
    (outcome : MessageTransportOutcome) : Option MessageState :=
  match outcome, current with
  | .peerPersisted, .sending | .peerPersisted, .sent => some .sent
  | .peerPersisted, .delivered => some .delivered
  | .peerPersisted, .read => some .read
  | .peerPersisted, .queued | .peerPersisted, .failed => none
  | .delivered, .sending | .delivered, .sent | .delivered, .delivered
  | .peerDelivered, .sending | .peerDelivered, .sent
  | .peerDelivered, .delivered => some .delivered
  | .delivered, .read | .peerDelivered, .read => some .read
  | .delivered, .queued | .delivered, .failed
  | .peerDelivered, .queued | .peerDelivered, .failed => none
  | .peerUnavailable, .queued | .peerUnavailable, .sending
  | .peerUnavailable, .sent | .retryableFailure, .queued
  | .retryableFailure, .sending | .retryableFailure, .sent => some .queued
  | .peerUnavailable, _ | .retryableFailure, _ => none
  | _, .delivered | _, .read => none
  | .permanentFailure, _ | .peerAuthenticationFailed, _
  | .peerRejected, _ => some .failed

def outcomeErrorCode : MessageTransportOutcome → RuntimeErrorCode
  | .peerAuthenticationFailed => .cryptoFailed
  | .peerRejected => .conflict
  | _ => .transportUnavailable

/-- The columns an outcome resets along with the state. -/
def ChatMessage.settled (message : ChatMessage) (state : MessageState)
    (retryAt : Option Int) (errorDetail : Option String) : ChatMessage :=
  match state with
  | .queued =>
    { message with
      state := state
      nextAttemptAt := retryAt.getD message.nextAttemptAt
      ackDeadline := none
      lastTransportError := errorDetail }
  | .failed =>
    { message with
      state := state
      nextAttemptAt := 0
      ackDeadline := none
      lastTransportError := errorDetail }
  | .sent | .delivered | .read =>
    { message with
      state := state
      nextAttemptAt := 0
      ackDeadline := none
      lastTransportError := none }
  | .sending => { message with state := state }

namespace Runtime

def putMessage (message : ChatMessage) : Call Unit :=
  write (Database.putMessage message)

def putConversation (conversation : ConversationSummary) : Call Unit :=
  write (Database.putConversation conversation)

def changed (kind : String) : Call Unit :=
  pushEvent (.changed (some kind))

def messageStateChanged (messageId : Uuid) (conversationId : InstallationId)
    (state : Option MessageState) : Call Unit :=
  pushEvent (.messageStateChanged (some messageId) (some conversationId) state)

def messageRequired (messageId : Uuid) : Call ChatMessage := do
  required (← query (·.message messageId)) "message does not exist"

def outgoingRequired (messageId : Uuid) (incoming : String) :
    Call ChatMessage := do
  let message ← messageRequired messageId
  if !message.outgoing then Program.fail (.conflict incoming)
  return message

def deliveryContact (conversation : ConversationSummary) :
    Call ContactRecord := do
  if !conversation.status.canSend then
    Program.fail (.conflict "conversation is not ready to send")
  let contact ← required
    (← query (·.contact conversation.contactInstallationId))
    "recipient contact does not exist"
  if contact.verification ≠ .verified then
    Program.fail (.conflict "contact must be verified before sending")
  if contact.blocked then Program.fail (.conflict "contact is blocked")
  return contact

def messageEffect (message : ChatMessage) (recipient : InstallationId) :
    MessageSendEffect where
  messageId := message.id
  conversationId := message.conversationId
  recipientInstallationId := recipient
  body := message.body
  replyTo := message.replyTo

def replyTo (conversationId : InstallationId) :
    Option Uuid → Call (Option MessageReply)
  | none => Program.pure none
  | some messageId => do
      let message ← required (← query (·.message messageId))
        "reply message does not exist"
      if message.conversationId ≠ conversationId then
        Program.fail
          (.conflict "reply message belongs to another conversation")
      return some ⟨message.id, message.body, message.outgoing⟩

def enterSending (message : ChatMessage) :
    Call (ChatMessage × List MessageState) := do
  match messageStateOnSendPrepare message.state with
  | none =>
    Program.fail (.conflict "message is not eligible for a send attempt")
  | some state =>
    if state = message.state then return (message, [])
    let message := { message with state := state }
    putMessage message
    return (message, [state])

def queueMessage (conversationId : InstallationId) (text : String)
    (replyToMessageId : Option Uuid) (nowMs : Int) :
    Call (MessageSendEffect × List MessageState) := do
  requireText text "message text must not be empty"
  let text := trim text
  let reply ← replyTo conversationId replyToMessageId
  let conversation ← required (← query (·.conversation conversationId))
    "conversation does not exist"
  let contact ← deliveryContact conversation
  let messageId ← onHost Host.freshUuid
  let message : ChatMessage :=
    { id := messageId
      conversationId := conversationId
      outgoing := true
      body := text
      replyTo := reply
      state := .queued
      createdAt := nowMs
      attemptCount := 0
      lastAttemptAt := none
      nextAttemptAt := nowMs
      ackDeadline := none
      lastTransportError := none }
  putMessage message
  putConversation
    { conversation with
      status := .active
      lastMessagePreview := text
      lastMessageAt := nowMs }
  let (message, transitions) ← enterSending message
  return (messageEffect message contact.installationId, .queued :: transitions)

def prepareExisting (message : ChatMessage) (manualRetry : Bool) :
    Call (MessageSendEffect × List MessageState) := do
  let conversation ← required
    (← query (·.conversation message.conversationId))
    "conversation does not exist"
  let contact ← deliveryContact conversation
  let (message, transitions) ← enterSending message
  if manualRetry && transitions.isEmpty && message.state ≠ .sending then
    Program.fail (.conflict "message retry did not enter sending state")
  return (messageEffect message contact.installationId, transitions)

def retryMessage (messageId : Uuid) (nowMs : Int) :
    Call (MessageSendEffect × List MessageState) := do
  let message ← outgoingRequired messageId "incoming message cannot be retried"
  if message.state ≠ .failed ∧ message.state ≠ .queued then
    Program.fail (.conflict "message is not eligible for manual retry")
  let message :=
    { message with
      state := .queued
      nextAttemptAt := nowMs
      ackDeadline := none
      lastTransportError := none }
  putMessage message
  let (effect, transitions) ← prepareExisting message true
  return (effect, .queued :: transitions)

def publishMessageTransitions
    (messageId : Uuid) (conversationId : InstallationId)
    (transitions : List MessageState) : Call Unit :=
  Program.forEach transitions fun state =>
    messageStateChanged messageId conversationId (some state)

def enqueueSend (operationId descriptor : String) (effect : MessageSendEffect)
    (transitions : List MessageState) (nowMs : Int) : Call Unit := do
  beginMessageDelivery operationId effect.messageId descriptor nowMs
  write (Database.enqueueOutboundDelivery effect.messageId
    effect.recipientInstallationId (nowMs.tdiv 1000))
  publishMessageTransitions effect.messageId effect.conversationId transitions

def featureQueueMessageDelivery
    (operationId descriptor : String) (conversationId : InstallationId)
    (text : String) (replyToMessageId : Option Uuid) (nowMs : Int) :
    Call MessageSendEffect := do
  let (effect, transitions) ←
    queueMessage conversationId text replyToMessageId nowMs
  enqueueSend operationId descriptor effect transitions nowMs
  changed "conversations"
  return effect

def featureRetryMessage (operationId descriptor : String) (messageId : Uuid)
    (nowMs : Int) : Call MessageSendEffect := do
  let (effect, transitions) ← retryMessage messageId nowMs
  enqueueSend operationId descriptor effect transitions nowMs
  return effect

/-- All pending messages are prepared before the first is recorded. -/
def preparePending :
    List ChatMessage →
    Call (List (MessageSendEffect × List MessageState))
  | [] => Program.pure []
  | message :: rest => do
      let prepared ← prepareExisting message false
      return prepared :: (← preparePending rest)

def deliveryId (messageId : Uuid) : String :=
  "message-delivery:" ++ messageId.text

def deliveryCommand (messageId : Uuid) : String :=
  "message_delivery:" ++ messageId.text

def featurePreparePendingMessageDeliveries (nowMs : Int) :
    Call (List MessageSendEffect) := do
  let now ← unixepochMs
  let messages ← query (Database.pendingMessages now)
  let pending ← preparePending (messages.filter ChatMessage.outgoing)
  Program.forEach pending fun (effect, transitions) =>
    enqueueSend (deliveryId effect.messageId)
      (deliveryCommand effect.messageId) effect transitions nowMs
  return pending.map Prod.fst

def prepareMessageSend (messageId : Uuid) : Call MessageSendEffect := do
  let message ← outgoingRequired messageId "incoming message cannot be sent"
  let (effect, transitions) ← prepareExisting message false
  publishMessageTransitions messageId effect.conversationId transitions
  return effect

def prepareMessageSends : List Uuid → Call (List MessageSendEffect)
  | [] => Program.pure []
  | messageId :: rest => do
      let effect ← prepareMessageSend messageId
      return effect :: (← prepareMessageSends rest)

def preparePendingSendEffects : Call
      (List MessageSendEffect × List PairingSendEffect) := do
  let now ← unixepochMs
  let messages ← query (Database.pendingMessages now)
  let sends ← prepareMessageSends
    ((messages.filter ChatMessage.outgoing).map ChatMessage.id)
  let pairings ← featurePendingPairingSendEffects (← nowSecs)
  return (sends, pairings)

def applyOutcome (messageId : Uuid) (outcome : MessageTransportOutcome)
    (retryAt : Option Int) (errorDetail : Option String) :
    Call (ChatMessage × Bool) := do
  let message ← outgoingRequired messageId
    "incoming message state is owned by receive_message"
  match messageStateAfterTransportOutcome message.state outcome with
  | none =>
    Program.fail (.conflict
      "transport outcome is invalid for the current message state")
  | some state =>
    if state = message.state then return (message, false)
    let message := message.settled state retryAt errorDetail
    putMessage message
    return (message, true)

def featureApplyMessageDeliveryOutcome (messageId : Uuid)
    (outcome : MessageTransportOutcome) (retryAt : Option Int)
    (errorDetail : Option String) (nowMs : Int) : Call Unit := do
  match outcome with
  | .peerUnavailable | .retryableFailure => do
      write (Database.requeueOutboundDelivery messageId (retryAt.getD nowMs)
        (errorDetail.getD "retry"))
      retryMessageDelivery messageId (retryAt.getD nowMs) .transportUnavailable
        nowMs
  | .permanentFailure | .peerAuthenticationFailed | .peerRejected => do
      write (Database.completeOutboundDelivery messageId)
      failMessageDelivery messageId (outcomeErrorCode outcome) nowMs
  | .delivered | .peerPersisted | .peerDelivered => do
      write (Database.completeOutboundDelivery messageId)
      completeMessageDelivery messageId nowMs
  let (message, moved) ← applyOutcome messageId outcome retryAt errorDetail
  if moved then
    messageStateChanged message.id message.conversationId (some message.state)

def featureDeleteMessageDelivery (messageId : Uuid) (nowMs : Int) :
    Call Unit := do
  let message ← messageRequired messageId
  write (Database.deleteMessage messageId)
  updateMessageDelivery messageId (.finish .cancelled none nowMs)
  write (Database.completeOutboundDelivery messageId)
  messageStateChanged messageId message.conversationId none

def applyMessageRead (messageId : Uuid) : Call Unit := do
  let message ← outgoingRequired messageId
    "incoming message cannot receive a read receipt"
  if message.state = .read then return
  if message.state ≠ .sent ∧ message.state ≠ .delivered then
    Program.fail (.conflict "message is not eligible for a read receipt")
  putMessage { message with state := .read }
  messageStateChanged messageId message.conversationId (some .read)

def applyMessageTransportOutcome
    (messageId : Uuid) (outcome : MessageTransportOutcome) : Call Unit := do
  let message ← outgoingRequired messageId
    "incoming message state is owned by receive_message"
  match messageStateAfterTransportOutcome message.state outcome with
  | none =>
    Program.fail (.conflict
      "transport outcome is invalid for the current message state")
  | some state =>
    if state = message.state then return
    putMessage { message with state := state }
    messageStateChanged messageId message.conversationId (some state)

def receiveMessageReply (conversationId : InstallationId) (body : String)
    (messageId : Uuid) (reply : Option MessageReply) : Call Unit := do
  requireText body "message body must not be empty"
  let body := trim body
  match ← query (·.message messageId) with
  | some existing =>
    if existing.outgoing then
      Program.fail
        (.conflict "incoming message id collides with outgoing message")
    if existing.conversationId ≠ conversationId ∨ existing.body ≠ body then
      Program.fail (.conflict "incoming message id has different content")
  | none =>
    let existing ← query (·.conversation conversationId)
    let session ← Program.read Runtime.session
    let selected := session.conversationIsAttended conversationId
    let createdAt ← nowMs
    let unreadCount :=
      if selected then 0
      else existing.elim 0 ConversationSummary.unreadCount + 1
    putMessage
      { id := messageId
        conversationId := conversationId
        outgoing := false
        body := body
        replyTo := reply
        state := .delivered
        createdAt := createdAt
        attemptCount := 0
        lastAttemptAt := none
        nextAttemptAt := 0
        ackDeadline := none
        lastTransportError := none }
    putConversation
      { id := conversationId
        status := .active
        lastMessagePreview := body
        lastMessageAt := createdAt
        unreadCount := unreadCount }
    pushEvent (.messageReceived (some messageId) (some conversationId)
      (some body))
    messageStateChanged messageId conversationId (some .delivered)
    pushEvent (.conversationReadChanged (some conversationId)
      (some unreadCount))
    changed "conversations"

def validateReceiptEffect (effect : Database.ReceiptSendEffect) :
    RuntimeResult Database.ReceiptSendEffect :=
  if trim effect.conversationId = "" ∨
      trim effect.recipientInstallationId = "" then
    .error (.storage "durable receipt contains an empty identity")
  else if effect.receivedAt < 0 then
    .error (.storage "durable receipt timestamp must not be negative")
  else
    .ok effect

def preparePendingReceiptEffects : Call (List Database.ReceiptSendEffect) := do
  let now ← unixepochMs
  Program.ofExcept
    ((← query (Database.pendingReceipts now)).mapM validateReceiptEffect)

end Runtime

end Torchat
