import Mathlib.Data.List.Dedup
import Mathlib.Data.List.Sort
import Torchat.Relay.Protocol
import Torchat.Domain.Vocabulary

namespace Torchat

def protocolVersion : Nat := 1

inductive RuntimeStatusPhase
  | starting
  | bootstrapping
  | connecting
  | degraded
  | connected
  | reconnecting
  | offline
  | error
  deriving DecidableEq

structure RuntimeTorStatus where
  phase : RuntimeStatusPhase
  label : String
  detail : String
  progress : Option Int
  latencyMs : Option Nat
  retryAttempt : Nat
  deriving DecidableEq

inductive PeerEndpointStatus
  | missing
  | pendingExchange
  | verified
  | invalid
  deriving DecidableEq

inductive CapabilityStatus
  | missing
  | pending
  | active
  | rotating
  | revoked
  | expired
  deriving DecidableEq

inductive PeerConnectionStatus
  | offline
  | connecting
  | authenticating
  | connected
  | backoff
  deriving DecidableEq

inductive RuntimeEvent
  | runtimeReady (protocol : Nat)
  | torStatus (status : RuntimeTorStatus)
  | transportStatusChanged (detail : String) (updatedAt : Int)
  | profileReady (installationId : InstallationId) (nickname : String)
  | inviteReceived (pairingId nickname : Option String)
  | inviteStateChanged (pairingId : Option String) (state : Option InviteState)
  | messageReceived
      (messageId : Option Uuid) (conversationId : Option InstallationId)
      (text : Option String)
  | messageStateChanged
      (messageId : Option Uuid) (conversationId : Option InstallationId)
      (state : Option MessageState)
  | conversationReadChanged
      (conversationId : Option InstallationId) (unreadCount : Option Nat)
  | typingChanged
      (conversationId : InstallationId) (typing : Bool) (expiresAt : Int)
  | conversationFocusChanged
      (conversationId : InstallationId) (focused : Bool) (expiresAt : Int)
  | presenceChanged
      (contactId : InstallationId) (online idle : Bool)
      (observedAt expiresAt : Int)
  | peerEndpointChanged (contactId : InstallationId) (status : PeerEndpointStatus)
  | peerConnectionChanged
      (contactId : InstallationId) (status : PeerConnectionStatus)
      (retryInMs : Option Nat)
  | contactCapabilityChanged
      (contactId : InstallationId) (capabilityId : String) (sequence : Nat)
      (status : CapabilityStatus)
  | changed (kind : Option String)
  | runtimeError (message : String)
  | runtimeLog (message : String)
  | projectionChanged
      (revision : Nat) (application : Bool)
      (conversationIds : List InstallationId)
  deriving DecidableEq

def RuntimeEvent.application : RuntimeEvent → Bool
  | .profileReady .. | .inviteReceived .. | .inviteStateChanged ..
  | .peerEndpointChanged .. | .peerConnectionChanged ..
  | .contactCapabilityChanged .. | .changed .. | .messageReceived ..
  | .messageStateChanged .. | .conversationReadChanged .. => true
  | .runtimeReady .. | .torStatus .. | .transportStatusChanged ..
  | .typingChanged .. | .conversationFocusChanged .. | .presenceChanged ..
  | .runtimeError .. | .runtimeLog .. | .projectionChanged .. => false

def RuntimeEvent.conversation : RuntimeEvent → Option InstallationId
  | .messageReceived _ conversationId _
  | .messageStateChanged _ conversationId _
  | .conversationReadChanged conversationId _ => conversationId
  | _ => none

structure RuntimeSession where
  selectedConversationId : Option InstallationId := none
  focusedConversationId : Option InstallationId := none
  appForeground : Bool := false
  events : List RuntimeEvent := []
  stagedEvents : List RuntimeEvent := []
  bootstrapEmitted : Bool := false
  lastTorStatus : Option RuntimeTorStatus := none
  lastRuntimeError : Option String := none
  transactionDepth : Nat := 0

namespace RuntimeSession

def default : RuntimeSession := {}

def new : RuntimeSession := { appForeground := true }

def selectConversation (conversationId : InstallationId)
    (session : RuntimeSession) : RuntimeSession :=
  { session with
    selectedConversationId := some conversationId
    focusedConversationId := none }

def clearSelectedConversation (session : RuntimeSession) : RuntimeSession :=
  { session with
    selectedConversationId := none
    focusedConversationId := none }

def setAppForeground
    (foreground : Bool) (session : RuntimeSession) : RuntimeSession :=
  { session with
    appForeground := foreground
    focusedConversationId :=
      if foreground then session.focusedConversationId else none }

def setConversationFocus (conversationId : InstallationId) (focused : Bool)
    (session : RuntimeSession) : RuntimeSession :=
  if focused then
    { session with
      selectedConversationId := some conversationId
      focusedConversationId := some conversationId }
  else if session.focusedConversationId = some conversationId then
    { session with focusedConversationId := none }
  else
    session

def conversationIsAttended
    (session : RuntimeSession) (conversationId : InstallationId) : Bool :=
  session.appForeground &&
    session.selectedConversationId = some conversationId &&
    session.focusedConversationId = some conversationId

/-- The depth is a `usize`; its saturation at the top is left out. -/
def beginTransaction (session : RuntimeSession) : RuntimeSession :=
  { session with transactionDepth := session.transactionDepth + 1 }

def commitTransaction (session : RuntimeSession) : RuntimeSession :=
  match session.transactionDepth with
  | 0 => session
  | 1 =>
    { session with
      transactionDepth := 0
      events := session.events ++ session.stagedEvents
      stagedEvents := [] }
  | depth + 1 => { session with transactionDepth := depth }

def rollbackTransaction (session : RuntimeSession) : RuntimeSession :=
  match session.transactionDepth with
  | 0 => session
  | 1 => { session with transactionDepth := 0, stagedEvents := [] }
  | depth + 1 => { session with transactionDepth := depth }

def pushEvent (event : RuntimeEvent) (session : RuntimeSession) :
    RuntimeSession :=
  if 0 < session.transactionDepth then
    { session with stagedEvents := session.stagedEvents ++ [event] }
  else
    { session with events := session.events ++ [event] }

def clearRuntimeErrorDedup (session : RuntimeSession) : RuntimeSession :=
  { session with lastRuntimeError := none }

def publishTorStatus (status : RuntimeTorStatus) (session : RuntimeSession) :
    RuntimeSession :=
  if session.lastTorStatus = some status then session
  else
    let session := { session with lastTorStatus := some status }
    let session :=
      if status.phase = .connected then session.clearRuntimeErrorDedup
      else session
    session.pushEvent (.torStatus status)

def drainEvents (session : RuntimeSession) :
    List RuntimeEvent × RuntimeSession :=
  (session.events, { session with events := [] })

def pendingEvents (session : RuntimeSession) : List RuntimeEvent :=
  session.events ++ session.stagedEvents

/-- Whether the transaction shows in a projection, and the conversations whose
projections it changes, in order. -/
def pendingProjectionChanges (session : RuntimeSession) :
    Bool × List InstallationId :=
  (session.pendingEvents.any RuntimeEvent.application,
    (session.pendingEvents.filterMap
      RuntimeEvent.conversation).dedup.insertionSort (· ≤ ·))

end RuntimeSession

end Torchat
