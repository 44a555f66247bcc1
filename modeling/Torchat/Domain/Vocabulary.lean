import Mathlib.Data.List.DropRight
import Mathlib.Data.String.Basic

namespace Torchat

inductive RuntimeError
  | invalidCommand (message : String)
  | invalidParams (message : String)
  | notFound (message : String)
  | conflict (message : String)
  | timeout (message : String)
  | transport (message : String)
  | storage (message : String)
  | crypto (message : String)
  | unavailable (message : String)
  deriving DecidableEq

abbrev RuntimeResult := Except RuntimeError

def RuntimeError.message : RuntimeError → String
  | .invalidCommand message => message
  | .invalidParams message => message
  | .notFound message => message
  | .conflict message => message
  | .timeout message => message
  | .transport message => message
  | .storage message => message
  | .crypto message => message
  | .unavailable message => message

inductive EngineError
  | closed (message : String)
  | invalidConfig (message : String)
  | invalidCommand (message : String)
  | unsupported (message : String)
  | serialization (message : String)
  | storage (message : String)
  | transport (message : String)
  deriving DecidableEq

abbrev EngineResult := Except EngineError

/-- `runtime_error`: only storage failures keep their kind. -/
def EngineError.ofRuntime : RuntimeError → EngineError
  | .storage message => .storage message
  | other => .invalidCommand other.message

inductive InviteState
  | pending
  | accepted
  | rejected
  | completed
  | expired
  | archived
  | cancelled
  deriving DecidableEq

namespace InviteState

def isPending (state : InviteState) : Bool := state = pending

def isAccepted (state : InviteState) : Bool := state = accepted

def isOutstanding (state : InviteState) : Bool :=
  state.isPending || state.isAccepted

@[simp] theorem isOutstanding_archived : archived.isOutstanding = false := rfl

@[simp] theorem isOutstanding_cancelled : cancelled.isOutstanding = false := rfl

def canArchive : InviteState → Bool
  | accepted | rejected | completed | expired | cancelled => true
  | pending | archived => false

end InviteState

inductive PairingAction
  | accept
  | reject
  | complete
  | expire
  | archive
  | cancel

inductive PairingAvailableAction
  | accept
  | reject
  | archive
  | cancel
  deriving DecidableEq

inductive PairingPeerOutcome
  | offerReceived
  | rejectionReceived
  | welcomePrepared

inductive PairingSendKind
  | offer
  | rejection

inductive VerificationState
  | verified
  | unverified
  deriving DecidableEq

inductive ConversationState
  | pending
  | verifying
  | active
  | offline
  | failed
  deriving DecidableEq

def ConversationState.canSend : ConversationState → Bool
  | active | offline => true
  | pending | verifying | failed => false

inductive MessageState
  | queued
  | sending
  | sent
  | delivered
  | read
  | failed
  deriving DecidableEq

inductive MessageTransportOutcome
  | delivered
  | peerPersisted
  | peerDelivered
  | peerUnavailable
  | peerAuthenticationFailed
  | peerRejected
  | retryableFailure
  | permanentFailure

def pairingAvailableActions
    (state : InviteState) (received : Bool) : List PairingAvailableAction :=
  if state = .archived then []
  else if received && state = .pending then [.accept, .reject]
  else if !received && (state = .pending || state = .accepted) then [.cancel]
  else if state.canArchive then [.archive]
  else []

abbrev InstallationId := String

/-- The digest is the URL-safe text of a SHA-256 value. -/
def pairingPairKey
    (digest : String → String) (left right : InstallationId) : String :=
  let (first, second) := if left ≤ right then (left, right) else (right, left)
  digest (first ++ ":" ++ second)

/-- One policy is left. -/
inductive ContactTransportPolicy
  | peerOnly
  deriving DecidableEq

structure ContactRecord where
  installationId : InstallationId
  nickname : String
  publicKey : String
  fingerprint : String
  localAlias : Option String := none
  muted : Bool := false
  blocked : Bool := false
  verification : VerificationState := .unverified
  transportPolicy : ContactTransportPolicy := .peerOnly
  deriving DecidableEq

structure PairingItem where
  pairingId : String
  pairKey : Option String
  sender : Option ContactRecord
  capability : Option String
  expiresAt : Int
  state : InviteState
  received : Bool
  availableActions : List PairingAvailableAction
  offerInviteId : Option String
  offerPayload : Option String
  deriving DecidableEq

/-- The Unicode property `White_Space`, by which `str::trim` goes. -/
def isWhiteSpace (character : Char) : Bool :=
  let code := character.toNat
  (0x09 ≤ code && code ≤ 0x0d) || code = 0x20 || code = 0x85 || code = 0xa0 ||
    code = 0x1680 || (0x2000 ≤ code && code ≤ 0x200a) || code = 0x2028 ||
    code = 0x2029 || code = 0x202f || code = 0x205f || code = 0x3000

def trim (text : String) : String :=
  String.ofList
    ((text.toList.dropWhile isWhiteSpace).reverse.dropWhile
      isWhiteSpace).reverse

theorem isWhiteSpace_of_letter (low : 65 ≤ character.toNat)
    (high : character.toNat ≤ 122) : isWhiteSpace character = false := by
  unfold isWhiteSpace
  simp
  omega

theorem toNat_toLower_of_upper {character : Char}
    (upper : 'A'.val ≤ character.val ∧ character.val ≤ 'Z'.val) :
    character.toLower.toNat = character.toNat + 32 := by
  have high : character.toNat ≤ 90 := upper.2
  have lowered : character.toLower = ⟨character.val + 32, _⟩ :=
    dif_pos ⟨upper.1, upper.2⟩
  rw [lowered]
  change (character.val + 32).toNat = character.toNat + 32
  change (character.toNat + 32) % 2 ^ 32 = character.toNat + 32
  omega

theorem isWhiteSpace_toLower (character : Char) :
    isWhiteSpace character.toLower = isWhiteSpace character := by
  by_cases upper : 'A'.val ≤ character.val ∧ character.val ≤ 'Z'.val
  · have low : 65 ≤ character.toNat := upper.1
    have high : character.toNat ≤ 90 := upper.2
    have lowered := toNat_toLower_of_upper upper
    rw [isWhiteSpace_of_letter low (by omega),
      isWhiteSpace_of_letter (by omega) (by omega)]
  · have same : character.toLower = character := dif_neg upper
    rw [same]

theorem toLower_toLower (character : Char) :
    character.toLower.toLower = character.toLower := by
  by_cases upper : 'A'.val ≤ character.val ∧ character.val ≤ 'Z'.val
  · have low : 65 ≤ character.toNat := upper.1
    have lowered := toNat_toLower_of_upper upper
    refine dif_neg fun again => ?_
    have high : character.toLower.toNat ≤ 90 := again.2
    omega
  · have same : character.toLower = character := dif_neg upper
    rw [same, same]

theorem map_toLower_map_toLower (text : String) :
    (text.map Char.toLower).map Char.toLower = text.map Char.toLower := by
  apply String.toList_injective
  simp only [String.toList_map, List.map_map, Function.comp_def,
    toLower_toLower]

theorem trim_toList (text : String) :
    (trim text).toList =
      (text.toList.dropWhile isWhiteSpace).rdropWhile isWhiteSpace := by
  simp [trim, List.rdropWhile]

theorem trim_ne_empty (starts : text.toList = first :: rest)
    (shown : isWhiteSpace first = false) : trim text ≠ "" := by
  intro blank
  have empty := trim_toList text
  rw [blank, starts, List.dropWhile_cons_of_neg (by simp [shown])] at empty
  have white := List.rdropWhile_eq_nil_iff.mp empty.symm first (.head _)
  rw [shown] at white
  cases white

theorem trim_trim (text : String) : trim (trim text) = trim text := by
  apply String.toList_injective
  simp only [trim_toList]
  have front : ((text.toList.dropWhile isWhiteSpace).rdropWhile
      isWhiteSpace).dropWhile isWhiteSpace =
      (text.toList.dropWhile isWhiteSpace).rdropWhile isWhiteSpace := by
    obtain ⟨rest, parts⟩ := List.rdropWhile_prefix isWhiteSpace
      (text.toList.dropWhile isWhiteSpace)
    have first := List.dropWhile_idempotent isWhiteSpace text.toList
    rw [← parts] at first
    generalize (text.toList.dropWhile isWhiteSpace).rdropWhile
      isWhiteSpace = kept at first
    cases kept with
    | nil => rfl
    | cons head tail =>
      rw [List.dropWhile_eq_self_iff] at first ⊢
      exact fun _ => first (by simp)
  rw [front, List.rdropWhile_idempotent]

theorem trim_map_toLower (text : String) :
    trim (text.map Char.toLower) = (trim text).map Char.toLower := by
  have same : isWhiteSpace ∘ Char.toLower = isWhiteSpace :=
    funext isWhiteSpace_toLower
  apply String.toList_injective
  simp only [trim_toList, String.toList_map, List.rdropWhile,
    List.dropWhile_map, same, ← List.map_reverse]

def fallbackContactNickname (installationId : InstallationId) : String :=
  let trimmed := trim installationId
  if "peer-".toList.isPrefixOf trimmed.toList ∧ 2 ≤ trimmed.toList.length then
    String.ofList (trimmed.toList.take 32)
  else
    "peer-" ++ String.ofList (installationId.toList.take 8)

def normalizedContactNickname
    (installationId : InstallationId) (nickname : String) : String :=
  let trimmed := trim nickname
  if 2 ≤ trimmed.toList.length then String.ofList (trimmed.toList.take 32)
  else fallbackContactNickname installationId

end Torchat
