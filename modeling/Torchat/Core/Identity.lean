import Torchat.Domain.Vocabulary
import Torchat.Foundation.Program
import Torchat.Relay.Protocol

namespace Torchat.Core

def protocolVersion : UInt16 := 1

def utf8 (text : String) : Bytes := text.toByteArray.data.toList

theorem utf8_injective : Function.Injective utf8 := by
  intro left right equal
  apply String.toByteArray_inj.mp
  exact ByteArray.ext (Array.toList_inj.mp equal)

def toArray? (size : Nat) (bytes : Bytes) : Option (Vector UInt8 size) :=
  if fits : bytes.length = size then some ⟨bytes.toArray, by simpa using fits⟩
  else none

theorem toArray?_toList (array : Vector UInt8 size) :
    toArray? size array.toList = some array := by
  obtain ⟨data, sized⟩ := array
  simp [toArray?, Vector.toList, sized]

/-- Third-party algorithms as parameters: SHA-256, unpadded URL-safe base64,
ed25519 and HMAC-SHA-256. -/
structure Crypto where
  SigningKey : Type
  sha256 : Bytes → Key32
  encode64 : Bytes → String
  decode64 : String → Option Bytes
  verifyingKey : SigningKey → Key32
  sign : SigningKey → Bytes → Vector UInt8 64
  verify : Key32 → Bytes → Vector UInt8 64 → Bool
  hmac : Bytes → Bytes → Bytes

/-- A decoded value encodes back to what was decoded and the other way round,
and a signature verifies under its own key. -/
structure Crypto.Correct (crypto : Crypto) : Prop where
  decode_encode : ∀ bytes, crypto.decode64 (crypto.encode64 bytes) = some bytes
  encode_empty : crypto.encode64 [] = ""
  verify_sign : ∀ key message,
    crypto.verify (crypto.verifyingKey key) message (crypto.sign key message) =
      true

/-- Among these messages a signature verifies for the one it was made for. -/
def Crypto.Unforgeable (crypto : Crypto) (messages : Set Bytes) : Prop :=
  ∀ key, ∀ signed ∈ messages, ∀ message ∈ messages,
    crypto.verify (crypto.verifyingKey key) message (crypto.sign key signed) =
      true →
    message = signed

def padded (size : Nat) (bytes : Bytes) : Vector UInt8 size :=
  Vector.ofFn fun place => bytes.getD place 0

def Crypto.plain : Crypto where
  SigningKey := Unit
  sha256 := padded 32
  encode64 bytes := String.ofList (bytes.map fun byte => Char.ofNat byte.toNat)
  decode64 text := some (text.toList.map fun character =>
    UInt8.ofNat character.toNat)
  verifyingKey _ := Vector.replicate 32 0
  sign _ message := padded 64 message
  verify _ message signature := signature = padded 64 message
  hmac secret message := secret ++ message

theorem Crypto.plain_correct : Crypto.plain.Correct where
  decode_encode := by
    have byte : ∀ byte : UInt8,
        UInt8.ofNat (Char.ofNat byte.toNat).toNat = byte := by
      intro byte
      have small := byte.toNat_lt
      have valid : byte.toNat.isValidChar := .inl (by omega)
      have same : (Char.ofNat byte.toNat).toNat = byte.toNat := by
        rw [Char.ofNat, dif_pos valid]
        rfl
      rw [same, UInt8.ofNat_toNat]
    intro bytes
    simp [Crypto.plain, Function.comp_def, byte]
  encode_empty := rfl
  verify_sign := by simp [Crypto.plain]

/-- The check that a source returns `Err` from. -/
def refuseIf (bad : Prop) [Decidable bad] (message : String) :
    Except String Unit :=
  if bad then .error message else .ok ()

@[simp] theorem refuseIf_bind_eq_ok [Decidable bad] :
    (refuseIf bad message >>= next) = .ok result ↔
      ¬ bad ∧ next () = .ok result := by
  unfold refuseIf
  split
  · rename_i holds
    constructor
    · intro failed
      cases failed
    · intro passed
      exact absurd holds passed.1
  · rename_i fails
    exact ⟨fun passed => ⟨fails, passed⟩, fun passed => passed.2⟩

@[simp] theorem refuseIf_eq_ok
    [Decidable bad] : refuseIf bad message = .ok result ↔ ¬ bad := by
  unfold refuseIf
  split <;> simp_all

def required (value : Option α) (message : String) : Except String α :=
  match value with
  | some value => .ok value
  | none => .error message

@[simp] theorem required_bind_eq_ok :
    (required value message >>= next) = .ok result ↔
      ∃ found, value = some found ∧ next found = .ok result := by
  cases value with
  | none | some => simp [required, bind, Except.bind]

section Identity

variable (crypto : Crypto)

def publicKey (identity : crypto.SigningKey) : String :=
  crypto.encode64 (crypto.verifyingKey identity).toList

def installationIdFromPublicKey (key : Key32) : String :=
  crypto.encode64 (crypto.sha256 key.toList).toList

def installationId (identity : crypto.SigningKey) : String :=
  installationIdFromPublicKey crypto (crypto.verifyingKey identity)

def hexByte (byte : UInt8) : List Char :=
  [Nat.digitChar (byte.toNat / 16), Nat.digitChar (byte.toNat % 16)]

def fingerprintFromPublicKey (key : Key32) : String :=
  let digest := (crypto.sha256 key.toList).toList.take 16
  let group := fun place =>
    String.ofList (((digest.drop (2 * place)).take 2).flatMap hexByte)
  " ".intercalate ((List.range 8).map group)

def fingerprint (identity : crypto.SigningKey) : String :=
  fingerprintFromPublicKey crypto (crypto.verifyingKey identity)

def sign (identity : crypto.SigningKey) (message : Bytes) : String :=
  crypto.encode64 (crypto.sign identity message).toList

def verifySignature (publicKey : String) (message : Bytes) (signature : String) :
    Bool :=
  match (crypto.decode64 publicKey).bind (toArray? 32),
    (crypto.decode64 signature).bind (toArray? 64) with
  | some key, some signature => crypto.verify key message signature
  | _, _ => false

variable {crypto}

theorem verifySignature_own (correct : crypto.Correct)
    (identity : crypto.SigningKey) (message signed : Bytes) :
    verifySignature crypto (publicKey crypto identity) message
        (sign crypto identity signed) =
      crypto.verify (crypto.verifyingKey identity) message
        (crypto.sign identity signed) := by
  simp [verifySignature, publicKey, sign, correct.decode_encode,
    toArray?_toList]

end Identity

def isValidOnionAddress (value : String) : Bool :=
  let value := (trim value).toList.map Char.toLower
  let suffix := ".onion".toList
  suffix.isSuffixOf value &&
    let host := value.take (value.length - suffix.length)
    (host.map Char.utf8Size).sum = 56 &&
      host.all fun character =>
        character.isLower || ('2' ≤ character && character ≤ '7')

end Torchat.Core
