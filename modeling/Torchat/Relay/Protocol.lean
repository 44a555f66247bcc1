import Mathlib.Data.Nat.Bitwise
import Mathlib.Data.Vector.Basic

namespace Torchat

abbrev Uuid := BitVec 128

def Uuid.digits (uuid : Uuid) : List Char :=
  (List.range 32).map fun place =>
    Nat.digitChar (uuid.toNat / 16 ^ (31 - place) % 16)

/-- The hyphenated text of an id, eight, four, four, four and twelve hexadecimal
digits. -/
def Uuid.text (uuid : Uuid) : String :=
  let part (first length : Nat) : List Char :=
    (uuid.digits.drop first).take length
  String.ofList (part 0 8 ++ '-' :: part 8 4 ++ '-' :: part 12 4 ++
    '-' :: part 16 4 ++ '-' :: part 20 12)

namespace Uuid

theorem digits_length (uuid : Uuid) : uuid.digits.length = 32 := by
  simp [digits]

theorem digitChar_inj :
    ∀ left < 16, ∀ right < 16,
      Nat.digitChar left = Nat.digitChar right → left = right := by
  decide

theorem digits_injective : Function.Injective digits := by
  intro left right same
  refine BitVec.eq_of_toNat_eq (Nat.eq_of_testBit_eq fun bit => ?_)
  by_cases inside : bit < 128
  · -- the bit is one of the four of its hexadecimal digit
    have digit := List.map_inj_left.mp same (31 - bit / 4)
      (List.mem_range.mpr (by omega))
    have value := digitChar_inj _ (Nat.mod_lt _ (by omega)) _
      (Nat.mod_lt _ (by omega)) digit
    have place : 31 - (31 - bit / 4) = bit / 4 := by omega
    have power : (16 : Nat) ^ (bit / 4) = 2 ^ (4 * (bit / 4)) := by
      rw [Nat.pow_mul]
    have quarter := congrArg (Nat.testBit · (bit % 4)) value
    rw [place, power, show (16 : Nat) = 2 ^ 4 from rfl] at quarter
    simp only [Nat.testBit_mod_two_pow, Nat.testBit_div_two_pow,
      Nat.mod_lt bit (show 4 > 0 by omega), decide_true, Bool.true_and,
      Nat.mod_add_div] at quarter
    exact quarter
  · have large : 2 ^ 128 ≤ 2 ^ bit := Nat.pow_le_pow_right (by omega) (by omega)
    rw [Nat.testBit_lt_two_pow (left.isLt.trans_le large),
      Nat.testBit_lt_two_pow (right.isLt.trans_le large)]

theorem eq_of_take_drop {left right : List Char}
    (first : (left.drop start).take length = (right.drop start).take length)
    (rest : left.drop (start + length) = right.drop (start + length)) :
    left.drop start = right.drop start := by
  rw [← List.take_append_drop length (left.drop start),
    ← List.take_append_drop length (right.drop start), List.drop_drop,
    List.drop_drop, first, rest]

theorem text_injective : Function.Injective text := by
  intro left right same
  have lists := String.ofList_injective same
  have part (uuid : Uuid) (first length : Nat) (inside : first + length ≤ 32) :
      ('-' :: (uuid.digits.drop first).take length).length = length + 1 := by
    rw [List.length_cons, List.length_take, List.length_drop, digits_length]
    omega
  have even (first length : Nat) (inside : first + length ≤ 32) :=
    (part left first length inside).trans (part right first length inside).symm
  obtain ⟨lists, fifth⟩ := List.append_inj' lists (even 20 12 (by omega))
  obtain ⟨lists, fourth⟩ := List.append_inj' lists (even 16 4 (by omega))
  obtain ⟨lists, third⟩ := List.append_inj' lists (even 12 4 (by omega))
  obtain ⟨first, second⟩ := List.append_inj' lists (even 8 4 (by omega))
  have ended : left.digits.drop 32 = right.digits.drop 32 := by
    rw [List.drop_of_length_le (digits_length left).le,
      List.drop_of_length_le (digits_length right).le]
  exact digits_injective (eq_of_take_drop first (eq_of_take_drop
    (List.cons.inj second).2 (eq_of_take_drop (List.cons.inj third).2
      (eq_of_take_drop (List.cons.inj fourth).2
        (eq_of_take_drop (List.cons.inj fifth).2 ended)))))

end Uuid

abbrev Bytes := List UInt8

abbrev Key32 := Vector UInt8 32

def maxPairingBlobBytes : Nat := 48 * 1024

inductive RendezvousClientFrame
  | createPairingSlot
      (requestId : Uuid) (rendezvousPublicKey : Key32)
      (requestedTtlSeconds : UInt16)
  | resolvePairingCode (requestId : Uuid) (displayCode : String)
  | beginPairing
      (requestId : Uuid) (pairingId : Uuid) (slotHandle : String)
      (joinerRendezvousPublicKey : Key32) (encryptedOffer : Bytes)
  | acceptPairing
      (pairingId : Uuid) (sideToken : String) (encryptedResponse : Bytes)
  | rejectPairing (pairingId : Uuid) (sideToken : String)
  | pairingCommitted (pairingId : Uuid) (sideToken : String)
  | pairingFinalized (pairingId : Uuid) (sideToken : String)
  | cancelPairing (pairingId : Uuid) (sideToken : String)
  | cancelPairingSlot (slotHandle : String) (slotCapability : String)
  | ping

inductive RendezvousServerFrame
  | pairingSlotCreated
      (requestId : Uuid) (slotHandle : String) (displayCode : String)
      (slotCapability : String) (expiresAtUnix : Int)
  | pairingSlotResolved
      (requestId : Uuid) (slotHandle : String)
      (ownerRendezvousPublicKey : Key32) (expiresAtUnix : Int)
  | pairingRequested
      (pairingId : Uuid) (slotHandle : String) (ownerSideToken : String)
      (joinerRendezvousPublicKey : Key32) (encryptedOffer : Bytes)
      (expiresAtUnix : Int)
  | pairingStarted
      (requestId : Uuid) (pairingId : Uuid) (joinerSideToken : String)
      (expiresAtUnix : Int)
  | pairingAccepted (pairingId : Uuid) (encryptedResponse : Bytes)
  | pairingRejected (pairingId : Uuid)
  | pairingCommitted (pairingId : Uuid)
  | pairingFinalized (pairingId : Uuid)
  | pairingCancelled (pairingId : Uuid)
  | error (requestId : Option Uuid) (code : String)
  | pong
  deriving DecidableEq

end Torchat
