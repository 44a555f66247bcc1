import Mathlib.Algebra.Group.Nat.Defs
import Mathlib.Data.List.Basic
import Mathlib.Data.Nat.Basic
import Mathlib.Data.Set.Basic

namespace Foundation

/-- The low bytes of a number, most significant byte first. -/
def bigEndian : Nat → Nat → List UInt8
  | 0, _ => []
  | width + 1, number => bigEndian width (number / 256) ++ [UInt8.ofNat number]

@[simp] theorem length_bigEndian (width number : Nat) :
    (bigEndian width number).length = width := by
  induction width generalizing number with
  | zero => rfl
  | succ width induction => simp [bigEndian, induction]

theorem bigEndian_eq_iff (width left right : Nat) :
    bigEndian width left = bigEndian width right ↔
      left % 256 ^ width = right % 256 ^ width := by
  induction width generalizing left right with
  | zero => simp [bigEndian, Nat.mod_one]
  | succ width induction =>
    have byte : ∀ number : Nat, (UInt8.ofNat number).toNat = number % 256 :=
      fun number => UInt8.toNat_ofNat'
    have parts : ∀ number, number % 256 ^ (width + 1) =
        256 * (number / 256 % 256 ^ width) + number % 256 := by
      intro number
      rw [Nat.pow_succ, Nat.mul_comm (256 ^ width) 256, Nat.mod_mul]
      omega
    rw [parts left, parts right]
    constructor
    · intro equal
      have split := List.append_inj' equal rfl
      have high := (induction _ _).mp split.1
      have low := congrArg UInt8.toNat (List.singleton_inj.mp split.2)
      rw [byte, byte] at low
      rw [high, low]
    · intro equal
      have low : left % 256 = right % 256 := by omega
      have high : left / 256 % 256 ^ width = right / 256 % 256 ^ width := by
        omega
      have last : UInt8.ofNat left = UInt8.ofNat right := by
        apply UInt8.toNat_inj.mp
        rw [byte, byte, low]
      simp only [bigEndian]
      rw [(induction _ _).mpr high, last]

theorem bigEndian_inj (leftFits : left < 256 ^ width)
    (rightFits : right < 256 ^ width)
    (equal : bigEndian width left = bigEndian width right) : left = right := by
  rw [bigEndian_eq_iff, Nat.mod_eq_of_lt leftFits,
    Nat.mod_eq_of_lt rightFits] at equal
  exact equal

/-- An encoding whose end can be found: of two encoded values followed by
anything, equal bytes mean equal values followed by the same. -/
def SelfDelimiting (encode : α → List β) (valid : Set α) : Prop :=
  ∀ left ∈ valid, ∀ right ∈ valid, ∀ leftRest rightRest : List β,
    encode left ++ leftRest = encode right ++ rightRest →
    left = right ∧ leftRest = rightRest

namespace SelfDelimiting

variable {encode : α → List β}

theorem of_fixed_length (length : ∀ value, (encode value).length = width)
    (injective : Set.InjOn encode valid) : SelfDelimiting encode valid := by
  intro left leftValid right rightValid leftRest rightRest equal
  have split := List.append_inj equal ((length left).trans (length right).symm)
  exact ⟨injective leftValid rightValid split.1, split.2⟩

theorem comap (delimits : SelfDelimiting encode valid)
    (injective : Function.Injective embed) :
    SelfDelimiting (fun value => encode (embed value))
      (Set.preimage embed valid) := by
  intro left leftValid right rightValid leftRest rightRest equal
  obtain ⟨same, rest⟩ := delimits _ leftValid _ rightValid _ _ equal
  exact ⟨injective same, rest⟩

theorem flatMap (delimits : SelfDelimiting encode valid) {left right : List α}
    (leftValid : ∀ value ∈ left, value ∈ valid)
    (rightValid : ∀ value ∈ right, value ∈ valid)
    (sameLength : left.length = right.length)
    (equal : left.flatMap encode ++ leftRest =
      right.flatMap encode ++ rightRest) :
    left = right ∧ leftRest = rightRest := by
  induction left generalizing right with
  | nil =>
    cases right with
    | nil => exact ⟨rfl, equal⟩
    | cons head tail => cases sameLength
  | cons head tail induction =>
    cases right with
    | nil => cases sameLength
    | cons other others =>
      simp only [List.flatMap_cons, List.append_assoc] at equal
      obtain ⟨rfl, later⟩ := delimits head (leftValid head (.head tail))
        other (rightValid other (.head others)) _ _ equal
      obtain ⟨rfl, sameRest⟩ := induction
        (fun value member => leftValid value (.tail head member))
        (fun value member => rightValid value (.tail head member))
        (Nat.succ.inj sameLength) later
      exact ⟨rfl, sameRest⟩

end SelfDelimiting

theorem bigEndian_selfDelimiting (width : Nat) :
    SelfDelimiting (bigEndian width) {number | number < 256 ^ width} :=
  .of_fixed_length (length_bigEndian width)
    fun _ leftFits _ rightFits => bigEndian_inj leftFits rightFits

/-- Bytes after their number, of which only the low bytes are written. -/
def lengthPrefixed (width : Nat) (bytes : List UInt8) : List UInt8 :=
  bigEndian width bytes.length ++ bytes

theorem lengthPrefixed_selfDelimiting (width : Nat) :
    SelfDelimiting (lengthPrefixed width)
      {bytes | bytes.length < 256 ^ width} := by
  intro left leftFits right rightFits leftRest rightRest equal
  simp only [lengthPrefixed, List.append_assoc] at equal
  obtain ⟨sameLength, rest⟩ := bigEndian_selfDelimiting width _ leftFits _
    rightFits _ _ equal
  exact List.append_inj rest sameLength

def counted (width : Nat) (encode : α → List UInt8) (values : List α) :
    List UInt8 :=
  bigEndian width values.length ++ values.flatMap encode

theorem counted_selfDelimiting (width : Nat)
    (delimits : SelfDelimiting encode valid) :
    SelfDelimiting (counted width encode)
      {values | values.length < 256 ^ width ∧ ∀ value ∈ values, value ∈ valid} := by
  intro left leftFits right rightFits leftRest rightRest equal
  simp only [counted, List.append_assoc] at equal
  obtain ⟨sameLength, rest⟩ := bigEndian_selfDelimiting width _ leftFits.1 _
    rightFits.1 _ _ equal
  exact delimits.flatMap leftFits.2 rightFits.2 sameLength rest

def optional (encode : α → List UInt8) : Option α → List UInt8
  | some value => 1 :: encode value
  | none => [0]

theorem optional_selfDelimiting (delimits : SelfDelimiting encode valid) :
    SelfDelimiting (optional encode)
      {value | ∀ held, value = some held → held ∈ valid} := by
  intro left leftValid right rightValid leftRest rightRest equal
  cases left with
  | none =>
    cases right with
    | none => exact ⟨rfl, (List.cons.inj equal).2⟩
    | some held => cases (List.cons.inj equal).1
  | some held =>
    cases right with
    | none => cases (List.cons.inj equal).1
    | some other =>
      obtain ⟨rfl, rest⟩ := delimits held (leftValid held rfl) other
        (rightValid other rfl) _ _ (List.cons.inj equal).2
      exact ⟨rfl, rest⟩

def unary (number : Nat) : List UInt8 := List.replicate number 1 ++ [0]

theorem unary_selfDelimiting : SelfDelimiting unary Set.univ := by
  intro left _ right _ leftRest rightRest equal
  induction left generalizing right with
  | zero =>
    cases right with
    | zero => exact ⟨rfl, (List.cons.inj equal).2⟩
    | succ right => cases (List.cons.inj equal).1
  | succ left induction =>
    cases right with
    | zero => cases (List.cons.inj equal).1
    | succ right =>
      obtain ⟨rfl, rest⟩ := induction trivial right trivial
        (List.cons.inj equal).2
      exact ⟨rfl, rest⟩

def unaryPrefixed (bytes : List UInt8) : List UInt8 :=
  unary bytes.length ++ bytes

theorem unaryPrefixed_selfDelimiting :
    SelfDelimiting unaryPrefixed Set.univ := by
  intro left _ right _ leftRest rightRest equal
  simp only [unaryPrefixed, List.append_assoc] at equal
  obtain ⟨sameLength, rest⟩ := unary_selfDelimiting _ trivial _ trivial _ _ equal
  exact List.append_inj rest sameLength

theorem append_cons_inj_of_last (leftLast : separator ∉ leftEnd)
    (rightLast : separator ∉ rightEnd)
    (equal : leftFront ++ separator :: leftEnd =
      rightFront ++ separator :: rightEnd) :
    leftFront = rightFront ∧ leftEnd = rightEnd := by
  rcases List.append_eq_append_iff.mp equal with
    ⟨between, front, ends⟩ | ⟨between, front, ends⟩
  all_goals
    cases between with
    | nil => simp_all
    | cons first others =>
      obtain ⟨-, rest⟩ := List.cons.inj ends
      simp_all

end Foundation
