import Mathlib.Data.List.Infix
import Torchat.Foundation.Encoding
import Torchat.Foundation.Program

namespace Foundation

/-- The number some bytes stand for, most significant byte first. -/
def ofBigEndian (bytes : List UInt8) : Nat :=
  bytes.foldl (fun number byte => number * 256 + byte.toNat) 0

theorem ofBigEndian_concat (bytes : List UInt8) (byte : UInt8) :
    ofBigEndian (bytes ++ [byte]) = ofBigEndian bytes * 256 + byte.toNat := by
  simp [ofBigEndian]

theorem ofBigEndian_bigEndian (width number : Nat) :
    ofBigEndian (bigEndian width number) = number % 256 ^ width := by
  induction width generalizing number with
  | zero => simp [bigEndian, ofBigEndian, Nat.mod_one]
  | succ width induction =>
    have byte : (UInt8.ofNat number).toNat = number % 256 :=
      UInt8.toNat_ofNat'
    rw [bigEndian, ofBigEndian_concat, induction, byte, Nat.pow_succ,
      Nat.mul_comm (256 ^ width) 256, Nat.mod_mul]
    omega

theorem ofBigEndian_bigEndian_of_lt (fits : number < 256 ^ width) :
    ofBigEndian (bigEndian width number) = number := by
  rw [ofBigEndian_bigEndian, Nat.mod_eq_of_lt fits]

theorem bigEndian_ofBigEndian (bytes : List UInt8) :
    bigEndian bytes.length (ofBigEndian bytes) = bytes := by
  induction bytes using List.reverseRecOn with
  | nil => rfl
  | append_singleton front byte induction =>
    have small := byte.toNat_lt
    have last : UInt8.ofNat (ofBigEndian front * 256 + byte.toNat) = byte := by
      apply UInt8.toNat_inj.mp
      rw [UInt8.toNat_ofNat']
      omega
    have front : (ofBigEndian front * 256 + byte.toNat) / 256 =
        ofBigEndian front := by omega
    rw [List.length_append, ofBigEndian_concat, List.length_singleton,
      bigEndian, last, front, induction]

/-- A program that takes bytes from the front of its input. -/
abbrev Reader (ε α : Type) := Program (List UInt8) ε α

namespace Reader

/-- These bytes, with anything behind them, are what the reader takes for the
value; with less it fails. -/
structure Takes (reader : Reader ε α) (value : α) (taken : List UInt8) :
    Prop where
  full : ∀ rest, reader (taken ++ rest) = (.ok value, rest)
  short : ∀ front, front <+: taken → front ≠ taken →
    ∃ error left, reader front = (.err error, left)

/-- A reader that looks at nothing but what it takes, and is never taken
down. -/
class Careful (reader : Reader ε α) : Prop where
  takes : ∀ {input value rest}, reader input = (.ok value, rest) →
    ∃ taken, input = taken ++ rest ∧ reader.Takes value taken
  calm : ∀ input, (reader input).1 ≠ .crash

theorem Takes.pure (value : α) :
    (Pure.pure value : Reader ε α).Takes value [] :=
  ⟨fun _ => rfl, fun _ front differs =>
    absurd (List.prefix_nil.mp front) differs⟩

theorem Takes.bind (first : reader.Takes value taken)
    (second : (rest value).Takes result more) :
    Takes (reader >>= rest) result (taken ++ more) := by
  refine ⟨fun others => ?_, fun front shorter differs => ?_⟩
  · rw [List.append_assoc, run_bind_ok (first.full _), second.full]
  · have failed : ∀ later, later <+: more → later ≠ more →
        ∃ error left,
          (reader >>= rest) (taken ++ later) = (.err error, left) := by
      intro later within differs
      obtain ⟨error, left, failed⟩ := second.short later within differs
      refine ⟨error, left, ?_⟩
      rw [run_bind_ok (first.full later), failed]
    rcases List.prefix_or_prefix_of_prefix shorter
      (List.prefix_append taken more) with early | ⟨later, rfl⟩
    · by_cases same : front = taken
      · subst same
        rw [← List.append_nil front]
        refine failed [] (List.nil_prefix) fun nothing => differs ?_
        rw [← nothing, List.append_nil]
      · obtain ⟨error, left, failed⟩ := first.short front early same
        exact ⟨error, left, run_bind_err failed⟩
    · exact failed later ((List.prefix_append_right_inj taken).mp shorter)
        fun same => differs (by rw [same])

theorem Takes.ends
    (first : reader.Takes value taken) (second : (rest value).Takes result []) :
    Takes (reader >>= rest) result taken := by
  have both := first.bind second
  rwa [List.append_nil] at both

namespace Careful

instance of_pure (value : α) : Careful (Pure.pure value : Reader ε α) where
  takes ran := by
    cases ran
    exact ⟨[], rfl, .pure _⟩
  calm _ := nofun

instance of_fail (error : ε) : Careful (Program.fail error : Reader ε α) where
  takes ran := nomatch ran
  calm _ := nofun

theorem bind (first : Careful reader) (second : ∀ value, Careful (rest value)) :
    Careful (reader >>= rest) where
  takes {input result others} ran := by
    obtain ⟨value, next, began, followed⟩ := bind_ok ran
    obtain ⟨taken, rfl, one⟩ := first.takes began
    obtain ⟨more, rfl, two⟩ := (second value).takes followed
    exact ⟨taken ++ more, (List.append_assoc ..).symm, one.bind two⟩
  calm input crashed := by
    rcases ran : (reader >>= rest) input with ⟨outcome, left⟩
    rw [ran] at crashed
    rcases bind_cases ran with ⟨value, next, _, followed⟩ |
      ⟨_, _, ended⟩ | ⟨stopped, _⟩
    · refine (second value).calm next ?_
      rw [followed]
      exact crashed
    · cases ended.symm.trans crashed
    · refine first.calm input ?_
      rw [stopped]

instance (reader : Reader ε α) (rest : α → Reader ε β) [first : Careful reader]
    [second : ∀ value, Careful (rest value)] : Careful (reader >>= rest) :=
  first.bind second

instance (condition : Prop) [Decidable condition] (left right : Reader ε α)
    [one : Careful left] [two : Careful right] :
    Careful (if condition then left else right) := by
  split
  · exact one
  · exact two

end Careful

def splitAt (length : Nat) : Reader ε (List UInt8) := fun input =>
  if length ≤ input.length then (.ok (input.take length), input.drop length)
  else (.crash, input)

def take (truncated : ε) (length : Nat) : Reader ε (List UInt8) := do
  if (← Program.read List.length) < length then Program.fail truncated
  splitAt length

theorem run_take (truncated : ε) (length : Nat) (input : List UInt8) :
    take truncated length input =
      if input.length < length then (.err truncated, input)
      else (.ok (input.take length), input.drop length) := by
  simp only [take, fail_bind]
  rw [run_bind_ok (run_read _ _)]
  split
  · rfl
  · rw [splitAt, if_pos (by omega)]

theorem take_ok (ran : take truncated length input = (.ok bytes, rest)) :
    input = bytes ++ rest ∧ bytes.length = length := by
  rw [run_take] at ran
  split at ran
  · cases ran
  · cases ran
    exact ⟨(List.take_append_drop ..).symm, by simp; omega⟩

theorem take_takes (truncated : ε) (bytes : List UInt8) :
    (take truncated bytes.length).Takes bytes bytes := by
  refine ⟨fun rest => ?_, fun front shorter differs => ?_⟩
  · rw [run_take, if_neg (by simp), List.take_left, List.drop_left]
  · have less : front.length < bytes.length :=
      lt_of_le_of_ne shorter.length_le fun same =>
        differs (shorter.eq_of_length same)
    exact ⟨truncated, front, by rw [run_take, if_pos less]⟩

instance take_careful (truncated : ε) (length : Nat) :
    Careful (take truncated length) where
  takes {input value rest} ran := by
    rw [run_take] at ran
    split at ran
    · cases ran
    · cases ran
      refine ⟨input.take length, (List.take_append_drop ..).symm, ?_⟩
      have whole : (input.take length).length = length := by simp; omega
      have taken := take_takes truncated (input.take length)
      rwa [whole] at taken
  calm input := by
    rw [run_take]
    split
    · exact nofun
    · exact nofun

def number (truncated malformed : ε) (width : Nat) : Reader ε Nat := do
  let bytes ← take truncated width
  if bytes.length ≠ width then Program.fail malformed
  return ofBigEndian bytes

instance number_careful (truncated malformed : ε) (width : Nat) :
    Careful (number truncated malformed width) := by
  simp only [number, fail_bind]
  infer_instance

theorem run_number
    (truncated malformed : ε) (width : Nat) (input : List UInt8) :
    number truncated malformed width input =
      if input.length < width then (.err truncated, input)
      else (.ok (ofBigEndian (input.take width)), input.drop width) := by
  have taken := run_take truncated width input
  simp only [number, fail_bind]
  by_cases short : input.length < width
  · rw [if_pos short] at taken ⊢
    exact run_bind_err taken
  · rw [if_neg short] at taken ⊢
    have whole : (input.take width).length = width := by simp; omega
    rw [run_bind_ok taken, if_neg (not_not.mpr whole)]
    rfl

theorem number_ok
    (ran : number truncated malformed width input = (.ok value, rest)) :
    input = bigEndian width value ++ rest := by
  rw [run_number] at ran
  split at ran
  · cases ran
  · cases ran
    have whole : (input.take width).length = width := by simp; omega
    have written := bigEndian_ofBigEndian (input.take width)
    rw [whole] at written
    rw [written, List.take_append_drop]

theorem number_takes (truncated malformed : ε) (fits : value < 256 ^ width) :
    (number truncated malformed width).Takes value (bigEndian width value) := by
  have bytes := take_takes truncated (bigEndian width value)
  rw [length_bigEndian] at bytes
  refine bytes.ends ?_
  rw [if_neg (not_not.mpr (length_bigEndian width value)),
    ofBigEndian_bigEndian_of_lt fits]
  exact .pure value

def blob (truncated malformed : ε) (width : Nat) : Reader ε (List UInt8) := do
  take truncated (← number truncated malformed width)

instance blob_careful (truncated malformed : ε) (width : Nat) :
    Careful (blob truncated malformed width) := by
  unfold blob
  infer_instance

theorem blob_takes (truncated malformed : ε)
    (fits : bytes.length < 256 ^ width) :
    (blob truncated malformed width).Takes bytes (lengthPrefixed width bytes) :=
  (number_takes truncated malformed fits).bind (take_takes truncated bytes)

theorem blob_ok
    (ran : blob truncated malformed width input = (.ok bytes, rest)) :
    input = lengthPrefixed width bytes ++ rest := by
  obtain ⟨length, next, counted, taken⟩ := bind_ok ran
  obtain ⟨rfl, rfl⟩ := take_ok taken
  rw [number_ok counted, lengthPrefixed, List.append_assoc]

theorem blob_altered
    (ran : blob truncated malformed width input = (.ok bytes, rest)) :
    ∃ front, input = front ++ bytes ++ rest ∧
      ∀ changed others, changed.length = bytes.length →
        blob truncated malformed width (front ++ changed ++ others) =
          (.ok changed, others) := by
  obtain ⟨length, next, counted, taken⟩ := bind_ok ran
  obtain ⟨front, rfl, counts⟩ :=
    (number_careful truncated malformed width).takes counted
  obtain ⟨rfl, sized⟩ := take_ok taken
  refine ⟨front, (List.append_assoc ..).symm, fun changed others same => ?_⟩
  have takes := (take_takes truncated changed).full others
  rw [same, sized] at takes
  rw [List.append_assoc]
  exact (run_bind_ok (counts.full (changed ++ others))).trans takes

def times (body : β → Reader ε β) : Nat → β → Reader ε β
  | 0, state => Pure.pure state
  | count + 1, state => do times body count (← body state)

instance (body : β → Reader ε β) [careful : ∀ state, Careful (body state)]
    (count : Nat) (state : β) : Careful (times body count state) := by
  induction count generalizing state with
  | zero => exact Careful.of_pure state
  | succ count induction => exact (careful state).bind induction

theorem times_takes {body : β → Reader ε β} {values : List α}
    (takes : ∀ value ∈ values, ∀ state,
      (body state).Takes (step state value) (encode value)) (state : β) :
    (times body values.length state).Takes (values.foldl step state)
      (values.flatMap encode) := by
  induction values generalizing state with
  | nil => exact .pure state
  | cons value rest induction =>
    exact (takes value (.head rest) state).bind
      (induction (fun value member => takes value (.tail _ member)) _)

end Reader

end Foundation
