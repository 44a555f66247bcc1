import Mathlib.Data.List.Nodup
import Mathlib.Data.List.Pairwise

namespace Foundation

/-- Rows stored under pairwise distinct keys: a hash map, or an SQL table with
its primary key. -/
structure Table (κ ν : Type) where
  entries : List (κ × ν)
  distinct : (entries.map Prod.fst).Nodup
  deriving DecidableEq

namespace Table

def empty : Table κ ν := ⟨[], by simp⟩

def keys (table : Table κ ν) : List κ := table.entries.map Prod.fst

def values (table : Table κ ν) : List ν := table.entries.map Prod.snd

def size (table : Table κ ν) : Nat := table.entries.length

/-- `SELECT COUNT(*) … WHERE`. -/
def count (table : Table κ ν) (p : κ → ν → Bool) : Nat :=
  table.entries.countP fun entry => p entry.1 entry.2

/-- `DELETE … WHERE NOT`, or `retain` on a map. -/
def retain (table : Table κ ν) (p : κ → ν → Bool) : Table κ ν where
  entries := table.entries.filter fun entry => p entry.1 entry.2
  distinct := by
    refine table.distinct.sublist ?_
    exact List.Sublist.map _ List.filter_sublist

/-- `UPDATE` of every row; a row the statement does not select is returned as
it is. -/
def update (table : Table κ ν) (f : κ → ν → ν) : Table κ ν where
  entries := table.entries.map fun entry => (entry.1, f entry.1 entry.2)
  distinct := by
    have keysKept :
        (table.entries.map fun entry => (entry.1, f entry.1 entry.2)).map
          Prod.fst = table.entries.map Prod.fst := by
      simp [Function.comp_def]
    rw [keysKept]
    exact table.distinct

def updateWhere
    (table : Table κ ν) (p : κ → ν → Bool) (f : κ → ν → ν) : Table κ ν :=
  table.update fun key row => if p key row then f key row else row

section

variable (table : Table κ ν)

theorem count_retain (q p : κ → ν → Bool) :
    (table.retain q).count p =
      table.count fun key row => p key row && q key row := by
  simp [count, retain, List.countP_filter]

theorem count_split (p q : κ → ν → Bool) :
    table.count p = (table.retain q).count p +
        table.count fun key row => p key row && !q key row := by
  rw [count_retain]
  simp only [count]
  induction table.entries with
  | nil => rfl
  | cons head tail induction =>
    rw [List.countP_cons, List.countP_cons, List.countP_cons, induction]
    cases p head.1 head.2 <;> cases q head.1 head.2 <;> simp <;> omega

@[simp] theorem size_update (f : κ → ν → ν) :
    (table.update f).size = table.size :=
  List.length_map _

theorem size_retain_le (p : κ → ν → Bool) :
    (table.retain p).size ≤ table.size :=
  List.length_filter_le _ _

theorem values_retain_sublist (p : κ → ν → Bool) :
    (table.retain p).values.Sublist table.values :=
  List.Sublist.map _ List.filter_sublist

theorem countP_values (p : ν → Bool) :
    table.values.countP p = table.count fun _ row => p row :=
  List.countP_map

end

variable [DecidableEq κ]

def lookup (table : Table κ ν) (key : κ) : Option ν :=
  table.entries.lookup key

def contains (table : Table κ ν) (key : κ) : Bool :=
  (table.lookup key).isSome

def erase (table : Table κ ν) (key : κ) : Table κ ν :=
  table.retain fun candidate _ => candidate ≠ key

def insert (table : Table κ ν) (key : κ) (row : ν) : Table κ ν where
  entries := (table.erase key).entries ++ [(key, row)]
  distinct := by
    rw [List.map_append, List.nodup_append]
    refine ⟨(table.erase key).distinct, by simp, ?_⟩
    intro left leftMember right rightMember
    simp only [erase, retain, List.mem_map, List.mem_filter,
      decide_eq_true_eq] at leftMember
    obtain ⟨entry, ⟨_, different⟩, rfl⟩ := leftMember
    simp only [List.map_cons, List.map_nil, List.mem_singleton] at rightMember
    rw [rightMember]
    exact different

/-- `UPDATE … WHERE primary key = ?`. -/
def modify (table : Table κ ν) (key : κ) (f : ν → ν) : Table κ ν :=
  table.updateWhere (fun candidate _ => candidate = key) fun _ => f

/-- `INSERT OR IGNORE`. -/
def insertNew (table : Table κ ν) (key : κ) (row : ν) : Table κ ν :=
  if table.contains key then table else table.insert key row

variable {table : Table κ ν}

theorem lookup_eq_some_iff :
    table.lookup key = some row ↔ (key, row) ∈ table.entries := by
  obtain ⟨entries, distinct⟩ := table
  simp only [lookup]
  induction entries with
  | nil => simp
  | cons head tail induction =>
    obtain ⟨headKey, headRow⟩ := head
    simp only [List.map_cons, List.nodup_cons] at distinct
    have tailFound := induction distinct.2
    by_cases same : key = headKey
    · subst same
      have notInTail : (key, row) ∉ tail := by
        intro member
        exact distinct.1 (List.mem_map_of_mem (f := Prod.fst) member)
      simp [notInTail, eq_comm]
    · have differs : (key == headKey) = false := by simpa using same
      simp [List.lookup_cons, differs, tailFound, same]

theorem lookup_eq_none_iff : table.lookup key = none ↔ key ∉ table.keys := by
  constructor
  · intro missing member
    obtain ⟨⟨found, row⟩, entryMember, rfl⟩ := List.mem_map.mp member
    rw [← lookup_eq_some_iff] at entryMember
    rw [missing] at entryMember
    cases entryMember
  · intro absent
    cases found : table.lookup key with
    | none => rfl
    | some row =>
      rw [lookup_eq_some_iff] at found
      exact absurd (List.mem_map_of_mem (f := Prod.fst) found) absent

theorem find?_entries (table : Table κ ν) (key : κ) :
    table.entries.find? (fun entry => entry.1 = key) =
      (table.lookup key).map (key, ·) := by
  rw [lookup]
  induction table.entries with
  | nil => rfl
  | cons head tail induction =>
    obtain ⟨headKey, row⟩ := head
    by_cases same : headKey = key
    · subst same
      simp
    · have unlike : (key == headKey) = false :=
        beq_false_of_ne (Ne.symm same)
      simp [List.lookup_cons, same, unlike, induction]

theorem contains_iff :
    table.contains key = true ↔ ∃ row, table.lookup key = some row := by
  simp [contains, Option.isSome_iff_exists]

@[simp] theorem lookup_empty (key : κ) :
    (empty : Table κ ν).lookup key = none := rfl

@[simp] theorem lookup_retain (table : Table κ ν) (p : κ → ν → Bool) (key : κ) :
    (table.retain p).lookup key = (table.lookup key).filter (p key) := by
  apply Option.ext
  intro row
  rw [lookup_eq_some_iff, Option.filter_eq_some_iff, lookup_eq_some_iff]
  simp [retain]

@[simp] theorem lookup_update (table : Table κ ν) (f : κ → ν → ν) (key : κ) :
    (table.update f).lookup key = (table.lookup key).map (f key) := by
  apply Option.ext
  intro row
  rw [lookup_eq_some_iff, Option.map_eq_some_iff]
  simp only [update, List.mem_map, Prod.mk.injEq, Prod.exists]
  constructor
  · rintro ⟨found, old, member, rfl, rfl⟩
    exact ⟨old, lookup_eq_some_iff.mpr member, rfl⟩
  · rintro ⟨old, found, rfl⟩
    exact ⟨key, old, lookup_eq_some_iff.mp found, rfl, rfl⟩

@[simp] theorem lookup_updateWhere
    (table : Table κ ν) (p : κ → ν → Bool) (f : κ → ν → ν) (key : κ) :
    (table.updateWhere p f).lookup key =
      (table.lookup key).map fun row => if p key row then f key row else row :=
  lookup_update table _ key

@[simp] theorem lookup_erase (table : Table κ ν) (key target : κ) :
    (table.erase key).lookup target =
      if target = key then none else table.lookup target := by
  rw [erase, lookup_retain]
  by_cases same : target = key
  · cases table.lookup target <;> simp [same]
  · cases table.lookup target <;> simp [same]

theorem mem_values (found : table.lookup key = some row) : row ∈ table.values :=
  List.mem_map_of_mem (f := Prod.snd) (lookup_eq_some_iff.mp found)

theorem exists_of_mem_values (member : row ∈ table.values) :
    ∃ key, table.lookup key = some row := by
  obtain ⟨⟨key, _⟩, stored, rfl⟩ := List.mem_map.mp member
  exact ⟨key, lookup_eq_some_iff.mpr stored⟩

theorem erase_missing (missing : table.lookup key = none) :
    table.erase key = table := by
  rw [lookup_eq_none_iff] at missing
  obtain ⟨entries, distinct⟩ := table
  simp only [erase, retain, mk.injEq, List.filter_eq_self, decide_eq_true_eq]
  intro entry member same
  exact missing (same ▸ List.mem_map_of_mem member)

@[simp] theorem lookup_insert (table : Table κ ν) (key target : κ) (row : ν) :
    (table.insert key row).lookup target =
      if target = key then some row else table.lookup target := by
  have split :
      (table.insert key row).lookup target =
        ((table.erase key).lookup target).or ([(key, row)].lookup target) := by
    simp [lookup, insert, List.lookup_append]
  rw [split, lookup_erase]
  by_cases same : target = key
  · simp [same]
  · have differs : (target == key) = false := by simpa using same
    simp [same, List.lookup_cons, differs]

theorem lookup_foldl_insert {entries : List (κ × ν)}
    (distinct : (entries.map Prod.fst).Nodup) (table : Table κ ν) :
    (entries.foldl (fun table entry => table.insert entry.1 entry.2)
        table).lookup key = some row ↔
      (key, row) ∈ entries ∨
        (key ∉ entries.map Prod.fst ∧ table.lookup key = some row) := by
  induction entries generalizing table with
  | nil => simp
  | cons entry rest induction =>
    obtain ⟨name, held⟩ := entry
    obtain ⟨fresh, distinct⟩ := List.nodup_cons.mp distinct
    rw [List.foldl_cons, induction distinct, Table.lookup_insert]
    by_cases same : key = name
    · subst same
      have gone : ∀ other, (key, other) ∉ rest := fun other member =>
        fresh (List.mem_map.mpr ⟨_, member, rfl⟩)
      have absent : key ∉ rest.map Prod.fst := fresh
      simp [gone, absent, eq_comm]
    · simp [same]

@[simp] theorem lookup_modify (table : Table κ ν) (key target : κ) (f : ν → ν) :
    (table.modify key f).lookup target =
      if target = key then (table.lookup target).map f
      else table.lookup target := by
  rw [modify, lookup_updateWhere]
  by_cases same : target = key
  · simp [same]
  · simp [same]

theorem map_lookup_modify (same : ∀ row, column (f row) = column row)
    (key target : κ) :
    ((table.modify key f).lookup target).map column =
      (table.lookup target).map column := by
  rw [lookup_modify]
  split
  · rw [Option.map_map]
    exact Option.map_congr fun row _ => same row
  · rfl

theorem lookup_modify_eq_self_iff :
    (table.modify key f).lookup key = table.lookup key ↔
      ∀ row, table.lookup key = some row → f row = row := by
  rw [lookup_modify, if_pos rfl]
  cases table.lookup key <;> simp

theorem forall_modify_iff {p : ν → Prop} (same : ∀ row, p (f row) ↔ p row) :
    (∀ target row, (table.modify key f).lookup target = some row → p row) ↔
      ∀ target row, table.lookup target = some row → p row := by
  refine forall_congr' fun target => ?_
  rw [lookup_modify]
  cases table.lookup target with
  | none => simp
  | some found =>
    split
    · simp [same]
    · simp

@[simp] theorem size_modify (table : Table κ ν) (key : κ) (f : ν → ν) :
    (table.modify key f).size = table.size :=
  size_update table _

theorem size_insert_le (table : Table κ ν) (key : κ) (row : ν) :
    (table.insert key row).size ≤ table.size + 1 := by
  have erased : (table.erase key).size ≤ table.size := size_retain_le table _
  simpa [size, insert] using erased

theorem modify_congr (same : ∀ row, table.lookup key = some row → f row = g row) :
    table.modify key f = table.modify key g := by
  have equal : ∀ entry ∈ table.entries,
      (entry.1, if decide (entry.1 = key) then f entry.2 else entry.2) =
        (entry.1, if decide (entry.1 = key) then g entry.2 else entry.2) := by
    rintro ⟨found, row⟩ member
    by_cases here : found = key
    · subst here
      simp [same row (lookup_eq_some_iff.mpr member)]
    · simp [here]
  obtain ⟨entries, distinct⟩ := table
  simp only [modify, updateWhere, update, mk.injEq]
  exact List.map_congr_left equal

theorem modify_self (table : Table κ ν) (key : κ) :
    (table.modify key fun row => row) = table := by
  obtain ⟨entries, distinct⟩ := table
  simp [modify, updateWhere, update]

@[simp] theorem contains_modify
    (table : Table κ ν) (key target : κ) (f : ν → ν) :
    (table.modify key f).contains target = table.contains target := by
  unfold contains
  by_cases same : target = key
  · simp [same]
  · simp [same]

theorem insertNew_of_contains (present : table.contains key = true) (row : ν) :
    table.insertNew key row = table :=
  if_pos present

@[simp] theorem contains_insertNew_self (table : Table κ ν) (key : κ)
    (row : ν) : (table.insertNew key row).contains key = true := by
  unfold insertNew
  split
  · assumption
  · simp [contains]

theorem count_eq_zero_iff :
    table.count p = 0 ↔
      ∀ key row, table.lookup key = some row → p key row = false := by
  simp only [count, List.countP_eq_zero, Prod.forall, lookup_eq_some_iff,
    Bool.not_eq_true]

private theorem count_single (table : Table κ ν) (key : κ) (p : κ → ν → Bool) :
    (table.count fun candidate row => p candidate row && candidate = key) =
      match table.lookup key with
      | some row => if p key row then 1 else 0
      | none => 0 := by
  obtain ⟨entries, distinct⟩ := table
  simp only [count, lookup]
  induction entries with
  | nil => rfl
  | cons head tail induction =>
    obtain ⟨headKey, headRow⟩ := head
    simp only [List.map_cons, List.nodup_cons] at distinct
    rw [List.countP_cons, induction distinct.2]
    by_cases same : key = headKey
    · subst same
      have missing : tail.lookup key = none := by
        rw [List.lookup_eq_none_iff]
        intro entry member
        have differs : key ≠ entry.1 := by
          intro equal
          exact distinct.1 (equal ▸ List.mem_map_of_mem (f := Prod.fst) member)
        simpa using differs
      simp [missing]
    · have differs : (key == headKey) = false := by simpa using same
      simp [List.lookup_cons, differs, Ne.symm same]

theorem count_erase (p : κ → ν → Bool) (found : table.lookup key = some row) :
    table.count p = (table.erase key).count p + if p key row then 1 else 0 := by
  rw [count_split table p fun candidate _ => candidate ≠ key]
  congr 1
  have single := count_single table key p
  rw [found] at single
  simpa using single

theorem count_erase_missing
    (p : κ → ν → Bool) (missing : table.lookup key = none) :
    table.count p = (table.erase key).count p := by
  rw [count_split table p fun candidate _ => candidate ≠ key]
  have single := count_single table key p
  rw [missing] at single
  simpa [erase] using single

theorem count_insert
    (row : ν) (p : κ → ν → Bool) (missing : table.lookup key = none) :
    (table.insert key row).count p =
      table.count p + if p key row then 1 else 0 := by
  rw [count_erase_missing p missing]
  simp [count, insert, List.countP_append, List.countP_cons]

theorem mem_keys_retain :
    key ∈ (table.retain p).keys ↔
      ∃ row, table.lookup key = some row ∧ p key row = true := by
  simp only [keys, retain, List.mem_map, List.mem_filter, Prod.exists,
    lookup_eq_some_iff]
  constructor
  · rintro ⟨found, row, ⟨member, selected⟩, rfl⟩
    exact ⟨row, member, selected⟩
  · rintro ⟨row, member, selected⟩
    exact ⟨key, row, ⟨member, selected⟩, rfl⟩

theorem keys_retain_eq_nil
    (nothing : ∀ key row, table.lookup key = some row → p key row = false) :
    (table.retain p).keys = [] := by
  rw [List.eq_nil_iff_forall_not_mem]
  intro key member
  obtain ⟨row, found, selected⟩ := mem_keys_retain.mp member
  rw [nothing key row found] at selected
  cases selected

theorem nodup_filterMap_values_iff :
    (table.values.filterMap column).Nodup ↔
      ∀ left right leftRow rightRow value,
        table.lookup left = some leftRow → table.lookup right = some rightRow →
        column leftRow = some value → column rightRow = some value →
        left = right := by
  have entriesNodup : table.entries.Nodup := table.distinct.of_map
  rw [List.Nodup, values, List.filterMap_map, List.pairwise_filterMap]
  constructor
  · intro apart left right leftRow rightRow value leftFound rightFound
      leftValue rightValue
    by_contra different
    rw [lookup_eq_some_iff] at leftFound rightFound
    have symmetric : Std.Symm fun first second : κ × ν =>
        ∀ b, (column ∘ Prod.snd) first = some b →
          ∀ b', (column ∘ Prod.snd) second = some b' → b ≠ b' := by
      constructor
      intro first second related b found b' found'
      exact (related b' found' b found).symm
    have related := apart.forall leftFound rightFound
      (fun equal => different (congrArg Prod.fst equal))
    exact related value leftValue value rightValue rfl
  · intro injective
    refine entriesNodup.pairwise_of_forall_ne ?_
    intro first firstMember second secondMember different b found b' found'
      equal
    subst equal
    apply different
    have sameKey := injective first.1 second.1 first.2 second.2 b
      (lookup_eq_some_iff.mpr firstMember) (lookup_eq_some_iff.mpr secondMember)
      found found'
    have firstFound := lookup_eq_some_iff.mpr firstMember
    have secondFound := lookup_eq_some_iff.mpr secondMember
    rw [sameKey, secondFound] at firstFound
    exact Prod.ext sameKey (Option.some.inj firstFound).symm

end Table

end Foundation
