import Torchat.Foundation.Table

namespace Foundation

namespace Table

variable [DecidableEq κ]

def Has (table : Table κ ν) (p : κ → ν → Prop) : Prop :=
  ∃ key row, table.lookup key = some row ∧ p key row

variable {table : Table κ ν}

theorem has_iff_has_of_split
    (split : ∀ key row, all key row ↔ timely key row ∨ late key row) :
    (table.Has all ↔ table.Has timely) ↔ (table.Has late → table.Has timely) := by
  constructor
  · rintro agree ⟨key, row, found, passed⟩
    exact agree.mp ⟨key, row, found, (split key row).mpr (.inr passed)⟩
  · intro accompanied
    constructor
    · rintro ⟨key, row, found, passed⟩
      rcases (split key row).mp passed with timely | late
      · exact ⟨key, row, found, timely⟩
      · exact accompanied ⟨key, row, found, late⟩
    · rintro ⟨key, row, found, passed⟩
      exact ⟨key, row, found, (split key row).mpr (.inl passed)⟩

variable [LE τ] [Min τ]

/-- `SELECT MIN(…) FROM …`: the least time of the rows that have one. -/
def earliest (table : Table κ ν) (time : ν → Option τ) : Option τ :=
  (table.values.filterMap time).min?

def Due (now : τ) (deadline : Option τ) : Prop :=
  ∃ time, deadline = some time ∧ time ≤ now

/-- The first of the times that are asked for, if there are any. -/
structure Least (asked : τ → Prop) (deadline : Option τ) : Prop where
  held : ∀ time ∈ deadline, asked time
  first : ∀ time, asked time → ∃ least ∈ deadline, least ≤ time

variable [Std.IsLinearOrder τ] [Std.LawfulOrderMin τ] {asked : τ → Prop}

theorem least_min? (times : List τ) : Least (· ∈ times) times.min? where
  held _ least := (List.min?_eq_some_iff.mp least).1
  first time member := by
    cases least : times.min? with
    | none =>
      rw [List.min?_eq_none_iff.mp least] at member
      cases member
    | some first =>
      exact ⟨first, rfl, (List.min?_eq_some_iff.mp least).2 time member⟩

theorem least_earliest (table : Table κ ν) (time : ν → Option τ) :
    Least (fun at' => table.Has fun _ row => time row = some at')
      (table.earliest time) := by
  have listed : ∀ at', at' ∈ table.values.filterMap time ↔
      table.Has fun _ row => time row = some at' := by
    intro at'
    rw [List.mem_filterMap]
    constructor
    · rintro ⟨row, stored, timed⟩
      obtain ⟨key, found⟩ := exists_of_mem_values stored
      exact ⟨key, row, found, timed⟩
    · rintro ⟨key, row, found, timed⟩
      exact ⟨row, mem_values found, timed⟩
  have least := least_min? (table.values.filterMap time)
  simp only [listed] at least
  exact least

theorem Least.or (least : Least asked deadline) (second : Least wanted other) :
    Least (fun time => asked time ∨ wanted time)
      (deadline.toList ++ other.toList).min? := by
  have both := least_min? (deadline.toList ++ other.toList)
  constructor
  · intro time chosen
    rcases List.mem_append.mp (both.held time chosen) with own | its
    · exact .inl (least.held time (Option.mem_toList.mp own))
    · exact .inr (second.held time (Option.mem_toList.mp its))
  · intro time given
    obtain ⟨earlier, member, before⟩ :
        ∃ earlier ∈ deadline.toList ++ other.toList, earlier ≤ time := by
      rcases given with own | its
      · obtain ⟨earlier, chosen, before⟩ := least.first time own
        exact ⟨earlier, by simp [Option.mem_def.mp chosen], before⟩
      · obtain ⟨earlier, chosen, before⟩ := second.first time its
        exact ⟨earlier, by simp [Option.mem_def.mp chosen], before⟩
    obtain ⟨earliest, chosen, first⟩ := both.first earlier member
    exact ⟨earliest, chosen, Std.le_trans first before⟩

omit [Min τ] [Std.LawfulOrderMin τ] in
theorem Least.due_iff (least : Least asked deadline) :
    Due now deadline ↔ ∃ time, asked time ∧ time ≤ now := by
  constructor
  · rintro ⟨time, chosen, come⟩
    exact ⟨time, least.held time chosen, come⟩
  · rintro ⟨time, given, come⟩
    obtain ⟨first, chosen, before⟩ := least.first time given
    exact ⟨first, chosen, Std.le_trans before come⟩

theorem due_earliest_iff {time : ν → Option τ} :
    Due now (table.earliest time) ↔
      ∃ key row at', table.lookup key = some row ∧ time row = some at' ∧
        at' ≤ now := by
  rw [(least_earliest table time).due_iff]
  constructor
  · rintro ⟨at', ⟨key, row, found, timed⟩, come⟩
    exact ⟨key, row, at', found, timed, come⟩
  · rintro ⟨key, row, at', found, timed, come⟩
    exact ⟨at', ⟨key, row, found, timed⟩, come⟩

theorem due_earliest_where_iff
    {selected : ν → Prop} [DecidablePred selected] {time : ν → τ} :
    Due now (table.earliest fun row =>
        if selected row then some (time row) else none) ↔
      table.Has fun _ row => selected row ∧ time row ≤ now := by
  rw [due_earliest_iff]
  constructor
  · rintro ⟨key, row, at', found, timed, come⟩
    obtain ⟨passed, timed⟩ := Option.ite_none_right_eq_some.mp timed
    cases timed
    exact ⟨key, row, found, passed, come⟩
  · rintro ⟨key, row, found, passed, come⟩
    exact ⟨key, row, time row, found, by simp [passed], come⟩

omit [LE τ] [Min τ] [Std.IsLinearOrder τ] [Std.LawfulOrderMin τ] in
theorem entries_retain_ne_nil_iff :
    (table.retain p).entries ≠ [] ↔ table.Has fun key row => p key row = true := by
  unfold Has
  simp [retain, lookup_eq_some_iff]

end Table

end Foundation
