import Mathlib.Data.List.Basic

namespace Foundation

/-- The times that still count at `now`: less than `width` ago. -/
def recent (width : Int) (times : List Int) (now : Int) : List Int :=
  times.filter fun time => time + width > now

theorem recent_recent (ordered : earlier ≤ now) :
    recent width (recent width times earlier) now = recent width times now := by
  unfold recent
  rw [List.filter_filter]
  refine List.filter_congr fun time _ => ?_
  rw [Bool.and_eq_left_iff_imp]
  simp only [decide_eq_true_eq]
  omega

/-- A list pruned to what still counts, beside the log of everything that was
admitted up to `last`. -/
structure Window
    (width : Int) (limit : Nat) (last : Int) (kept log : List Int) : Prop where
  counts : ∀ now, last ≤ now → recent width kept now = recent width log now
  short : kept.length ≤ limit
  sparse : ∀ first final, final - first < width →
    log.countP (fun time => first ≤ time ∧ time ≤ final) ≤ limit

namespace Window

theorem empty : Window width limit last [] [] where
  counts _ _ := rfl
  short := Nat.zero_le _
  sparse _ _ _ := Nat.zero_le _

section

variable (window : Window width limit last kept log) (later : last ≤ now)

include window later

theorem advance : Window width limit now kept log :=
  { window with
    counts := fun reading ordered =>
      window.counts reading (Int.le_trans later ordered) }

theorem refuse : Window width limit now (recent width kept now) log where
  counts reading ordered := by
    rw [recent_recent ordered]
    exact window.counts reading (Int.le_trans later ordered)
  short := Nat.le_trans (List.length_filter_le _ _) window.short
  sparse := window.sparse

theorem grant (room : (recent width kept now).length < limit) :
    Window width limit now (recent width kept now ++ [now]) (log ++ [now]) where
  counts reading ordered := by
    have pruned := (window.refuse later).counts reading ordered
    unfold recent at pruned ⊢
    rw [List.filter_append, List.filter_append, pruned]
  short := by
    rw [List.length_append]
    exact room
  sparse first final narrow := by
    rw [List.countP_append, List.countP_singleton]
    split
    case isFalse => exact window.sparse first final narrow
    case isTrue inside =>
      simp only [decide_eq_true_eq] at inside
      rw [window.counts now later, recent, ← List.countP_eq_length_filter]
        at room
      -- Whatever shares an interval with `now` still counts at `now`.
      have counted :
          log.countP (fun time => first ≤ time ∧ time ≤ final) ≤
            log.countP fun time => time + width > now := by
        refine List.countP_mono_left fun time _ within => ?_
        simp only [decide_eq_true_eq] at within ⊢
        omega
      exact Nat.lt_of_le_of_lt counted room

end

end Window

end Foundation
