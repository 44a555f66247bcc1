import Torchat.Foundation.Machine
import Torchat.Runtime.Session

namespace Torchat

open Foundation RuntimeSession

inductive SessionCall
  | beginTransaction
  | commitTransaction
  | rollbackTransaction
  | pushEvent (event : RuntimeEvent)
  | drainEvents

def RuntimeSession.answer :
    SessionCall → RuntimeSession → List RuntimeEvent × RuntimeSession
  | .beginTransaction, session => ([], session.beginTransaction)
  | .commitTransaction, session => ([], session.commitTransaction)
  | .rollbackTransaction, session => ([], session.rollbackTransaction)
  | .pushEvent event, session => ([], session.pushEvent event)
  | .drainEvents, session => session.drainEvents

/-- What the calls mean: every open transaction has a scope of its own, the
innermost first. -/
structure EventScopes where
  published : List RuntimeEvent
  scopes : List (List RuntimeEvent)

namespace EventScopes

def empty : EventScopes := ⟨[], []⟩

def answer : SessionCall → EventScopes → List RuntimeEvent × EventScopes
  | .beginTransaction, ⟨published, scopes⟩ => ([], ⟨published, [] :: scopes⟩)
  | .commitTransaction, ⟨published, []⟩ => ([], ⟨published, []⟩)
  | .commitTransaction, ⟨published, [scope]⟩ => ([], ⟨published ++ scope, []⟩)
  | .commitTransaction, ⟨published, inner :: outer :: scopes⟩ =>
    ([], ⟨published, (outer ++ inner) :: scopes⟩)
  | .rollbackTransaction, ⟨published, scopes⟩ =>
    ([], ⟨published, scopes.tail⟩)
  | .pushEvent event, ⟨published, []⟩ => ([], ⟨published ++ [event], []⟩)
  | .pushEvent event, ⟨published, scope :: scopes⟩ =>
    ([], ⟨published, (scope ++ [event]) :: scopes⟩)
  | .drainEvents, ⟨published, scopes⟩ => (published, ⟨[], scopes⟩)

def staged (state : EventScopes) : List RuntimeEvent :=
  state.scopes.reverse.flatten

def Droppable (state : EventScopes) : Prop :=
  ∀ inner outer scopes, state.scopes = inner :: outer :: scopes → inner = []

end EventScopes

namespace RuntimeSession

variable {session : RuntimeSession}

/-- The counter and the one list of staged events stand for the stack. -/
structure Stands (session : RuntimeSession) (state : EventScopes) : Prop where
  published : session.events = state.published
  depth : session.transactionDepth = state.scopes.length
  staged : session.stagedEvents = state.staged

theorem new_stands : new.Stands EventScopes.empty := ⟨rfl, rfl, rfl⟩

section

variable (stands : session.Stands state)

include stands

theorem Stands.beginTransaction :
    session.beginTransaction.Stands (state.answer .beginTransaction).2 where
  published := stands.published
  depth := congrArg (· + 1) stands.depth
  staged := by
    change session.stagedEvents = ([] :: state.scopes).reverse.flatten
    rw [stands.staged, List.reverse_cons, List.flatten_append]
    exact (List.append_nil _).symm

theorem Stands.commitTransaction :
    session.commitTransaction.Stands (state.answer .commitTransaction).2 := by
  obtain ⟨published, scopes⟩ := state
  obtain ⟨shown, depth, staged⟩ := stands
  unfold commitTransaction
  match scopes with
  | [] =>
    rw [depth]
    exact ⟨shown, depth, staged⟩
  | [scope] =>
    rw [depth]
    refine ⟨?_, rfl, rfl⟩
    change session.events ++ session.stagedEvents = published ++ scope
    rw [shown, staged]
    simp [EventScopes.staged]
  | inner :: outer :: rest =>
    rw [depth]
    refine ⟨shown, rfl, ?_⟩
    rw [staged]
    simp [EventScopes.staged, EventScopes.answer]

theorem Stands.rollbackTransaction (droppable : state.Droppable) :
    session.rollbackTransaction.Stands
      (state.answer .rollbackTransaction).2 := by
  obtain ⟨published, scopes⟩ := state
  obtain ⟨shown, depth, staged⟩ := stands
  unfold RuntimeSession.rollbackTransaction
  match scopes with
  | [] =>
    rw [depth]
    exact ⟨shown, depth, staged⟩
  | [scope] =>
    rw [depth]
    exact ⟨shown, rfl, rfl⟩
  | inner :: outer :: rest =>
    rw [depth]
    cases droppable inner outer rest rfl
    refine ⟨shown, rfl, ?_⟩
    rw [staged]
    simp [EventScopes.staged, EventScopes.answer]

theorem Stands.pushEvent (event : RuntimeEvent) :
    (session.pushEvent event).Stands (state.answer (.pushEvent event)).2 := by
  obtain ⟨published, scopes⟩ := state
  obtain ⟨shown, depth, staged⟩ := stands
  unfold pushEvent
  cases scopes with
  | nil =>
    rw [depth, if_neg (by simp)]
    exact ⟨congrArg (· ++ [event]) shown, rfl, staged⟩
  | cons scope rest =>
    rw [depth, if_pos (by simp)]
    refine ⟨shown, rfl, ?_⟩
    rw [staged]
    simp [EventScopes.staged, EventScopes.answer]

theorem Stands.answer (call : SessionCall)
    (allowed : call = .rollbackTransaction → state.Droppable) :
    (session.answer call).1 = (state.answer call).1 ∧
      (session.answer call).2.Stands (state.answer call).2 := by
  have silent : call ≠ .drainEvents → (state.answer call).1 = [] := by
    obtain ⟨published, scopes⟩ := state
    intro other
    unfold EventScopes.answer
    split <;> first | rfl | exact absurd rfl other
  cases call with
  | beginTransaction =>
    exact ⟨(silent nofun).symm, stands.beginTransaction⟩
  | commitTransaction =>
    exact ⟨(silent nofun).symm, stands.commitTransaction⟩
  | rollbackTransaction =>
    exact ⟨(silent nofun).symm, stands.rollbackTransaction (allowed rfl)⟩
  | pushEvent event => exact ⟨(silent nofun).symm, stands.pushEvent event⟩
  | drainEvents =>
    exact ⟨stands.published, rfl, stands.depth, stands.staged⟩

theorem Stands.gather (kept : SessionCall.rollbackTransaction ∉ calls) :
    (gather RuntimeSession.answer session calls).1 =
        (gather EventScopes.answer state calls).1 ∧
      (gather RuntimeSession.answer session calls).2.Stands
        (gather EventScopes.answer state calls).2 := by
  induction calls generalizing session state with
  | nil => exact ⟨rfl, stands⟩
  | cons call rest induction =>
    rw [List.mem_cons, not_or] at kept
    obtain ⟨same, after⟩ :=
      stands.answer call fun rollback => absurd rollback.symm kept.1
    obtain ⟨others, final⟩ := induction after kept.2
    exact ⟨congrArg₂ (· ++ ·) same others, final⟩

end

theorem gather_commits
    (depth : Nat) (nested : session.transactionDepth = depth + 1) :
    (gather answer session (List.replicate (depth + 1) .commitTransaction ++
      [.drainEvents])).1 = session.events ++ session.stagedEvents := by
  induction depth generalizing session with
  | zero =>
    have committed : session.commitTransaction =
        { session with
          transactionDepth := 0
          events := session.events ++ session.stagedEvents
          stagedEvents := [] } := by
      rw [commitTransaction, nested]
      rfl
    change session.commitTransaction.events ++ [] = _
    rw [committed, List.append_nil]
  | succ depth induction =>
    have committed : session.commitTransaction =
        { session with transactionDepth := depth + 1 } := by
      rw [commitTransaction, nested]
      rfl
    change (gather answer session.commitTransaction _).1 = _
    rw [committed]
    exact induction rfl

end RuntimeSession

theorem EventScopes.gather_commits (nested : state.scopes.length = depth + 1) :
    (gather answer state (List.replicate (depth + 1) .commitTransaction ++
      [.drainEvents])).1 = state.published ++ state.staged := by
  have stands : RuntimeSession.Stands { new with
      events := state.published
      stagedEvents := state.staged
      transactionDepth := state.scopes.length } state := ⟨rfl, rfl, rfl⟩
  rw [← (stands.gather (by simp)).1]
  exact RuntimeSession.gather_commits depth nested

def RuntimeSession.drained (calls : List SessionCall) :
    List RuntimeEvent × RuntimeSession :=
  gather RuntimeSession.answer .new calls

def EventScopes.drained (calls : List SessionCall) :
    List RuntimeEvent × EventScopes :=
  gather EventScopes.answer .empty calls

namespace SessionCall

def Exact (calls : List SessionCall) : Prop :=
  (RuntimeSession.drained calls).1 = (EventScopes.drained calls).1

instance : Decidable (Exact calls) :=
  inferInstanceAs (Decidable (_ = _))

/-- No nested scope was rolled back with events in it. -/
def Undropped (calls : List SessionCall) : Prop :=
  ∀ before, before ++ [rollbackTransaction] <+: calls →
    (EventScopes.drained before).2.Droppable

def settled (calls : List SessionCall) (commits : Nat) : List SessionCall :=
  calls ++ (List.replicate commits commitTransaction ++ [drainEvents])

theorem undropped_concat :
    Undropped (calls ++ [call]) ↔
      Undropped calls ∧ (call = rollbackTransaction →
        (EventScopes.drained calls).2.Droppable) := by
  simp only [Undropped, List.prefix_concat_iff]
  constructor
  · intro undropped
    refine ⟨fun before within => undropped before (.inr within), ?_⟩
    rintro rfl
    exact undropped calls (.inl rfl)
  · rintro ⟨undropped, last⟩ before (same | within)
    · obtain ⟨rfl, rollback⟩ := List.append_inj' same rfl
      cases rollback
      exact last rfl
    · exact undropped before within

theorem Undropped.append (undropped : Undropped calls)
    (kept : rollbackTransaction ∉ rest) : Undropped (calls ++ rest) := by
  induction rest using List.reverseRecOn with
  | nil => rwa [List.append_nil]
  | append_singleton rest call induction =>
    rw [List.mem_append, not_or, List.mem_singleton] at kept
    rw [← List.append_assoc]
    exact undropped_concat.mpr
      ⟨induction kept.1, fun rollback => absurd rollback.symm kept.2⟩

theorem Undropped.stands (undropped : Undropped calls) :
    Exact calls ∧
      (drained calls).2.Stands (EventScopes.drained calls).2 := by
  induction calls using List.reverseRecOn with
  | nil => exact ⟨rfl, new_stands⟩
  | append_singleton calls call induction =>
    obtain ⟨earlier, last⟩ := undropped_concat.mp undropped
    obtain ⟨agreed, stands⟩ := induction earlier
    obtain ⟨same, after⟩ := stands.answer call last
    unfold Exact drained EventScopes.drained
    rw [gather_concat, gather_concat]
    exact ⟨congrArg₂ (· ++ ·) agreed same, after⟩

theorem not_exact_of_dropped (undropped : Undropped calls)
    (dropped : ¬ (EventScopes.drained calls).2.Droppable) :
    ∃ commits, ¬ Exact (settled (calls ++ [rollbackTransaction]) commits) := by
  obtain ⟨same, stands⟩ := undropped.stands
  simp only [EventScopes.Droppable, not_forall] at dropped
  obtain ⟨inner, outer, scopes, nested, pushed⟩ := dropped
  refine ⟨scopes.length + 1, fun closed => pushed ?_⟩
  have depth : (drained calls).2.transactionDepth = scopes.length + 1 + 1 := by
    rw [stands.depth, nested, List.length_cons, List.length_cons]
  have rolled : (drained calls).2.rollbackTransaction =
      { (drained calls).2 with
        transactionDepth := scopes.length + 1 } := by
    rw [RuntimeSession.rollbackTransaction, depth]
    rfl
  have returned : (drained (settled (calls ++
      [rollbackTransaction]) (scopes.length + 1))).1 =
      (drained calls).1 ++ ((EventScopes.drained calls).2.published ++
          (EventScopes.drained calls).2.staged) := by
    rw [← stands.published, ← stands.staged, settled, List.append_assoc,
      drained, gather_append]
    refine congrArg (_ ++ ·) ?_
    change (gather RuntimeSession.answer
      (drained calls).2.rollbackTransaction _).1 = _
    rw [rolled]
    exact RuntimeSession.gather_commits scopes.length rfl
  have meant : (EventScopes.drained (settled (calls ++
      [rollbackTransaction]) (scopes.length + 1))).1 =
      (EventScopes.drained calls).1 ++
        ((EventScopes.drained calls).2.published ++
          (outer :: scopes).reverse.flatten) := by
    rw [settled, List.append_assoc, EventScopes.drained, gather_append]
    refine congrArg (_ ++ ·) ?_
    change (gather EventScopes.answer ⟨(EventScopes.drained calls).2.published,
      (EventScopes.drained calls).2.scopes.tail⟩ _).1 = _
    rw [nested]
    exact EventScopes.gather_commits rfl
  rw [Exact, returned, meant, same] at closed
  have staged := List.append_cancel_left (List.append_cancel_left closed)
  rw [EventScopes.staged, nested] at staged
  simpa using staged

/-- At every point of the run the session has returned exactly what the scopes
let through, and would go on to do so if the open transactions were committed
now. This is so exactly if no nested scope was rolled back with events in it. -/
theorem published_events_are_committed_iff (calls : List SessionCall) :
    (∀ before, before <+: calls →
      Exact before ∧ ∀ commits, Exact (settled before commits)) ↔
      Undropped calls := by
  constructor
  · intro faithful
    induction calls using List.reverseRecOn with
    | nil =>
      intro before within
      exact absurd (List.prefix_nil.mp within) (by simp)
    | append_singleton calls call induction =>
      have earlier := induction fun before within =>
        faithful before (within.trans (List.prefix_append _ _))
      refine undropped_concat.mpr ⟨earlier, ?_⟩
      rintro rfl
      by_contra dropped
      obtain ⟨commits, parted⟩ := not_exact_of_dropped earlier dropped
      exact parted ((faithful _ (List.prefix_refl _)).2 commits)
  · intro undropped before within
    have earlier : Undropped before := fun first inside =>
      undropped first (inside.trans within)
    refine ⟨earlier.stands.1, fun commits => ?_⟩
    exact (earlier.append (by simp)).stands.1

/-- A nested scope is rolled back and the one around it committed. -/
theorem rolled_back_event_is_published :
    ¬ Exact [beginTransaction, beginTransaction,
      pushEvent (.runtimeLog "lost"), rollbackTransaction, commitTransaction,
      drainEvents] := by
  decide

end SessionCall

end Torchat
