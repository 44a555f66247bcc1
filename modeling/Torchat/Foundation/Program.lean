import Mathlib.Logic.Relation

namespace Foundation

theorem bind_eq_ok {first : Except ε α} :
    (first >>= next) = .ok result ↔
      ∃ value, first = .ok value ∧ next value = .ok result := by
  cases first with
  | error | ok => simp [bind, Except.bind]

theorem exists_of_mem_mapM {ε α β : Type} {f : α → Except ε β} {items : List α}
    {results : List β} (done : items.mapM f = .ok results) {result : β}
    (member : result ∈ results) : ∃ item ∈ items, f item = .ok result := by
  induction items generalizing results with
  | nil =>
    cases done
    cases member
  | cons item rest induction =>
    rw [List.mapM_cons] at done
    obtain ⟨first, mapped, done⟩ := bind_eq_ok.mp done
    obtain ⟨others, mappedRest, done⟩ := bind_eq_ok.mp done
    cases done
    rcases List.mem_cons.mp member with rfl | later
    · exact ⟨item, .head _, mapped⟩
    · obtain ⟨found, inside, same⟩ := induction mappedRest later
      exact ⟨found, .tail _ inside, same⟩

theorem mapM_ok_iff {ε α β : Type} {f : α → Except ε β} {items : List α} :
    (∃ results, items.mapM f = .ok results) ↔
      ∀ item ∈ items, ∃ result, f item = .ok result := by
  induction items with
  | nil => simp [pure, Except.pure]
  | cons item rest induction =>
    rw [List.mapM_cons, List.forall_mem_cons, ← induction]
    constructor
    · rintro ⟨results, done⟩
      obtain ⟨first, mapped, done⟩ := bind_eq_ok.mp done
      obtain ⟨others, mappedRest, _⟩ := bind_eq_ok.mp done
      exact ⟨⟨first, mapped⟩, others, mappedRest⟩
    · rintro ⟨⟨first, mapped⟩, others, mappedRest⟩
      refine ⟨first :: others, ?_⟩
      rw [mapped, mappedRest]
      rfl

theorem mem_of_mapM
    {ε α β : Type} {f : α → Except ε β} {items : List α} {results : List β}
    (done : items.mapM f = .ok results) {item : α} (member : item ∈ items)
    {result : β} (mapped : f item = .ok result) : result ∈ results := by
  induction items generalizing results with
  | nil => cases member
  | cons head rest induction =>
    rw [List.mapM_cons] at done
    obtain ⟨first, mappedFirst, done⟩ := bind_eq_ok.mp done
    obtain ⟨others, mappedRest, done⟩ := bind_eq_ok.mp done
    cases done
    rcases List.mem_cons.mp member with rfl | later
    · cases mappedFirst.symm.trans mapped
      exact .head _
    · exact .tail _ (induction mappedRest later)

theorem mapError_ok (rename : ε → ε') (value : α) :
    Except.mapError rename (.ok value) = .ok value := rfl

theorem mapError_error (rename : ε → ε') (error : ε) :
    (Except.mapError rename (.error error) : Except ε' α) =
      .error (rename error) := rfl

@[simp] theorem mapError_eq_ok {result : Except ε α} :
    result.mapError rename = .ok value ↔ result = .ok value := by
  cases result <;> simp [mapError_ok, mapError_error]

/-- How a call ends: with a value, with an error its caller sees, or with the
process gone, which no caller sees. -/
inductive Outcome (ε α : Type)
  | ok (value : α)
  | err (error : ε)
  | crash
  deriving DecidableEq

namespace Outcome

def attempt : Outcome ε α → Outcome ε (Except ε α)
  | ok value => ok (.ok value)
  | err error => ok (.error error)
  | crash => crash

def mapError (rename : ε → ε') : Outcome ε α → Outcome ε' α
  | ok value => ok value
  | err error => err (rename error)
  | crash => crash

def andThen : Outcome ε α → (α → Outcome ε β) → Outcome ε β
  | ok value, rest => rest value
  | err error, _ => err error
  | crash, _ => crash

def ofExcept : Except ε α → Outcome ε α
  | .ok value => ok value
  | .error error => err error

theorem andThen_eq_ok :
    outcome.andThen rest = ok result ↔
      ∃ value, outcome = ok value ∧ rest value = ok result := by
  cases outcome <;> simp [andThen]

theorem ofExcept_eq_ok : ofExcept result = ok value ↔ result = .ok value := by
  cases result <;> simp [ofExcept]

end Outcome

/-- A call over a state. Whatever it wrote before an error or a crash stays
written. -/
def Program (σ ε α : Type) : Type := σ → Outcome ε α × σ

namespace Program

def pure (value : α) : Program σ ε α := fun state => (.ok value, state)

def bind (program : Program σ ε α) (rest : α → Program σ ε β) :
    Program σ ε β := fun state =>
  match program state with
  | (.ok value, next) => rest value next
  | (.err error, next) => (.err error, next)
  | (.crash, next) => (.crash, next)

instance : Monad (Program σ ε) where
  pure := Program.pure
  bind := Program.bind

def fail (error : ε) : Program σ ε α := fun state => (.err error, state)

def read (view : σ → α) : Program σ ε α := fun state => (.ok (view state), state)

def modify (f : σ → σ) : Program σ ε Unit := fun state => (.ok (), f state)

def execute (f : σ → Except ε σ) : Program σ ε Unit := fun state =>
  match f state with
  | .ok next => (.ok (), next)
  | .error error => (.err error, state)

def executeReturning (f : σ → Except ε (α × σ)) : Program σ ε α := fun state =>
  match f state with
  | .ok (value, next) => (.ok value, next)
  | .error error => (.err error, state)

def ofExcept : Except ε α → Program σ ε α
  | .ok value => Program.pure value
  | .error error => fail error

def attempt (program : Program σ ε α) : Program σ ε (Except ε α) := fun state =>
  ((program state).1.attempt, (program state).2)

def forEach : List α → (α → Program σ ε Unit) → Program σ ε Unit
  | [], _ => Program.pure ()
  | item :: rest, body => Program.bind (body item) fun _ => forEach rest body

def zoom (get : τ → σ) (set : σ → τ → τ) (program : Program σ ε α) :
    Program τ ε α := fun state =>
  ((program (get state)).1, set (program (get state)).2 state)

def mapError (rename : ε → ε') (program : Program σ ε α) : Program σ ε' α :=
  fun state => ((program state).1.mapError rename, (program state).2)

/-! ## Running a program

How each way of building a program runs from a given state. -/

variable {program : Program σ ε α} {rest : α → Program σ ε β}

@[simp] theorem run_pure (value : α) (state : σ) :
    (Pure.pure value : Program σ ε α) state = (.ok value, state) := rfl

@[simp] theorem run_fail (error : ε) (state : σ) :
    (fail error : Program σ ε α) state = (.err error, state) := rfl

@[simp] theorem run_read (view : σ → α) (state : σ) :
    (read view : Program σ ε α) state = (.ok (view state), state) := rfl

@[simp] theorem run_modify (f : σ → σ) (state : σ) :
    (modify f : Program σ ε Unit) state = (.ok (), f state) := rfl

@[simp] theorem run_ofExcept_ok (value : α) (state : σ) :
    (ofExcept (.ok value) : Program σ ε α) state = (.ok value, state) := rfl

@[simp] theorem run_ofExcept_error (error : ε) (state : σ) :
    (ofExcept (.error error) : Program σ ε α) state = (.err error, state) := rfl

theorem run_bind (program : Program σ ε α) (rest : α → Program σ ε β)
    (state : σ) :
    (program >>= rest) state =
      match program state with
      | (.ok value, next) => rest value next
      | (.err error, next) => (.err error, next)
      | (.crash, next) => (.crash, next) := rfl

theorem run_bind_ok (ran : program state = (.ok value, next)) :
    (program >>= rest) state = rest value next := by
  rw [run_bind, ran]

theorem run_bind_err (ran : program state = (.err error, next)) :
    (program >>= rest) state = (.err error, next) := by
  rw [run_bind, ran]

theorem run_execute_ok (done : f state = .ok next) :
    (execute f : Program σ ε Unit) state = (.ok (), next) := by
  simp [execute, done]

theorem run_execute_error (failed : f state = .error error) :
    (execute f : Program σ ε Unit) state = (.err error, state) := by
  simp [execute, failed]

theorem execute_eq_ok
    (ran : (execute f : Program σ ε Unit) state = (.ok value, next)) :
    f state = .ok next := by
  unfold execute at ran
  split at ran
  · rename_i done
    cases ran
    exact done
  · cases ran

theorem executeReturning_eq_ok
    (ran : (executeReturning f : Program σ ε α) state = (.ok value, next)) :
    f state = .ok (value, next) := by
  unfold executeReturning at ran
  split at ran
  · rename_i done
    cases ran
    exact done
  · cases ran

theorem run_attempt_ok (ran : program state = (.ok value, next)) :
    program.attempt state = (.ok (.ok value), next) := by
  rw [attempt, ran]
  rfl

theorem run_attempt_err (ran : program state = (.err error, next)) :
    program.attempt state = (.ok (.error error), next) := by
  rw [attempt, ran]
  rfl

@[simp] theorem fail_bind (error : ε) (rest : α → Program σ ε β) :
    (fail error >>= rest) = (fail error : Program σ ε β) := rfl

@[simp] theorem ofExcept_ok_bind (value : α) (rest : α → Program σ ε β) :
    ((ofExcept (.ok value) : Program σ ε α) >>= rest) = rest value := rfl

@[simp] theorem ofExcept_error_bind (error : ε) (rest : α → Program σ ε β) :
    ((ofExcept (.error error) : Program σ ε α) >>= rest) = fail error := rfl

theorem bind_end (property : σ → Prop) (stopped : property (program state).2)
    (continued : ∀ value next, program state = (.ok value, next) →
      property (rest value next).2) :
    property ((program >>= rest) state).2 := by
  rw [run_bind]
  rcases ran : program state with ⟨outcome, next⟩
  rw [ran] at stopped
  cases outcome with
  | ok value => exact continued value next ran
  | err | crash => exact stopped

theorem bind_pure_end (program : Program σ ε α) (f : α → β) (state : σ) :
    ((program >>= fun value => Pure.pure (f value)) state).2 =
      (program state).2 := by
  rw [run_bind]
  rcases program state with ⟨outcome, next⟩
  cases outcome <;> rfl

theorem bind_ok (ran : (program >>= rest) state = (.ok result, final)) :
    ∃ value next, program state = (.ok value, next) ∧
      rest value next = (.ok result, final) := by
  rw [run_bind] at ran
  rcases first : program state with ⟨outcome, next⟩
  rw [first] at ran
  cases outcome with
  | ok value => exact ⟨value, next, rfl, ran⟩
  | err | crash => cases ran

theorem bind_pure_ok {f : α → β}
    (ran : (program >>= fun value => Pure.pure (f value)) state =
      (.ok result, final)) :
    ∃ value, program state = (.ok value, final) ∧ f value = result := by
  obtain ⟨value, next, began, ended⟩ := bind_ok ran
  cases ended
  exact ⟨value, began, rfl⟩

theorem bind_cases (ran : (program >>= rest) state = (outcome, final)) :
    (∃ value next, program state = (.ok value, next) ∧
      rest value next = (outcome, final)) ∨
    (∃ error, program state = (.err error, final) ∧ outcome = .err error) ∨
    (program state = (.crash, final) ∧ outcome = .crash) := by
  rw [run_bind] at ran
  rcases first : program state with ⟨_ | _ | _, next⟩
  · rw [first] at ran
    exact .inl ⟨_, next, rfl, ran⟩
  · rw [first] at ran
    cases ran
    exact .inr (.inl ⟨_, rfl, rfl⟩)
  · rw [first] at ran
    cases ran
    exact .inr (.inr ⟨rfl, rfl⟩)

theorem attempt_bind_cases {rest : Except ε α → Program σ ε β}
    (ran : (program.attempt >>= rest) state = (outcome, final)) :
    (∃ value next, program state = (.ok value, next) ∧
      rest (.ok value) next = (outcome, final)) ∨
    (∃ error next, program state = (.err error, next) ∧
      rest (.error error) next = (outcome, final)) ∨
    (program state = (.crash, final) ∧ outcome = .crash) := by
  rcases first : program state with ⟨_ | _ | _, next⟩
  · rw [run_bind_ok (run_attempt_ok first)] at ran
    exact .inl ⟨_, next, rfl, ran⟩
  · rw [run_bind_ok (run_attempt_err first)] at ran
    exact .inr (.inl ⟨_, next, rfl, ran⟩)
  · rw [run_bind, attempt, first] at ran
    cases ran
    exact .inr (.inr ⟨rfl, rfl⟩)

/-! ## Runs that get through

`program.Arrives state post` says that the run from `state` succeeds, with an
answer and an end for which `post` holds. -/

def Arrives
    (program : Program σ ε α) (state : σ) (post : α → σ → Prop) : Prop :=
  ∃ value next, program state = (.ok value, next) ∧ post value next

namespace Arrives

theorem bind
    (first : program.Arrives state fun value next =>
      (rest value).Arrives next after) :
    (program >>= rest).Arrives state after := by
  obtain ⟨value, next, ran, result, final, followed, holds⟩ := first
  exact ⟨result, final, by rw [run_bind_ok ran, followed], holds⟩

theorem mono (arrives : program.Arrives state post)
    (implied : ∀ value next, post value next → weaker value next) :
    program.Arrives state weaker := by
  obtain ⟨value, next, ran, holds⟩ := arrives
  exact ⟨value, next, ran, implied value next holds⟩

theorem pure (holds : post value state) :
    (Pure.pure value : Program σ ε α).Arrives state post :=
  ⟨value, state, rfl, holds⟩

end Arrives

/-! ## Frames

`program.Keeps relation` says that a run leaves its start and end states
related, however it ends. Both are classes: the frame of a program built from
framed parts is found by instance search. -/

/-- The relations a frame may be made of. -/
class Frame (relation : σ → σ → Prop) : Prop where
  refl : ∀ state, relation state state
  trans : ∀ {first second third},
    relation first second → relation second third → relation first third

instance : Frame (@Eq σ) := ⟨fun _ => rfl, Eq.trans⟩

theorem Frame.of_eq (view : σ → α) :
    Frame fun before after : σ => view after = view before where
  refl _ := rfl
  trans first second := second.trans first

class Keeps (program : Program σ ε α) (relation : σ → σ → Prop) : Prop where
  run : ∀ state, relation state (program state).2

theorem kept_end [kept : program.Keeps relation]
    (ran : program state = (outcome, final)) : relation state final := by
  have related := kept.run state
  rwa [ran] at related

theorem kept_ok (relation : σ → σ → Prop) [kept : program.Keeps relation]
    (ran : (program >>= rest) state = (.ok result, final)) :
    ∃ value next, program state = (.ok value, next) ∧ relation state next ∧
      rest value next = (.ok result, final) := by
  obtain ⟨value, next, began, followed⟩ := bind_ok ran
  exact ⟨value, next, began, kept_end began, followed⟩

namespace Keeps

variable {relation : σ → σ → Prop}

theorem modify (kept : ∀ state, relation state (f state)) :
    (modify f : Program σ ε Unit).Keeps relation :=
  ⟨kept⟩

theorem attempt (kept : program.Keeps relation) :
    program.attempt.Keeps relation :=
  ⟨kept.run⟩

theorem mapError (rename : ε → ε') (kept : program.Keeps relation) :
    (program.mapError rename).Keeps relation :=
  ⟨kept.run⟩

theorem zoom (kept : program.Keeps relation)
    (lifted : ∀ state next,
      relation (part state) next → outer state (put next state)) :
    (program.zoom part put).Keeps outer :=
  ⟨fun state => lifted state _ (kept.run (part state))⟩

theorem mono (kept : program.Keeps relation)
    (implied : ∀ {before after}, relation before after → weaker before after) :
    program.Keeps weaker :=
  ⟨fun state => implied (kept.run state)⟩

variable [frame : Frame relation]

theorem bind_answered (first : program.Keeps relation)
    (second : ∀ value next, program state = (.ok value, next) →
      (rest value).Keeps relation) :
    relation state ((program >>= rest) state).2 := by
  have started := first.run state
  refine bind_end (relation state) started fun value next ran => ?_
  rw [ran] at started
  exact frame.trans started ((second value next ran).run next)

theorem bind (first : program.Keeps relation)
    (second : ∀ value, (rest value).Keeps relation) :
    (program >>= rest).Keeps relation :=
  ⟨fun _ => bind_answered first fun value _ _ => second value⟩

theorem next [first : program.Keeps relation]
    (second : ∀ value, (rest value).Keeps relation) :
    (program >>= rest).Keeps relation :=
  first.bind second

theorem execute
    (kept : ∀ state next, f state = .ok next → relation state next) :
    (execute f : Program σ ε Unit).Keeps relation := by
  refine ⟨fun state => ?_⟩
  unfold Program.execute
  split
  · rename_i next done
    exact kept state next done
  · exact frame.refl state

theorem total {f : σ → σ} (kept : ∀ state, relation state (f state)) :
    (Program.execute fun state => .ok (f state) :
      Program σ ε Unit).Keeps relation :=
  execute fun state _ done => Except.ok.inj done ▸ kept state

theorem executeReturning
    (kept : ∀ state value next,
      f state = .ok (value, next) → relation state next) :
    (executeReturning f : Program σ ε α).Keeps relation := by
  refine ⟨fun state => ?_⟩
  unfold Program.executeReturning
  split
  · rename_i value next done
    exact kept state value next done
  · exact frame.refl state

instance of_pure (value : α) :
    (Pure.pure value : Program σ ε α).Keeps relation :=
  ⟨frame.refl⟩

instance of_program_pure (value : α) :
    (Program.pure value : Program σ ε α).Keeps relation :=
  ⟨frame.refl⟩

instance of_fail (error : ε) : (fail error : Program σ ε α).Keeps relation :=
  ⟨frame.refl⟩

instance (view : σ → α) : (read view : Program σ ε α).Keeps relation :=
  ⟨frame.refl⟩

instance (result : Except ε α) :
    (ofExcept result : Program σ ε α).Keeps relation := by
  cases result with
  | ok value => exact of_program_pure value
  | error error => exact of_fail error

instance [first : program.Keeps relation]
    [second : ∀ value, (rest value).Keeps relation] :
    (program >>= rest).Keeps relation :=
  bind first second

instance [kept : program.Keeps relation] : program.attempt.Keeps relation :=
  attempt kept

instance (condition : Prop) [Decidable condition] (yes no : Program σ ε α)
    [first : yes.Keeps relation] [second : no.Keeps relation] :
    (if condition then yes else no).Keeps relation := by
  split
  · exact first
  · exact second

theorem forEach {items : List α} {body : α → Program σ ε Unit}
    (kept : ∀ item ∈ items, (body item).Keeps relation) :
    (forEach items body).Keeps relation := by
  induction items with
  | nil => exact of_program_pure ()
  | cons item rest induction =>
    exact bind (kept item (.head _)) fun _ =>
      induction fun later member => kept later (.tail _ member)

instance (items : List α) (body : α → Program σ ε Unit)
    [kept : ∀ item, (body item).Keeps relation] :
    (Program.forEach items body).Keeps relation :=
  forEach fun item _ => kept item

end Keeps

/-! ## Properties that last

`program.Upholds property` says that a run which begins with the property ends
with it, unless the program is taken down on the way. -/

class Upholds (program : Program σ ε α) (property : σ → Prop) : Prop where
  run : ∀ state, property state → (program state).1 ≠ .crash →
    property (program state).2

namespace Upholds

theorem of_keeps (kept : program.Keeps relation)
    (lasting : ∀ {before after}, relation before after → property before →
      property after) : program.Upholds property :=
  ⟨fun state holds _ => lasting (kept.run state) holds⟩

theorem bind (first : program.Upholds property)
    (second : ∀ value, (rest value).Upholds property) :
    (program >>= rest).Upholds property := by
  refine ⟨fun state holds finished => ?_⟩
  have started := first.run state holds
  rw [run_bind] at finished ⊢
  rcases ran : program state with ⟨_ | _ | _, next⟩
  · rw [ran] at finished started
    exact (second _).run next (started (by simp)) finished
  · rw [ran] at started
    exact started (by simp)
  · rw [ran] at finished
    exact absurd rfl finished

instance of_eq [kept : program.Keeps (@Eq σ)] : program.Upholds property :=
  of_keeps kept fun same holds => same ▸ holds

instance [first : program.Upholds property]
    [second : ∀ value, (rest value).Upholds property] :
    (program >>= rest).Upholds property :=
  bind first second

instance [upheld : program.Upholds property] :
    program.attempt.Upholds property := by
  refine ⟨fun state holds finished =>
    upheld.run state holds fun crashed => finished ?_⟩
  simp [attempt, crashed, Outcome.attempt]

theorem forEach {items : List α} {body : α → Program σ ε Unit}
    (upheld : ∀ item ∈ items, (body item).Upholds property) :
    (forEach items body).Upholds property := by
  induction items with
  | nil => exact ⟨fun _ holds _ => holds⟩
  | cons item rest induction =>
    exact bind (upheld item (.head _)) fun _ =>
      induction fun later member => upheld later (.tail _ member)

end Upholds

end Program

export Program (Frame attempt_bind_cases bind_cases bind_end bind_ok
  bind_pure_end bind_pure_ok execute executeReturning fail_bind forEach
  kept_end kept_ok ofExcept ofExcept_error_bind ofExcept_ok_bind
  run_attempt_err run_bind run_bind_err run_bind_ok run_execute_ok run_modify
  run_ofExcept_error run_ofExcept_ok run_pure run_read zoom)

namespace Frame

export Program.Frame (refl trans)

end Frame

end Foundation
