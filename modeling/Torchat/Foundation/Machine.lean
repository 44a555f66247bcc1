import Mathlib.Logic.Basic

namespace Foundation

/-- A state machine driven by labels. A label carries everything the
environment decides: the input itself, clock readings, random draws, failures. -/
structure Machine (σ ℓ : Type) where
  init : σ
  enabled : σ → ℓ → Prop
  next : σ → ℓ → σ

namespace Machine

inductive Reachable (machine : Machine σ ℓ) : σ → Prop
  | init : Reachable machine machine.init
  | step (label : ℓ) :
      Reachable machine state → machine.enabled state label →
      Reachable machine (machine.next state label)

/-- The same machine with its runs cut down to the steps a condition allows. -/
def restrict (machine : Machine σ ℓ) (allowed : σ → ℓ → Prop) : Machine σ ℓ :=
  { machine with
    enabled := fun state label =>
      machine.enabled state label ∧ allowed state label }

def run (machine : Machine σ ℓ) (state : σ) (labels : List ℓ) : σ :=
  labels.foldl machine.next state

theorem run_append (machine : Machine σ ℓ) (state : σ) (labels rest : List ℓ) :
    machine.run state (labels ++ rest) =
      machine.run (machine.run state labels) rest :=
  List.foldl_append

theorem run_cons
    (machine : Machine σ ℓ) (state : σ) (label : ℓ) (rest : List ℓ) :
    machine.run state (label :: rest) =
      machine.run (machine.next state label) rest := rfl

def Admits (machine : Machine σ ℓ) : σ → List ℓ → Prop
  | _, [] => True
  | state, label :: rest =>
    machine.enabled state label ∧ machine.Admits (machine.next state label) rest

instance Admits.decidable (machine : Machine σ ℓ)
    [∀ state label, Decidable (machine.enabled state label)] :
    ∀ state labels, Decidable (machine.Admits state labels)
  | _, [] => isTrue trivial
  | state, label :: rest =>
    have := Admits.decidable machine (machine.next state label) rest
    inferInstanceAs (Decidable (machine.enabled state label ∧
      machine.Admits (machine.next state label) rest))

variable {machine : Machine σ ℓ}

theorem Reachable.run (reached : machine.Reachable state) (labels : List ℓ)
    (admitted : machine.Admits state labels) :
    machine.Reachable (machine.run state labels) := by
  induction labels generalizing state with
  | nil => exact reached
  | cons label rest induction =>
    exact induction (.step label reached admitted.1) admitted.2

theorem Reachable.invariant (reached : machine.Reachable state)
    (invariant : σ → Prop) (initially : invariant machine.init)
    (kept : ∀ state label,
      invariant state → machine.enabled state label →
      invariant (machine.next state label)) : invariant state := by
  induction reached with
  | init => exact initially
  | step label _ enabled induction => exact kept _ label induction enabled

theorem Admits.invariant (admitted : machine.Admits state labels)
    (invariant : σ → Prop)
    (kept : ∀ state label,
      invariant state → machine.enabled state label →
      invariant (machine.next state label)) (initially : invariant state) :
    invariant (machine.run state labels) := by
  induction labels generalizing state with
  | nil => exact initially
  | cons label rest induction =>
    exact induction admitted.2 (kept state label initially admitted.1)

theorem Reachable.of_admits (labels : List ℓ)
    (admitted : (machine.restrict allowed).Admits machine.init labels) :
    (machine.restrict allowed).Reachable (machine.run machine.init labels) :=
  Reachable.init.run labels admitted

theorem Reachable.of_restrict
    (reached : (machine.restrict allowed).Reachable state) :
    machine.Reachable state := by
  refine reached.invariant machine.Reachable .init ?_
  intro state label induction enabled
  exact .step label induction enabled.1

end Machine

def gather {σ ℓ ε : Type} (step : ℓ → σ → List ε × σ) (state : σ) :
    List ℓ → List ε × σ
  | [] => ([], state)
  | call :: rest =>
    let next := gather step (step call state).2 rest
    ((step call state).1 ++ next.1, next.2)

theorem gather_append (calls rest : List ℓ) :
    gather step state (calls ++ rest) = ((gather step state calls).1 ++
          (gather step (gather step state calls).2 rest).1,
        (gather step (gather step state calls).2 rest).2) := by
  induction calls generalizing state with
  | nil => rfl
  | cons call calls induction =>
    simp only [List.cons_append, gather, induction, List.append_assoc]

theorem gather_concat (calls : List ℓ) (call : ℓ) :
    gather step state (calls ++ [call]) = ((gather step state calls).1 ++
          (step call (gather step state calls).2).1,
        (step call (gather step state calls).2).2) := by
  rw [gather_append]
  simp only [gather, List.append_nil]

end Foundation
