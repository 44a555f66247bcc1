import Mathlib.Data.List.Induction
import Torchat.Foundation.Machine
import Torchat.Domain.Vocabulary
import Torchat.Relay.Protocol

namespace Torchat.Crypto

open Foundation

inductive MlsRecoveryState
  | ready
  | rePairRequired

structure AnchoredMlsCheckpoint where
  stateVersion : Nat
  epoch : Nat
  snapshotHash : Bytes
  deriving DecidableEq

/-- A checkpoint without a hash is what a secure store gives that only knows
epochs. -/
def validateCheckpoint (anchored : Option AnchoredMlsCheckpoint)
    (candidate : AnchoredMlsCheckpoint) : MlsRecoveryState :=
  match anchored with
  | none => .ready
  | some anchored =>
    if anchored.snapshotHash = [] then
      if candidate.epoch < anchored.epoch then .rePairRequired else .ready
    else if candidate.stateVersion < anchored.stateVersion ∨
        (candidate.stateVersion = anchored.stateVersion ∧
          candidate.snapshotHash ≠ anchored.snapshotHash) then
      .rePairRequired
    else
      .ready

structure MlsEpochAnchor (σ ε : Type) where
  highestCheckpoint :
    InstallationId → σ → Except ε (Option AnchoredMlsCheckpoint)
  recordCheckpoint : InstallationId → AnchoredMlsCheckpoint → σ → Except ε σ

def validateSnapshotCheckpoint (anchor : MlsEpochAnchor σ ε)
    (conversationId : InstallationId) (candidate : AnchoredMlsCheckpoint)
    (store : σ) : Except ε (MlsRecoveryState × σ) := do
  let anchored ← anchor.highestCheckpoint conversationId store
  match validateCheckpoint anchored candidate with
  | .rePairRequired => return (.rePairRequired, store)
  | .ready =>
    let store ← anchor.recordCheckpoint conversationId candidate store
    return (.ready, store)

/-- The store keeps the checkpoint that was recorded last and returns it. -/
structure MlsEpochAnchor.Keeps
    (anchor : MlsEpochAnchor σ ε) (conversationId : InstallationId) : Prop where
  reads : ∀ store, ∃ anchored,
    anchor.highestCheckpoint conversationId store = .ok anchored
  records : ∀ checkpoint store, ∃ after,
    anchor.recordCheckpoint conversationId checkpoint store = .ok after ∧
      anchor.highestCheckpoint conversationId after = .ok (some checkpoint)

/-! ## Sequences of candidates -/

structure Validation (σ ε : Type) where
  candidate : AnchoredMlsCheckpoint
  before : σ
  answer : Except ε MlsRecoveryState
  after : σ

namespace Validation

def Accepted (validation : Validation σ ε) : Prop :=
  validation.answer = .ok .ready

structure Guards (earlier later : Validation σ ε) : Prop where
  ordered : later.Accepted →
    earlier.candidate.stateVersion ≤ later.candidate.stateVersion
  same : later.Accepted →
    earlier.candidate.stateVersion = later.candidate.stateVersion →
    earlier.candidate.snapshotHash = later.candidate.snapshotHash
  refused : later.candidate.stateVersion < earlier.candidate.stateVersion →
    later.answer = .ok .rePairRequired ∧ later.after = later.before

def RollbackFree (log : List (Validation σ ε)) : Prop :=
  log.Pairwise fun earlier later => earlier.Accepted → earlier.Guards later

end Validation

section

variable (anchor : MlsEpochAnchor σ ε) (conversationId : InstallationId)

def validation (candidate : AnchoredMlsCheckpoint) (store : σ) :
    Validation σ ε :=
  match validateSnapshotCheckpoint anchor conversationId candidate store with
  | .ok (answer, after) => ⟨candidate, store, .ok answer, after⟩
  | .error error => ⟨candidate, store, .error error, store⟩

def validations (store : σ) (candidates : List AnchoredMlsCheckpoint) :
    List (Validation σ ε) × σ :=
  gather (fun candidate store =>
    ([validation anchor conversationId candidate store],
      (validation anchor conversationId candidate store).after))
    store candidates

end

theorem validation_candidate :
    (validation anchor conversationId candidate store).candidate = candidate := by
  unfold validation
  split
  · rfl
  · rfl

theorem validation_before :
    (validation anchor conversationId candidate store).before = store := by
  unfold validation
  split
  · rfl
  · rfl

theorem validation_cases
    (keeps : anchor.Keeps conversationId) (candidate : AnchoredMlsCheckpoint)
    (found : anchor.highestCheckpoint conversationId store = .ok anchored) :
    (validateCheckpoint anchored candidate = .rePairRequired ∧
      validation anchor conversationId candidate store =
        ⟨candidate, store, .ok .rePairRequired, store⟩) ∨
    ∃ after, validateCheckpoint anchored candidate = .ready ∧
      validation anchor conversationId candidate store =
        ⟨candidate, store, .ok .ready, after⟩ ∧
      anchor.highestCheckpoint conversationId after = .ok (some candidate) := by
  cases judged : validateCheckpoint anchored candidate with
  | rePairRequired =>
    refine .inl ⟨rfl, ?_⟩
    have called : validateSnapshotCheckpoint anchor conversationId candidate
        store = .ok (.rePairRequired, store) := by
      simp only [validateSnapshotCheckpoint, found, bind, Except.bind, judged]
      rfl
    rw [validation, called]
  | ready =>
    obtain ⟨after, recorded, kept⟩ := keeps.records candidate store
    refine .inr ⟨after, rfl, ?_, kept⟩
    have called : validateSnapshotCheckpoint anchor conversationId candidate
        store = .ok (.ready, after) := by
      simp only [validateSnapshotCheckpoint, found, bind, Except.bind, judged,
        recorded]
      rfl
    rw [validation, called]

theorem validations_concat :
    validations anchor conversationId store (candidates ++ [candidate]) =
      ((validations anchor conversationId store candidates).1 ++
          [validation anchor conversationId candidate
            (validations anchor conversationId store candidates).2],
        (validation anchor conversationId candidate
          (validations anchor conversationId store candidates).2).after) :=
  gather_concat candidates candidate

theorem validateCheckpoint_of_hash (hashed : anchored.snapshotHash ≠ []) :
    validateCheckpoint (some anchored) candidate = .ready ↔
      anchored.stateVersion ≤ candidate.stateVersion ∧
        (anchored.stateVersion = candidate.stateVersion →
          anchored.snapshotHash = candidate.snapshotHash) := by
  simp only [validateCheckpoint, if_neg hashed]
  split
  · rename_i refused
    refine iff_of_false nofun ?_
    rintro ⟨ordered, same⟩
    rcases refused with older | ⟨equal, other⟩
    · omega
    · exact other (same equal.symm).symm
  · rename_i passed
    rw [not_or, not_and, not_ne_iff] at passed
    refine iff_of_true rfl ⟨Nat.not_lt.mp passed.1, fun equal => ?_⟩
    exact (passed.2 equal.symm).symm

def Covered (anchor : MlsEpochAnchor σ ε) (conversationId : InstallationId)
    (store : σ) (log : List (Validation σ ε)) : Prop :=
  ∀ earlier ∈ log, earlier.Accepted → ∃ top,
    anchor.highestCheckpoint conversationId store = .ok (some top) ∧
      top.snapshotHash ≠ [] ∧
      earlier.candidate.stateVersion ≤ top.stateVersion ∧
      (earlier.candidate.stateVersion = top.stateVersion →
        earlier.candidate.snapshotHash = top.snapshotHash)

theorem Covered.guards (keeps : anchor.Keeps conversationId)
    (covered : Covered anchor conversationId store log) (member : earlier ∈ log)
    (accepted : earlier.Accepted) (candidate : AnchoredMlsCheckpoint) :
    earlier.Guards (validation anchor conversationId candidate store) := by
  obtain ⟨top, found, hashed, ordered, same⟩ := covered earlier member accepted
  rcases validation_cases keeps candidate found with
    ⟨judged, called⟩ | ⟨after, judged, called, kept⟩
  · rw [called]
    exact ⟨nofun, nofun, fun _ => ⟨rfl, rfl⟩⟩
  · obtain ⟨above, equal⟩ := (validateCheckpoint_of_hash hashed).mp judged
    rw [called]
    refine ⟨fun _ => ordered.trans above, fun _ level => ?_, fun older => ?_⟩
    · change earlier.candidate.stateVersion = candidate.stateVersion at level
      rw [same (by omega)]
      exact equal (by omega)
    · change candidate.stateVersion < earlier.candidate.stateVersion at older
      omega

theorem Covered.concat (keeps : anchor.Keeps conversationId)
    (covered : Covered anchor conversationId store log)
    (hashed : (validation anchor conversationId candidate store).Accepted →
      candidate.snapshotHash ≠ []) :
    Covered anchor conversationId
      (validation anchor conversationId candidate store).after
      (log ++ [validation anchor conversationId candidate store]) := by
  intro earlier member accepted
  have guarded := fun (inside : earlier ∈ log) =>
    covered.guards keeps inside accepted candidate
  obtain ⟨anchored, found⟩ := keeps.reads store
  rcases validation_cases keeps candidate found with
    ⟨_, called⟩ | ⟨after, _, called, kept⟩
  · rw [called] at member ⊢
    rcases List.mem_append.mp member with inside | last
    · exact covered earlier inside accepted
    · rw [List.mem_singleton.mp last] at accepted
      cases accepted
  · rw [called] at member hashed guarded ⊢
    refine ⟨candidate, kept, hashed rfl, ?_⟩
    rcases List.mem_append.mp member with inside | last
    · exact ⟨(guarded inside).ordered rfl, (guarded inside).same rfl⟩
    · rw [List.mem_singleton.mp last]
      exact ⟨le_rfl, fun _ => rfl⟩

theorem validations_rollbackFree (keeps : anchor.Keeps conversationId)
    (hashed : ∀ earlier ∈ (validations anchor conversationId store candidates).1,
      earlier.Accepted → earlier.candidate.snapshotHash ≠ []) :
    Validation.RollbackFree
        (validations anchor conversationId store candidates).1 ∧
      Covered anchor conversationId
        (validations anchor conversationId store candidates).2
        (validations anchor conversationId store candidates).1 := by
  induction candidates using List.reverseRecOn with
  | nil => exact ⟨.nil, nofun⟩
  | append_singleton candidates candidate induction =>
    rw [validations_concat] at hashed ⊢
    obtain ⟨free, covered⟩ := induction fun earlier member =>
      hashed earlier (List.mem_append_left _ member)
    refine ⟨List.pairwise_append.mpr ⟨free, List.pairwise_singleton _ _, ?_⟩,
      covered.concat keeps ?_⟩
    · intro earlier member later last accepted
      rw [List.mem_singleton.mp last]
      exact covered.guards keeps member accepted _
    · intro accepted
      have last := hashed _ (List.mem_append_right _ (.head _)) accepted
      rwa [validation_candidate] at last

theorem exists_prefix_of_mem
    (member : call ∈ (validations anchor conversationId store candidates).1) :
    ∃ before, before ++ [call.candidate] <+: candidates ∧
      call = validation anchor conversationId call.candidate
        (validations anchor conversationId store before).2 := by
  induction candidates using List.reverseRecOn with
  | nil => cases member
  | append_singleton candidates candidate induction =>
    rw [validations_concat] at member
    rcases List.mem_append.mp member with inside | last
    · obtain ⟨before, within, made⟩ := induction inside
      exact ⟨before, within.trans (List.prefix_append _ _), made⟩
    · rw [List.mem_singleton.mp last, validation_candidate]
      exact ⟨candidates, List.prefix_refl _, rfl⟩

theorem accepted_iff_ready (keeps : anchor.Keeps conversationId)
    (member : call ∈ (validations anchor conversationId store candidates).1)
    (found : anchor.highestCheckpoint conversationId call.before =
      .ok anchored) :
    call.Accepted ↔ validateCheckpoint anchored call.candidate = .ready := by
  obtain ⟨before, _, made⟩ := exists_prefix_of_mem member
  have answer := congrArg Validation.answer made
  rw [made, validation_before] at found
  unfold Validation.Accepted
  rcases validation_cases keeps call.candidate found with
    ⟨judged, called⟩ | ⟨after, judged, called, _⟩
  · rw [answer, called, judged]
    simp
  · rw [answer, called, judged]
    simp

theorem validations_of_before (within : before <+: candidates) :
    (validations anchor conversationId store before).1 <+:
      (validations anchor conversationId store candidates).1 := by
  obtain ⟨rest, rfl⟩ := within
  exact ⟨_, (congrArg Prod.fst (gather_append before rest)).symm⟩

def AnchoredMlsCheckpoint.behind (accepted : AnchoredMlsCheckpoint) :
    AnchoredMlsCheckpoint :=
  ⟨0, accepted.epoch, [0]⟩

theorem not_rollbackFree_of_unhashed (keeps : anchor.Keeps conversationId)
    (accepted : (validation anchor conversationId candidate
      (validations anchor conversationId store candidates).2).Accepted)
    (unhashed : candidate.snapshotHash = []) :
    ¬ Validation.RollbackFree (validations anchor conversationId store
      (candidates ++ [candidate] ++ [candidate.behind])).1 := by
  intro free
  obtain ⟨anchored, found⟩ := keeps.reads
    (validations anchor conversationId store candidates).2
  rcases validation_cases keeps candidate found with
    ⟨_, called⟩ | ⟨after, _, called, kept⟩
  · rw [called] at accepted
    cases accepted
  · rw [validations_concat, validations_concat, called] at free
    have judged : validateCheckpoint (some candidate) candidate.behind =
        .ready := by
      simp [validateCheckpoint, unhashed, AnchoredMlsCheckpoint.behind]
    rcases validation_cases keeps candidate.behind kept with
      ⟨refused, _⟩ | ⟨later, _, passed, _⟩
    · cases judged.symm.trans refused
    · have guards := (List.pairwise_append.mp free).2.2 _
        (List.mem_append_right _ (.head _)) _ (.head _) rfl
      rw [passed] at guards
      have level : candidate.stateVersion = 0 :=
        Nat.le_zero.mp (guards.ordered rfl)
      have same := guards.same rfl level
      rw [unhashed] at same
      cases same

/-- At every point of a sequence of candidates, whatever candidate comes next, no
accepted one goes back behind an earlier one. This is so exactly if every
candidate that the checkpoint anchored before it lets pass has a hash. -/
theorem rollback_is_detected_iff
    (keeps : anchor.Keeps conversationId) (store : σ)
    (candidates : List AnchoredMlsCheckpoint) :
    (∀ before, before <+: candidates → ∀ next, Validation.RollbackFree
      (validations anchor conversationId store (before ++ [next])).1) ↔
    ∀ call ∈ (validations anchor conversationId store candidates).1,
      ∀ anchored,
        anchor.highestCheckpoint conversationId call.before = .ok anchored →
        validateCheckpoint anchored call.candidate = .ready →
        call.candidate.snapshotHash ≠ [] := by
  constructor
  · intro free call member anchored found judged unhashed
    have accepted := (accepted_iff_ready keeps member found).mpr judged
    obtain ⟨before, within, made⟩ := exists_prefix_of_mem member
    rw [made] at accepted
    exact not_rollbackFree_of_unhashed keeps accepted unhashed
      (free _ within call.candidate.behind)
  · intro hashed before within next
    have accepted : ∀ call ∈ (validations anchor conversationId store before).1,
        call.Accepted → call.candidate.snapshotHash ≠ [] := by
      intro call inside passed
      have member := (validations_of_before within).subset inside
      obtain ⟨anchored, found⟩ := keeps.reads call.before
      exact hashed call member anchored found
        ((accepted_iff_ready keeps member found).mp passed)
    obtain ⟨free, covered⟩ := validations_rollbackFree keeps accepted
    rw [validations_concat]
    refine List.pairwise_append.mpr ⟨free, List.pairwise_singleton _ _, ?_⟩
    intro earlier member later last accepted
    rw [List.mem_singleton.mp last]
    exact covered.guards keeps member accepted _

def MlsEpochAnchor.lastRecorded :
    MlsEpochAnchor (InstallationId → Option AnchoredMlsCheckpoint) Empty where
  highestCheckpoint conversationId store := .ok (store conversationId)
  recordCheckpoint conversationId checkpoint store :=
    .ok fun other => if other = conversationId then some checkpoint else store other

theorem MlsEpochAnchor.lastRecorded_keeps (conversationId : InstallationId) :
    MlsEpochAnchor.lastRecorded.Keeps conversationId where
  reads store := ⟨store conversationId, rfl⟩
  records checkpoint store := by
    refine ⟨_, rfl, ?_⟩
    change Except.ok (if conversationId = conversationId then _ else _) = _
    rw [if_pos rfl]

theorem hashed_candidates_detect_rollback :
    MlsEpochAnchor.lastRecorded.Keeps "contact" ∧
      ∀ before, before <+: [⟨1, 0, [1]⟩, ⟨2, 0, [2]⟩] → ∀ next,
        Validation.RollbackFree (validations MlsEpochAnchor.lastRecorded "contact"
          (fun _ => none) (before ++ [next])).1 := by
  refine ⟨MlsEpochAnchor.lastRecorded_keeps "contact", ?_⟩
  refine (rollback_is_detected_iff
    (MlsEpochAnchor.lastRecorded_keeps "contact") _ _).mpr ?_
  intro earlier member _ _ _
  obtain ⟨before, within, _⟩ := exists_prefix_of_mem member
  have listed : earlier.candidate ∈ [_, _] := within.subset (by simp)
  rcases List.mem_pair.mp listed with first | second
  · rw [first]
    nofun
  · rw [second]
    nofun

/-- A candidate without a hash opens the way for an older one. -/
theorem unhashed_candidate_lets_an_older_one_pass :
    ¬ Validation.RollbackFree (validations MlsEpochAnchor.lastRecorded "contact"
      (fun _ => none) [⟨5, 0, [1]⟩, ⟨6, 0, []⟩, ⟨1, 0, [2]⟩]).1 := by
  intro free
  have guards := List.rel_of_pairwise_cons free (.tail _ (.head _)) rfl
  have ordered : 5 ≤ 1 := guards.ordered rfl
  omega

end Torchat.Crypto
