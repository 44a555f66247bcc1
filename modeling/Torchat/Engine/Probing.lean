import Torchat.Domain.Vocabulary
import Mathlib.Algebra.Group.Nat.Defs
import Mathlib.Logic.Function.Basic

namespace Torchat

inductive ProbeKind
  | engine
  | onionService
  | contactPeer
  | contactPresence
  | contactFocus
  | peerEndpoint
  | capability
  deriving DecidableEq

structure ProbeKey where
  kind : ProbeKind
  targetId : Option String
  deriving DecidableEq

def ProbeKey.contact (contactId : InstallationId) : ProbeKey :=
  ⟨.contactPeer, some contactId⟩

def ProbeKey.contactPresence (contactId : InstallationId) : ProbeKey :=
  ⟨.contactPresence, some contactId⟩

inductive ProbeStatus
  | unknown
  | checking
  | online
  | offline
  | degraded
  | stale
  deriving DecidableEq

/-- Instants and durations count nanoseconds. -/
structure ProbeState where
  status : ProbeStatus
  nextCheckAt : Nat
  consecutiveFailures : Nat
  inFlightUntil : Option Nat

def maxDuration : Nat := 2 ^ 64 * 10 ^ 9 - 1

def saturatingMul (duration factor : Nat) : Nat :=
  min (duration * factor) maxDuration

namespace ProbeState

def new (now : Nat) : ProbeState := ⟨.unknown, now, 0, none⟩

def activelyChecking (state : ProbeState) (now : Nat) : Bool :=
  state.status = .checking && state.inFlightUntil.any (now < ·)

def due (state : ProbeState) (now : Nat) : Bool :=
  !(now < state.nextCheckAt || state.activelyChecking now)

def claimed (state : ProbeState) (now timeout : Nat) : ProbeState :=
  { state with status := .checking, inFlightUntil := some (now + timeout) }

def recorded (state : ProbeState) (now : Nat) (status : ProbeStatus)
    (baseInterval : Nat) : ProbeState :=
  let failures :=
    match status with
    | .online | .degraded => 0
    | .offline => min (state.consecutiveFailures + 1) (2 ^ 32 - 1)
    | _ => state.consecutiveFailures
  { status
    nextCheckAt := now + saturatingMul baseInterval (1 <<< min failures 4)
    consecutiveFailures := failures
    inFlightUntil := none }

variable {state : ProbeState}

theorem due_iff :
    state.due now = true ↔ state.nextCheckAt ≤ now ∧
      (state.status = .checking → ∀ ends ∈ state.inFlightUntil, ends ≤ now) := by
  cases flying : state.inFlightUntil <;>
    simp [due, activelyChecking, flying, ← imp_iff_not_or]

theorem due_mono (due : state.due now = true) (ordered : now ≤ later) :
    state.due later = true := by
  rw [due_iff] at due ⊢
  exact ⟨due.1.trans ordered, fun checking ends flying =>
    (due.2 checking ends flying).trans ordered⟩

theorem due_claimed_iff (due : state.due now = true) (ordered : now ≤ later) :
    (state.claimed now timeout).due later = true ↔ now + timeout ≤ later := by
  have passed := (due_iff.mp due).1.trans ordered
  simp [due_iff, claimed, passed]

/-- The probe is claimed until `deadline` at least. -/
def Held (deadline : Nat) (state : ProbeState) : Prop :=
  state.status = .checking ∧ ∃ ends ∈ state.inFlightUntil, deadline ≤ ends

theorem Held.elapsed (held : state.Held deadline) (due : state.due now = true) :
    deadline ≤ now := by
  obtain ⟨checking, ends, flying, later⟩ := held
  exact later.trans ((due_iff.mp due).2 checking ends flying)

end ProbeState

abbrev ProbeCoordinator := ProbeKey → Option ProbeState

namespace ProbeCoordinator

def ensure (key : ProbeKey) (now : Nat) (coordinator : ProbeCoordinator) :
    ProbeCoordinator :=
  Function.update coordinator key ((coordinator key).getD (.new now))

def requestNow (key : ProbeKey) (now : Nat) (coordinator : ProbeCoordinator) :
    ProbeCoordinator :=
  Function.update coordinator key (some
    { (coordinator key).getD (.new now) with nextCheckAt := now })

/-- The keys handed out, and the coordinator that has claimed them. -/
def beginDueWithTimeout (now timeout : Nat) (coordinator : ProbeCoordinator) :
    (ProbeKey → Bool) × ProbeCoordinator :=
  (fun key => (coordinator key).any (·.due now),
    fun key => (coordinator key).map fun state =>
      if state.due now then state.claimed now timeout else state)

def claimTimeout : Nat := 30 * 10 ^ 9

def beginDue (now : Nat) (coordinator : ProbeCoordinator) :
    (ProbeKey → Bool) × ProbeCoordinator :=
  beginDueWithTimeout now claimTimeout coordinator

def recordResult (key : ProbeKey) (now : Nat) (status : ProbeStatus)
    (baseInterval : Nat) (coordinator : ProbeCoordinator) : ProbeCoordinator :=
  Function.update coordinator key
    ((coordinator key).map (·.recorded now status baseInterval))

variable {coordinator : ProbeCoordinator}

theorem ensure_eq (found : coordinator key = some state) (other : ProbeKey)
    (now : Nat) : coordinator.ensure other now key = some state := by
  by_cases same : key = other
  · subst same
    simp [ensure, found]
  · simp [ensure, same, found]

theorem beginDue_claims (found : coordinator key = some state)
    (due : state.due now = true) :
    (coordinator.beginDueWithTimeout now timeout).2 key =
      some (state.claimed now timeout) := by
  simp [beginDueWithTimeout, found, due]

end ProbeCoordinator

/-! ## Sequences of calls -/

inductive ProbeCall
  | ensure (key : ProbeKey) (now : Nat)
  | requestNow (key : ProbeKey) (now : Nat)
  | beginDueWithTimeout (now timeout : Nat)
  | recordResult
      (key : ProbeKey) (now : Nat) (status : ProbeStatus) (baseInterval : Nat)

namespace ProbeCall

def perform (coordinator : ProbeCoordinator) : ProbeCall → ProbeCoordinator
  | ensure key now => coordinator.ensure key now
  | requestNow key now => coordinator.requestNow key now
  | beginDueWithTimeout now timeout =>
    (coordinator.beginDueWithTimeout now timeout).2
  | recordResult key now status baseInterval =>
    coordinator.recordResult key now status baseInterval

def performAll (coordinator : ProbeCoordinator) (calls : List ProbeCall) :
    ProbeCoordinator :=
  calls.foldl perform coordinator

def result? (key : ProbeKey) : ProbeCall → Option ProbeStatus
  | recordResult recorded _ status _ =>
    if recorded = key then some status else none
  | _ => none

theorem perform_quiet
    (found : coordinator key = some state) (quiet : call.result? key = none) :
    ∃ next, perform coordinator call key = some next ∧
      (next = state ∨
        (∃ now, call = requestNow key now ∧
          next = { state with nextCheckAt := now }) ∨
        ∃ now timeout, state.due now = true ∧
          next = state.claimed now timeout) := by
  cases call with
  | ensure other now =>
    exact ⟨state, coordinator.ensure_eq found other now, .inl rfl⟩
  | requestNow other now =>
    by_cases same : key = other
    · subst same
      exact ⟨_, by simp [perform, ProbeCoordinator.requestNow, found],
        .inr (.inl ⟨now, rfl, rfl⟩)⟩
    · exact ⟨state, by simp [perform, ProbeCoordinator.requestNow, same, found],
        .inl rfl⟩
  | beginDueWithTimeout now timeout =>
    by_cases due : state.due now = true
    · exact ⟨_, coordinator.beginDue_claims found due,
        .inr (.inr ⟨now, timeout, due, rfl⟩)⟩
    · exact ⟨state,
        by simp [perform, ProbeCoordinator.beginDueWithTimeout, found, due],
        .inl rfl⟩
  | recordResult other now status baseInterval =>
    by_cases same : key = other
    · simp [result?, same] at quiet
    · exact ⟨state, by simp [perform, ProbeCoordinator.recordResult, same, found],
        .inl rfl⟩

theorem perform_result (found : coordinator key = some state)
    (recorded : call.result? key = some status) :
    ∃ now baseInterval, perform coordinator call key =
      some (state.recorded now status baseInterval) := by
  cases call with
  | recordResult other now _ baseInterval =>
    simp only [result?, Option.ite_none_right_eq_some, Option.some.injEq]
      at recorded
    obtain ⟨rfl, rfl⟩ := recorded
    exact ⟨now, baseInterval,
      by simp [perform, ProbeCoordinator.recordResult, found]⟩
  | _ => cases recorded

/-- A claim is given up by a result alone, which sets the time of the next
check. -/
theorem performAll_claimed (found : coordinator key = some state)
    (held : state.Held deadline) (calls : List ProbeCall) :
    ∃ after, performAll coordinator calls key = some after ∧
      (after.Held deadline ∨
        ∃ front result rest, calls = front ++ result :: rest ∧
          (result.result? key).isSome ∧
          (∀ call ∈ rest, call.result? key = none) ∧
          ((∃ now, requestNow key now ∈ rest) ∨
            ∃ backedOff, performAll coordinator (front ++ [result]) key =
              some backedOff ∧ after.nextCheckAt = backedOff.nextCheckAt)) := by
  induction calls using List.reverseRecOn with
  | nil => exact ⟨state, found, .inl held⟩
  | append_singleton calls call induction =>
    obtain ⟨before, reached, kept⟩ := induction
    have concat : performAll coordinator (calls ++ [call]) =
        perform (performAll coordinator calls) call := List.foldl_concat ..
    cases own : call.result? key with
    | some status =>
      obtain ⟨now, baseInterval, recorded⟩ := perform_result reached own
      rw [← concat] at recorded
      exact ⟨_, recorded, .inr ⟨calls, call, [], rfl, by simp [own], by simp,
        .inr ⟨_, recorded, rfl⟩⟩⟩
    | none =>
      obtain ⟨next, performed, moved⟩ := perform_quiet reached own
      refine ⟨next, by rw [concat, performed], ?_⟩
      rcases kept with held | ⟨front, result, rest, rfl, given, last, after⟩
      · left
        rcases moved with rfl | ⟨now, -, rfl⟩ | ⟨now, timeout, due, rfl⟩
        · exact held
        · exact held
        · exact ⟨rfl, _, rfl, (held.elapsed due).trans (by omega)⟩
      · refine .inr ⟨front, result, rest ++ [call], by simp, given, ?_, ?_⟩
        · simpa [or_imp, forall_and, own] using last
        · rcases after with ⟨now, requested⟩ | ⟨backedOff, set, same⟩
          · exact .inl ⟨now, by simp [requested]⟩
          · rcases moved with rfl | ⟨now, rfl, -⟩ | ⟨_, _, -, rfl⟩
            · exact .inr ⟨backedOff, set, same⟩
            · exact .inl ⟨now, by simp⟩
            · exact .inr ⟨backedOff, set, same⟩

theorem consecutiveFailures_of_offline (found : coordinator key = some state)
    (started : state.consecutiveFailures = min start (2 ^ 32 - 1))
    (results : calls.filterMap (result? key) = List.replicate count .offline) :
    ∃ after, performAll coordinator calls key = some after ∧
      after.consecutiveFailures = min (start + count) (2 ^ 32 - 1) := by
  induction calls generalizing coordinator state start count with
  | nil =>
    cases count with
    | zero => exact ⟨state, found, started⟩
    | succ count => cases results
  | cons call rest induction =>
    cases own : call.result? key with
    | none =>
      rw [List.filterMap_cons_none own] at results
      obtain ⟨next, performed, moved⟩ := perform_quiet found own
      refine induction performed ?_ results
      rcases moved with rfl | ⟨_, -, rfl⟩ | ⟨_, _, -, rfl⟩ <;> exact started
    | some status =>
      rw [List.filterMap_cons_some own] at results
      cases count with
      | zero => cases results
      | succ count =>
        obtain ⟨rfl, others⟩ := List.cons.inj results
        obtain ⟨now, baseInterval, recorded⟩ := perform_result found own
        obtain ⟨after, reached, failures⟩ :=
          @induction _ _ (start + 1) _ recorded
            (by simp only [ProbeState.recorded]; omega) others
        exact ⟨after, reached, by omega⟩

end ProbeCall

open ProbeCall in
/-- A claim is given away again after a result or after its timeout, whatever
the times of the calls are. -/
theorem probe_claims_are_exclusive
    (coordinator : ProbeCoordinator) (key : ProbeKey) :
    (∀ now timeout calls later again,
      (coordinator.beginDueWithTimeout now timeout).1 key = true →
      ((performAll (coordinator.beginDueWithTimeout now timeout).2
        calls).beginDueWithTimeout later again).1 key = true →
      now + timeout ≤ later ∨
      ∃ front result rest, calls = front ++ result :: rest ∧
        (result.result? key).isSome ∧
        (∀ call ∈ rest, call.result? key = none) ∧
        ((∃ brought, .requestNow key brought ∈ rest) ∨
          ∃ backedOff, performAll
              (coordinator.beginDueWithTimeout now timeout).2
              (front ++ [result]) key = some backedOff ∧
            backedOff.nextCheckAt ≤ later)) ∧
    ∀ state front now baseInterval count,
      coordinator key = some state → state.consecutiveFailures = 0 →
      (front ++ [.recordResult key now .offline baseInterval]).filterMap
        (result? key) = List.replicate count .offline →
      baseInterval * 2 ^ 4 ≤ maxDuration →
      (performAll coordinator
        (front ++ [.recordResult key now .offline baseInterval]) key).map
          ProbeState.nextCheckAt =
        some (now + baseInterval * 2 ^ min count 4) := by
  constructor
  · intro now timeout calls later again first second
    obtain ⟨state, found, due⟩ := (Option.any_eq_true _ _).mp first
    have held : (state.claimed now timeout).Held (now + timeout) :=
      ⟨rfl, _, rfl, le_rfl⟩
    obtain ⟨after, reached, kept⟩ :=
      performAll_claimed (coordinator.beginDue_claims found due) held calls
    obtain ⟨_, ended, dueAgain⟩ := (Option.any_eq_true _ _).mp second
    cases reached.symm.trans ended
    rcases kept with held | ⟨front, result, rest, rfl, own, last, released⟩
    · exact .inl (held.elapsed dueAgain)
    · refine .inr ⟨front, result, rest, rfl, own, last, ?_⟩
      rcases released with requested | ⟨backedOff, set, same⟩
      · exact .inl requested
      · refine .inr ⟨backedOff, set, ?_⟩
        rw [← same]
        exact (ProbeState.due_iff.mp dueAgain).1
  · intro state front now baseInterval count found fresh results bounded
    have small : baseInterval * 2 ^ min count 4 ≤ maxDuration :=
      le_trans (Nat.mul_le_mul_left _
        (Nat.pow_le_pow_right Nat.two_pos (min_le_right count 4))) bounded
    have none : state.consecutiveFailures = min 0 (2 ^ 32 - 1) := fresh
    obtain ⟨after, reached, failures⟩ :=
      consecutiveFailures_of_offline found none results
    have exponent : min after.consecutiveFailures 4 = min count 4 := by omega
    rw [performAll, List.foldl_concat] at reached
    simp only [perform, ProbeCoordinator.recordResult, Function.update_self,
      Option.map_eq_some_iff] at reached
    obtain ⟨before, earlier, rfl⟩ := reached
    have next : (before.recorded now .offline baseInterval).nextCheckAt =
        now + saturatingMul baseInterval (1 <<< min
          (before.recorded now .offline baseInterval).consecutiveFailures 4) :=
      rfl
    rw [exponent, Nat.one_shiftLeft, saturatingMul, min_eq_left small] at next
    rw [performAll, List.foldl_concat]
    simp only [perform, ProbeCoordinator.recordResult, Function.update_self,
      earlier, Option.map_some, next]

def sampleProbes : ProbeCoordinator :=
  ProbeCoordinator.ensure (.contact "alice") 0 fun _ => none

theorem sampleProbe_is_claimed_once_and_backs_off :
    ((sampleProbes.beginDueWithTimeout 0 30).2.beginDueWithTimeout 29 30).1
      (.contact "alice") = false ∧
    (ProbeCall.performAll sampleProbes
      [.recordResult (.contact "alice") 5 .offline 10] (.contact "alice")).map
        ProbeState.nextCheckAt = some 25 := by
  obtain ⟨exclusive, backsOff⟩ :=
    probe_claims_are_exclusive sampleProbes (.contact "alice")
  constructor
  · rw [← Bool.not_eq_true]
    intro again
    rcases exclusive 0 30 [] 29 30 (by decide) again with
      early | ⟨front, result, rest, none, _⟩
    · omega
    · simp at none
  · exact backsOff (.new 0) [] 5 10 1 rfl rfl rfl (by decide)

/-- What a round finds. Each of its two steps lists the contacts, which may fail;
an endpoint may be unreadable, and a presence frame that could not be built or
queued is not `taken`. -/
structure ProbeRound where
  networkOnline : Bool
  socks5Url : Bool
  localPeerEndpoint : Bool
  peerTransport : Bool
  contacts : List InstallationId
  listedForProbes : Bool
  listedForPresences : Bool
  contactPeerEndpoint : InstallationId → Option Bool
  taken : InstallationId → Bool

namespace ProbeRound

variable (round : ProbeRound)

def connected : Bool :=
  round.networkOnline && round.socks5Url && round.localPeerEndpoint

def ensureAll (keys : List ProbeKey) (now : Nat)
    (coordinator : ProbeCoordinator) : ProbeCoordinator :=
  keys.foldl (fun coordinator key => coordinator.ensure key now) coordinator

/-- Every probe that is due is claimed here, whatever its kind; what is sent is a
probe of the contact. -/
def queueEndpointUpdateProbes (now : Nat) (coordinator : ProbeCoordinator) :
    ProbeCoordinator :=
  if round.connected && (round.peerTransport && round.listedForProbes) then
    let readable := round.contacts.takeWhile fun contact =>
      (round.contactPeerEndpoint contact).isSome
    let ensured := ensureAll ((readable.filter fun contact =>
      round.contactPeerEndpoint contact = some true).map .contact) now coordinator
    if readable = round.contacts then (ensured.beginDue now).2 else ensured
  else
    coordinator

def takesPresence (contact : InstallationId) : Bool :=
  round.contactPeerEndpoint contact = some true && round.peerTransport &&
    round.taken contact

/-- The contacts that are handed a presence frame. -/
def queuePresenceHeartbeats (now : Nat) (coordinator : ProbeCoordinator) :
    List InstallationId × ProbeCoordinator :=
  if round.connected && round.listedForPresences then
    let (due, claimed) := (ensureAll (round.contacts.map .contactPresence) now
      coordinator).beginDue now
    (round.contacts.filter fun contact =>
      due (.contactPresence contact) && round.takesPresence contact, claimed)
  else
    ([], coordinator)

/-- `EngineTimerKind::PeerProbeRound`, whose steps read the clock themselves. -/
def presences (first second : Nat) (coordinator : ProbeCoordinator) :
    List InstallationId :=
  (round.queuePresenceHeartbeats second
    (round.queueEndpointUpdateProbes first coordinator)).1

def PresenceDue (coordinator : ProbeCoordinator) (now : Nat)
    (contact : InstallationId) : Prop :=
  ∃ state, coordinator (.contactPresence contact) = some state ∧
    state.due now = true

variable {round : ProbeRound}

theorem ensureAll_eq
    (found : coordinator key = some state) (keys : List ProbeKey) (now : Nat) :
    ensureAll keys now coordinator key = some state := by
  induction keys generalizing coordinator with
  | nil => exact found
  | cons other rest induction =>
    exact induction (ProbeCoordinator.ensure_eq found _ _)

theorem mem_queuePresenceHeartbeats (connected : round.connected = true)
    (found : coordinator (.contactPresence contact) = some state)
    (listed : contact ∈ round.contacts) :
    contact ∈ (round.queuePresenceHeartbeats now coordinator).1 ↔
      round.listedForPresences = true ∧ round.takesPresence contact = true ∧
        state.due now = true := by
  unfold queuePresenceHeartbeats
  rw [connected, Bool.true_and]
  split
  · rename_i reached
    simp [reached, listed, ProbeCoordinator.beginDue, and_comm,
      ProbeCoordinator.beginDueWithTimeout, ensureAll_eq found]
  · rename_i missed
    simp [missed]

/-- The first step of the round claims the presence probes as well, and sends
something else. The second finds them due again when the first could not list the
contacts or read an endpoint, or when the claim has run out meanwhile. -/
theorem due_presence_is_handed_over_iff
    (round : ProbeRound) (coordinator : ProbeCoordinator) (first second : Nat)
    (connected : round.connected = true) (ordered : first ≤ second) :
    (∀ contact ∈ round.contacts, PresenceDue coordinator first contact →
      contact ∈ round.presences first second coordinator) ↔
    ∀ contact ∈ round.contacts, PresenceDue coordinator first contact →
      round.listedForPresences = true ∧ round.takesPresence contact = true ∧
        (round.listedForProbes = false ∨
          (∃ other ∈ round.contacts, round.contactPeerEndpoint other = none) ∨
          first + ProbeCoordinator.claimTimeout ≤ second) := by
  refine forall₂_congr fun contact listed => ?_
  refine forall_congr' fun ⟨state, found, due⟩ => ?_
  have again := ProbeState.due_mono due ordered
  unfold presences queueEndpointUpdateProbes
  rw [connected, Bool.true_and]
  cases probed : round.peerTransport && round.listedForProbes with
  | false =>
    rw [if_neg Bool.false_ne_true,
      mem_queuePresenceHeartbeats connected found listed]
    refine and_congr_right fun _ => and_congr_right fun taken => ?_
    have running : round.peerTransport = true := by
      simp only [takesPresence, Bool.and_eq_true] at taken
      exact taken.1.2
    rw [running, Bool.true_and] at probed
    simp [again, probed]
  | true =>
    have kept := fun keys => ensureAll_eq found keys first
    have reached : round.listedForProbes ≠ false := by
      simp only [Bool.and_eq_true] at probed
      simp [probed.2]
    simp only [if_true, ProbeCoordinator.beginDue]
    split
    · rename_i readable
      have all : ¬ ∃ other ∈ round.contacts,
          round.contactPeerEndpoint other = none := by
        rw [List.takeWhile_eq_self_iff] at readable
        rintro ⟨other, member, unread⟩
        simpa [unread] using readable other member
      rw [mem_queuePresenceHeartbeats connected
        (ProbeCoordinator.beginDue_claims (kept _) due) listed,
        ProbeState.due_claimed_iff due ordered, or_iff_right reached,
        or_iff_right all]
    · rename_i unreadable
      have some : ∃ other ∈ round.contacts,
          round.contactPeerEndpoint other = none := by
        simpa [List.takeWhile_eq_self_iff] using unreadable
      rw [mem_queuePresenceHeartbeats connected (kept _) listed]
      simp [again, some]

def sampleRound : ProbeRound where
  networkOnline := true
  socks5Url := true
  localPeerEndpoint := true
  peerTransport := true
  contacts := ["alice"]
  listedForProbes := true
  listedForPresences := true
  contactPeerEndpoint _ := some true
  taken _ := true

def dueAlice : ProbeCoordinator :=
  ProbeCoordinator.ensure (.contactPresence "alice") 0 fun _ => none

theorem late_presence_is_handed_over :
    "alice" ∈ sampleRound.presences 0 ProbeCoordinator.claimTimeout dueAlice := by
  refine (due_presence_is_handed_over_iff sampleRound dueAlice 0 _ rfl
    (Nat.zero_le _)).mpr ?_ "alice" (.head _) ⟨.new 0, rfl, rfl⟩
  intro contact listed due
  exact ⟨rfl, rfl, .inr (.inr (by decide))⟩

theorem claimed_presence_is_not_handed_over :
    sampleRound.connected = true ∧ "alice" ∈ sampleRound.contacts ∧
      PresenceDue dueAlice 0 "alice" ∧
      "alice" ∉ sampleRound.presences 0 1 dueAlice :=
  ⟨rfl, by decide, ⟨.new 0, rfl, rfl⟩, by decide⟩

end ProbeRound

end Torchat
