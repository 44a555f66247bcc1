import Torchat.Foundation.Machine
import Torchat.Runtime.Session

namespace Torchat.Peer

open Foundation

def eventCapacity : Nat := 128

/-- What else a session tells the engine names no session. -/
inductive TransportEvent
  | connectionChanged
      (installationId : InstallationId) (sessionId : Option Uuid)
      (status : PeerConnectionStatus)
  | other
  deriving DecidableEq

namespace TransportEvent

def session? : TransportEvent → Option Uuid
  | connectionChanged _ sessionId _ => sessionId
  | other => none

def ends (sessionId : Uuid) : TransportEvent → Bool
  | connectionChanged _ (some ended) .offline => ended = sessionId
  | _ => false

theorem session?_of_ends {event : TransportEvent}
    (ends : event.ends sessionId = true) : event.session? = some sessionId := by
  unfold TransportEvent.ends at ends
  split at ends
  · exact congrArg some (of_decide_eq_true ends)
  · cases ends

end TransportEvent

/-- As a ghost, `enqueued` holds all that ever got into the channel. -/
structure EventChannel where
  waiting : List TransportEvent
  enqueued : List TransportEvent

namespace EventChannel

def full (channel : EventChannel) : Bool :=
  eventCapacity ≤ channel.waiting.length

/-- `send`, which waits for room. -/
def send (event : TransportEvent) (channel : EventChannel) : EventChannel :=
  ⟨channel.waiting ++ [event], channel.enqueued ++ [event]⟩

/-- `try_send`, which does not wait. -/
def trySend (event : TransportEvent) (channel : EventChannel) : EventChannel :=
  if channel.full then channel else channel.send event

def receive (channel : EventChannel) : EventChannel :=
  { channel with waiting := channel.waiting.tail }

end EventChannel

/-! ## Sessions -/

/-- What reports the end of a session when it is dropped. -/
structure PeerSessionLease where
  installationId : InstallationId
  sessionId : Uuid
  deriving DecidableEq

namespace PeerSessionLease

def report (lease : PeerSessionLease) (status : PeerConnectionStatus) :
    TransportEvent :=
  .connectionChanged lease.installationId (some lease.sessionId) status

def drop (lease : PeerSessionLease) (events : EventChannel) : EventChannel :=
  events.trySend (lease.report .offline)

theorem report_injective (same : report lease status = report other status') :
    lease = other ∧ status = status' := by
  obtain ⟨_, _⟩ := lease
  obtain ⟨_, _⟩ := other
  cases same
  exact ⟨rfl, rfl⟩

end PeerSessionLease

structure PeerSessions where
  events : EventChannel
  leases : List PeerSessionLease

/-- `connected` is the report after a handshake, inbound or outbound, with the
lease taken behind it, and `ended` any way a session's task ends. -/
inductive SessionStep
  | connected (lease : PeerSessionLease)
  | sent (event : TransportEvent)
  | received
  | ended (lease : PeerSessionLease)

namespace PeerSessions

def allowed (sessions : PeerSessions) : SessionStep → Bool
  | .connected _ => !sessions.events.full
  | .sent event => !sessions.events.full && event.session? = none
  | .received => sessions.events.waiting ≠ []
  | .ended lease => lease ∈ sessions.leases

def next (sessions : PeerSessions) : SessionStep → PeerSessions
  | .connected lease =>
    ⟨sessions.events.send (lease.report .connected), lease :: sessions.leases⟩
  | .sent event => { sessions with events := sessions.events.send event }
  | .received => { sessions with events := sessions.events.receive }
  | .ended lease =>
    ⟨lease.drop sessions.events, sessions.leases.erase lease⟩

def machine : Machine PeerSessions SessionStep where
  init := ⟨⟨[], []⟩, []⟩
  enabled sessions step := sessions.allowed step
  next := next

/-- A session id is not used twice, and a session ends while the channel has
room. -/
def Meets (sessions : PeerSessions) : SessionStep → Prop
  | .connected lease =>
    lease.sessionId ∉ sessions.leases.map PeerSessionLease.sessionId ∧
      ∀ event ∈ sessions.events.enqueued,
        event.session? ≠ some lease.sessionId
  | .ended _ => sessions.events.full = false
  | _ => True

def ends (sessions : PeerSessions) (sessionId : Uuid) : Nat :=
  sessions.events.enqueued.countP (·.ends sessionId)

structure Reported (sessions : PeerSessions) : Prop where
  distinct : (sessions.leases.map PeerSessionLease.sessionId).Nodup
  running : ∀ lease ∈ sessions.leases, sessions.ends lease.sessionId = 0
  ended : ∀ lease, lease.report .connected ∈ sessions.events.enqueued →
    lease ∈ sessions.leases ∨ sessions.ends lease.sessionId = 1

variable {sessions after : PeerSessions}

theorem ends_of_sent
    (enqueued : after.events.enqueued = sessions.events.enqueued ++ [event])
    (sessionId : Uuid) :
    after.ends sessionId =
      sessions.ends sessionId + if event.ends sessionId then 1 else 0 := by
  rw [ends, enqueued, List.countP_append, List.countP_singleton, ends]

section

variable (reported : sessions.Reported)

include reported

theorem Reported.connect (meets : sessions.Meets (.connected lease)) :
    (sessions.next (.connected lease)).Reported := by
  have same (sessionId : Uuid) :
      (sessions.next (.connected lease)).ends sessionId =
        sessions.ends sessionId := by
    rw [ends_of_sent rfl]
    rfl
  refine ⟨List.nodup_cons.mpr ⟨meets.1, reported.distinct⟩, ?_, ?_⟩
  · intro other member
    rw [same]
    rcases List.mem_cons.mp member with rfl | before
    · refine List.countP_eq_zero.mpr fun event member ends => ?_
      exact meets.2 event member (TransportEvent.session?_of_ends ends)
    · exact reported.running other before
  · intro other connected
    rw [same]
    rcases List.mem_append.mp connected with before | now
    · exact (reported.ended other before).imp_left (.tail _)
    · obtain ⟨rfl, -⟩ := PeerSessionLease.report_injective
        (List.mem_singleton.mp now)
      exact .inl (.head _)

theorem Reported.end (member : lease ∈ sessions.leases)
    (room : sessions.events.full = false) :
    (sessions.next (.ended lease)).Reported := by
  have enqueued : (sessions.next (.ended lease)).events.enqueued =
      sessions.events.enqueued ++ [lease.report .offline] := by
    rw [next, PeerSessionLease.drop, EventChannel.trySend, room]
    rfl
  have counted (sessionId : Uuid) :
      (sessions.next (.ended lease)).ends sessionId = sessions.ends sessionId +
          if decide (lease.sessionId = sessionId) then 1 else 0 :=
    ends_of_sent enqueued sessionId
  have nodup : sessions.leases.Nodup := reported.distinct.of_map
  refine ⟨(List.erase_sublist.map _).nodup reported.distinct, ?_, ?_⟩
  · intro other remains
    obtain ⟨differs, found⟩ := nodup.mem_erase_iff.mp remains
    have elsewhere : lease.sessionId ≠ other.sessionId := fun same =>
      differs (List.inj_on_of_nodup_map reported.distinct found member same.symm)
    rw [counted, reported.running other found, decide_eq_false elsewhere]
    rfl
  · intro other connected
    rw [counted]
    by_cases same : lease.sessionId = other.sessionId
    · rw [← same, reported.running lease member]
      exact .inr (by simp)
    · rw [decide_eq_false same]
      rw [enqueued, List.mem_append, List.mem_singleton] at connected
      have before := connected.resolve_right fun equal => by
        cases (PeerSessionLease.report_injective equal).2
      refine (reported.ended other before).imp_left fun found => ?_
      exact nodup.mem_erase_iff.mpr ⟨fun equal => same (by rw [equal]), found⟩

theorem Reported.send (silent : event.session? = none) :
    (sessions.next (.sent event)).Reported := by
  have same (sessionId : Uuid) :
      (sessions.next (.sent event)).ends sessionId =
        sessions.ends sessionId := by
    rw [ends_of_sent rfl, if_neg, Nat.add_zero]
    intro ends
    cases silent.symm.trans (TransportEvent.session?_of_ends ends)
  refine ⟨reported.distinct, fun lease member => ?_, fun lease connected => ?_⟩
  · rw [same]
    exact reported.running lease member
  · rw [same]
    rcases List.mem_append.mp connected with before | now
    · exact reported.ended lease before
    · cases List.mem_singleton.mp now
      cases silent

theorem Reported.next (step : SessionStep)
    (allowed : sessions.allowed step = true) (meets : sessions.Meets step) :
    (sessions.next step).Reported := by
  cases step with
  | connected lease => exact reported.connect meets
  | sent event =>
    exact reported.send (of_decide_eq_true (Bool.and_eq_true_iff.mp allowed).2)
  | received => exact ⟨reported.distinct, reported.running, reported.ended⟩
  | ended lease => exact reported.end (of_decide_eq_true allowed) meets

end

/-- Where session ids differ and every session ends with room in the channel,
its end is reported once. -/
theorem session_ends_are_reported
    (reached : (machine.restrict Meets).Reachable sessions)
    (connected : lease.report .connected ∈ sessions.events.enqueued)
    (ended : lease ∉ sessions.leases) :
    sessions.events.enqueued.countP (·.ends lease.sessionId) = 1 := by
  have reported : sessions.Reported := by
    refine reached.invariant Reported ⟨List.nodup_nil, nofun, nofun⟩ ?_
    intro sessions step reported enabled
    exact reported.next step enabled.1 enabled.2
  exact (reported.ended lease connected).resolve_left ended

def sampleLease : PeerSessionLease := ⟨"alice", 7⟩

theorem sample_end_is_reported :
    (machine.run machine.init
      [.connected sampleLease, .ended sampleLease]).events.enqueued.countP
        (·.ends sampleLease.sessionId) = 1 := by
  have admitted : (machine.restrict Meets).Admits machine.init
      [.connected sampleLease, .ended sampleLease] :=
    ⟨⟨rfl, List.not_mem_nil, nofun⟩, ⟨rfl, rfl⟩, trivial⟩
  exact session_ends_are_reported (.of_admits _ admitted) (.head _)
    List.not_mem_nil

/-- The engine is slow, and the channel full when the session ends. -/
def crowded : List SessionStep :=
  .connected sampleLease :: List.replicate 127 (.sent .other) ++
    [.ended sampleLease]

theorem end_is_lost_in_a_full_channel :
    ∃ sessions, machine.Reachable sessions ∧
      sampleLease.report .connected ∈ sessions.events.enqueued ∧
      sampleLease ∉ sessions.leases ∧
      sessions.events.enqueued.countP (·.ends sampleLease.sessionId) = 0 := by
  have admitted : machine.Admits machine.init crowded := by
    unfold crowded machine
    decide +kernel
  refine ⟨machine.run machine.init crowded,
    Machine.Reachable.init.run _ admitted, ?_, ?_, ?_⟩ <;> decide +kernel

end PeerSessions

end Torchat.Peer
