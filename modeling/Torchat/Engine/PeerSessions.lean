import Torchat.Engine.Cleanup
import Torchat.Engine.Machine

namespace Torchat

open Foundation Storage

/-! ## Sessions in the engine's books -/

def PeerConnectionStatus.seen (status : PeerConnectionStatus) (blocked : Bool) :
    PeerConnectionStatus :=
  if status = .connected && blocked then .backoff else status

namespace Actor

def sessions (actor : Actor P) :
    Finset InstallationId × Table InstallationId (Finset Uuid) :=
  (actor.cryptoBlockedPeers, actor.activePeerSessions)

def SameSessions (before after : Actor P) : Prop :=
  after.sessions = before.sessions

instance SameSessions.outward :
    Outward (SameSessions (P := P)) Database.Anything where
  toFrame := Program.Frame.of_eq sessions
  data _ _ _ := rfl
  hosted _ _ _ := rfl
  noted _ _ _ := rfl
  handed _ _ := rfl

instance SameSessions.offhand :
    Offhand (SameSessions (P := P)) Database.Anything where
  conversing _ _ := rfl

instance (operation : Runtime.Call α) :
    (withRuntimeInternal (P := P) operation idempotency response).Keeps
      SameSessions := by
  refine ⟨fun actor => ?_⟩
  have transacted :=
    withRuntimeInternal_transacted operation idempotency response actor
  generalize withRuntimeInternal operation idempotency response actor = result
    at transacted ⊢
  obtain ⟨outcome, after⟩ := result
  cases transacted with
  | kept => rfl
  | committed => rfl

theorem handleConnectionChanged_sessions (actor : Actor P) :
    (handleConnectionChanged contact sessionId status error none
      actor).2.sessions =
    (actor.cryptoBlockedPeers,
      (trackSession contact sessionId
        (status.seen (decide (contact ∈ actor.cryptoBlockedPeers)))
        actor.activePeerSessions).2) := by
  unfold handleConnectionChanged
  rw [run_bind_ok (run_read _ _), run_bind_ok (run_read _ _),
    run_bind_ok (run_modify _ _)]
  refine @Program.Keeps.run _ _ _ _ SameSessions ?_ _
  generalize (if decide (status = .connected) &&
    decide (contact ∈ actor.cryptoBlockedPeers) then
      PeerConnectionStatus.backoff else status) = seen
  split
  · cases seen <;> cases error <;> infer_instance
  · infer_instance

end Actor

/-- As a ghost, `connected` holds the sessions that were reported `Connected`
and have not ended. -/
structure SessionBooks where
  cryptoBlockedPeers : Finset InstallationId
  activePeerSessions : Table InstallationId (Finset Uuid)
  connected : Finset (InstallationId × Uuid)

/-- Peers become blocked by what they send and free by pairing again. -/
inductive SessionChange
  | connected (contact : InstallationId) (sessionId : Uuid)
  | offline (contact : InstallationId) (sessionId : Uuid)
  | blocking (peers : Finset InstallationId)
  | removed (contact : InstallationId)
  | revoked (contact : InstallationId)

namespace SessionBooks

def tracked (books : SessionBooks) (contact : InstallationId) (sessionId : Uuid)
    (status : PeerConnectionStatus) :
    Bool × Table InstallationId (Finset Uuid) :=
  Actor.trackSession contact (some sessionId)
    (status.seen (decide (contact ∈ books.cryptoBlockedPeers)))
    books.activePeerSessions

def surfaced
    (books : SessionBooks) (contact : InstallationId) (sessionId : Uuid)
    (status : PeerConnectionStatus) : Option PeerConnectionStatus :=
  if (books.tracked contact sessionId status).1 then
    some (status.seen (decide (contact ∈ books.cryptoBlockedPeers)))
  else
    none

def next (books : SessionBooks) : SessionChange → SessionBooks
  | .connected contact sessionId =>
    { books with
      activePeerSessions := (books.tracked contact sessionId .connected).2
      connected :=
        if books.surfaced contact sessionId .connected = some .connected then
          insert (contact, sessionId) books.connected
        else
          books.connected }
  | .offline contact sessionId =>
    { books with
      activePeerSessions := (books.tracked contact sessionId .offline).2
      connected := books.connected.erase (contact, sessionId) }
  | .blocking peers => { books with cryptoBlockedPeers := peers }
  | .removed contact =>
    { books with
      cryptoBlockedPeers := books.cryptoBlockedPeers.erase contact
      activePeerSessions := books.activePeerSessions.erase contact }
  | .revoked contact =>
    { books with
      activePeerSessions := books.activePeerSessions.erase contact }

/-- A call that goes through changes the books as `change` does. -/
def Rebooks (change : SessionChange) (program : Actor.Call P Unit) : Prop :=
  ∀ actor after reported, program actor = (.ok (), after) →
    ⟨after.cryptoBlockedPeers, after.activePeerSessions, reported⟩ =
      SessionBooks.next
        ⟨actor.cryptoBlockedPeers, actor.activePeerSessions, reported⟩ change

theorem Rebooks.next {program : Actor.Call P α}
    [kept : program.Keeps Actor.SameSessions]
    (rest : ∀ value, Rebooks change (following value)) :
    Rebooks change (program >>= following) := by
  intro actor after reported ran
  obtain ⟨value, middle, first, ran⟩ := bind_ok ran
  have same := kept.run actor
  rw [first] at same
  have booked := rest value middle after reported ran
  obtain ⟨samePeers, sameSessions⟩ := Prod.mk.inj same
  dsimp only at samePeers sameSessions
  rw [samePeers, sameSessions] at booked
  exact booked

theorem removeRelationship_rebooks :
    Rebooks (.removed contact)
      (Actor.removeRelationship (P := P) context contact preserveHistory) := by
  have named (text : String) : (Actor.operationContext (P := P) context
      text).Keeps Actor.SameSessions := by
    unfold Actor.operationContext
    cases context <;> infer_instance
  have removed (operation : Runtime.Call Unit) :
      (Actor.transactAs (P := P) context operation).Keeps
        Actor.SameSessions := by
    unfold Actor.transactAs Actor.withRuntimeIdempotent
    infer_instance
  refine .next fun _ => .next fun _ => .next fun _ => .next fun _ => ?_
  rintro actor after reported ⟨⟩
  rfl

theorem revokeContactEndpointCapability_rebooks :
    Rebooks (.revoked contact)
      (Actor.revokeContactEndpointCapability (P := P) contact) := by
  have erased : Rebooks (.revoked contact)
      (Program.modify fun actor : Actor P => { actor with
        activePeerSessions := actor.activePeerSessions.erase contact }) := by
    rintro actor after reported ⟨⟩
    rfl
  refine .next fun found => ?_
  cases found with
  | none => exact .next fun _ => .next fun _ => .next fun _ => erased
  | some row =>
    refine .next fun _ => .next fun _ => .next fun _ => .next fun _ => erased

def machine : Machine SessionBooks SessionChange where
  init := ⟨∅, .empty, ∅⟩
  enabled _ _ := True
  next := next

/-- A contact is removed or its capability revoked while no session of it that
was reported is open. -/
def Meets (books : SessionBooks) : SessionChange → Prop
  | .removed contact | .revoked contact =>
    ∀ sessionId, (contact, sessionId) ∉ books.connected
  | _ => True

def Kept (books : SessionBooks) : Prop :=
  ∀ contact sessionId,
    sessionId ∈ (books.activePeerSessions.lookup contact).getD ∅ ↔
      (contact, sessionId) ∈ books.connected

variable {books : SessionBooks}

theorem Kept.erase (kept : books.Kept)
    (idle : ∀ sessionId, (contact, sessionId) ∉ books.connected)
    (peers : Finset InstallationId) :
    Kept ⟨peers, books.activePeerSessions.erase contact, books.connected⟩ := by
  intro other sessionId
  rw [Table.lookup_erase]
  split
  · rename_i same
    subst same
    simp [idle sessionId]
  · exact kept other sessionId

theorem Kept.insert (kept : books.Kept) (peers : Finset InstallationId)
    (agree : ∀ sessionId, sessionId ∈ sessions ↔
      (contact, sessionId) ∈ reported)
    (elsewhere : ∀ other sessionId, other ≠ contact →
      ((other, sessionId) ∈ reported ↔
        (other, sessionId) ∈ books.connected)) :
    Kept ⟨peers, books.activePeerSessions.insert contact sessions,
      reported⟩ := by
  intro other sessionId
  rw [Table.lookup_insert]
  split
  · rename_i same
    subst same
    exact agree sessionId
  · rename_i differs
    exact (kept other sessionId).trans (elsewhere other sessionId differs).symm

theorem Kept.next (kept : books.Kept) (change : SessionChange)
    (meets : books.Meets change) : (books.next change).Kept := by
  cases change with
  | connected contact session =>
    have own := kept contact
    by_cases blocked : contact ∈ books.cryptoBlockedPeers
    · simp only [SessionBooks.next, tracked, surfaced, Actor.trackSession,
        PeerConnectionStatus.seen, blocked]
      exact kept.insert _ own fun _ _ _ => Iff.rfl
    · simp only [SessionBooks.next, tracked, surfaced, Actor.trackSession,
        PeerConnectionStatus.seen, blocked]
      refine kept.insert _ (fun sessionId => ?_) fun other sessionId differs => ?_
      · simp [own]
      · simp [differs]
  | offline contact session =>
    have own := kept contact
    refine kept.insert _ (fun sessionId => ?_) fun other sessionId differs => ?_
    · simp [own]
    · simp [differs]
  | blocking peers => exact kept
  | removed | revoked => exact kept.erase meets _

/-- As long as no removal or revocation finds a session open, the books hold the
sessions that are. -/
theorem offline_is_surfaced_for_the_last_session
    (reached : (machine.restrict Meets).Reachable books)
    (contact : InstallationId) (sessionId : Uuid) :
    books.surfaced contact sessionId .offline = some .offline ↔
      ∀ other, (contact, other) ∈ books.connected → other = sessionId := by
  have kept : books.Kept := by
    refine reached.invariant Kept
      (fun _ _ => by simp [machine, Machine.restrict]) ?_
    intro books change kept enabled
    exact kept.next change enabled.2
  have shown : books.surfaced contact sessionId .offline = some .offline ↔
      ((books.activePeerSessions.lookup contact).getD ∅).erase sessionId = ∅ := by
    simp [surfaced, tracked, Actor.trackSession, PeerConnectionStatus.seen]
  rw [shown, Finset.eq_empty_iff_forall_notMem]
  refine forall_congr' fun other => ?_
  rw [Finset.mem_erase, kept contact, not_and', not_ne_iff]

def twoSessions : List SessionChange :=
  [.connected "alice" 1, .connected "alice" 2]

theorem first_of_two_sessions_ends_quietly :
    ¬ (machine.run machine.init twoSessions).surfaced "alice" 1 .offline =
      some .offline := by
  have reached : (machine.restrict Meets).Reachable
      (machine.run machine.init twoSessions) :=
    .of_admits twoSessions ⟨⟨trivial, trivial⟩, ⟨trivial, trivial⟩, trivial⟩
  rw [offline_is_surfaced_for_the_last_session reached]
  exact fun last => absurd (last 2 (by decide)) (by decide)

/-- A contact is removed with two sessions open; the end of the first is surfaced
as if it were the last. -/
theorem removal_forgets_open_sessions :
    ∃ books, machine.Reachable books ∧
      books.surfaced "alice" 1 .offline = some .offline ∧
      ("alice", 2) ∈ books.connected :=
  ⟨machine.run machine.init
      [.connected "alice" 1, .connected "alice" 2, .removed "alice"],
    Machine.Reachable.init.run _ ⟨trivial, trivial, trivial, trivial⟩,
    by decide, by decide⟩

end SessionBooks

end Torchat
