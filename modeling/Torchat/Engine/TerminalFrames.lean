import Torchat.Engine.Quiet
import Torchat.Relay.SlotAccounting
import Torchat.Storage.PairingFacts

namespace Torchat

open Foundation Storage Database RuntimeEvent

inductive Party
  | owner
  | joiner

namespace Party

def connection (party : Party) (bridge : Relay.Bridge Digest) :
    Relay.ConnectionId :=
  match party with
  | owner => bridge.owner
  | joiner => bridge.joiner

def item (party : Party) (tables : PairingTables) (pairingId : Uuid) :
    Option PairingItem :=
  match party with
  | owner => (tables.inbox.lookup pairingId.text).map
      (pairingInboxItem pairingId.text)
  | joiner => (tables.outbox.lookup pairingId.text).map
      (pairingOutboxItem pairingId.text)

end Party

def RendezvousServerFrame.ends : RendezvousServerFrame → Option Uuid
  | pairingRejected pairingId | pairingFinalized pairingId
  | pairingCancelled pairingId => some pairingId
  | _ => none

namespace Relay

variable [DecidableEq Digest] (hash : String → Digest)

/-- A frame of some client makes the relay hand this party of a pairing a frame
that ends the pairing. -/
structure Delivers (relay : State Digest) (pairingId : Uuid) (party : Party)
    (frame : RendezvousServerFrame) : Prop where
  terminal : frame.ends = some pairingId
  sent : ∃ bridge, relay.bridges.lookup pairingId = some bridge ∧
    ∃ chance sender received after,
      processFrame hash chance relay sender received = .ok after ∧
      (party.connection bridge, frame) ∈ after.sent.drop relay.sent.length

end Relay

namespace RelayClient

def deliver (P : Primitives) (openBox : Bytes → Key32 → Bytes → Option Bytes)
    (frame : RendezvousServerFrame) (client : RelayClient) (actor : Actor P) :
    Actor P :=
  match (pollEvent P openBox frame client).1 with
  | none => actor
  | some event => (Actor.handleRelayEvent event actor).2

end RelayClient

/-- What it takes: a finalized pairing must have been accepted here before, the
owner has no use for a rejection, nobody has one for a cancellation. -/
def Settles (party : Party) (frame : RendezvousServerFrame) (item : PairingItem)
    (tables : PairingTables) : Prop :=
  match party, frame with
  | .owner, .pairingFinalized _ =>
    item.state = .accepted ∧ supersededBy tables.outbox item = false
  | .joiner, .pairingFinalized _ =>
    item.state = .accepted ∧ tables.inbox.lookup item.pairingId = none ∧
      supersededBy tables.inbox item = false
  | .joiner, .pairingRejected _ => supersededBy tables.inbox item = false
  | _, _ => False

/-! ## The calls behind the two events -/

theorem RuntimeSession.pushEvent_unspoken
    {session : RuntimeSession}
    (unspoken : session.pendingEvents.filterMap conversation = [])
    (impersonal : event.conversation = none) :
    (session.pushEvent event).pendingEvents.filterMap conversation = [] := by
  unfold pushEvent
  split <;> simp_all [RuntimeSession.pendingEvents, List.filterMap_append]

theorem Actor.transact_pairing (quiet : actor.host.world.Quiet)
    (ran : operation actor.begun = (.ok value, runtime))
    (unspoken : runtime.session.pendingEvents.filterMap conversation = []) :
    (transact operation actor).2.database.pairing = runtime.database.pairing := by
  have bumped : ∃ database,
      bumpRevision actor.host.faults runtime.session runtime.database =
        .ok database ∧
      database.pairing = runtime.database.pairing := by
    unfold bumpRevision
    split
    · refine ⟨{ runtime.database with
        globalRevision := runtime.database.globalRevision + 1 }, ?_, rfl⟩
      simp [RuntimeSession.pendingProjectionChanges, unspoken,
        faults_quiet quiet, Host.gate, Outcome.andThen, Outcome.ofExcept,
        bumpProjectionRevision, Except.mapError, pure, Except.pure]
    · exact ⟨_, rfl, rfl⟩
  obtain ⟨database, bumped, same⟩ := bumped
  rw [transact_database_of_ok quiet ran bumped, same]

namespace Runtime

open Pairing

variable {runtime : Runtime}

def withPairing (runtime : Runtime) (tables : PairingTables) : Runtime :=
  { runtime.tick with
    database := { runtime.database with pairing := tables } }

/-- A run that ends as a function on the pairing tables says, without having
spoken of a conversation. -/
inductive Agrees :
    RuntimeResult PairingTables → Outcome RuntimeError Unit × Runtime → Prop
  | refused (error : RuntimeError) (after : Runtime) :
      Agrees (.error error) (.err error, after)
  | done (after : Runtime)
      (unspoken : after.session.pendingEvents.filterMap
        RuntimeEvent.conversation = []) :
      Agrees (.ok after.database.pairing) (.ok (), after)

def peerOutcome (pairingId : String) (outcome : PairingPeerOutcome)
    (tables : PairingTables) : RuntimeResult PairingTables :=
  match tables.outbox.lookup pairingId with
  | none => .error (.notFound "pairing request does not exist")
  | some row =>
    match nextStateForPeerOutcome row.state outcome with
    | .error error => .error error
    | .ok state =>
      if row.state = state then .ok tables
      else Storage.putPairingOutbox tables (normalizePairingItem
        { pairingOutboxItem pairingId row with state := state })

def finalized (pairingId : String) (tables : PairingTables) :
    RuntimeResult PairingTables :=
  match tables.inbox.lookup pairingId with
  | some row =>
    if row.state = .completed then .ok tables
    else
      match transitionItem (pairingInboxItem pairingId row) .complete with
      | .error error => .error error
      | .ok item => Storage.putPairingInbox tables item
  | none =>
    match tables.outbox.lookup pairingId with
    | none => .ok tables
    | some row =>
      if row.state = .completed then .ok tables
      else
        match nextStateForPeerOutcome row.state .welcomePrepared with
        | .error error => .error error
        | .ok state => Storage.putPairingOutbox tables (normalizePairingItem
            { pairingOutboxItem pairingId row with state := state })

section

variable (quiet : runtime.host.world.Quiet)
  (unspoken : runtime.session.pendingEvents.filterMap
    conversation = [])

include quiet unspoken

theorem put_agrees (put : PairingTables → RuntimeResult PairingTables) :
    Agrees (put runtime.database.pairing) (write (onPairing put) runtime) := by
  cases stored : put runtime.database.pairing with
  | error error =>
    have failed : write (onPairing put) runtime = (.err error, runtime.tick) :=
      write_error_quiet quiet (by simp [onPairing, stored, bind, Except.bind])
    rw [failed]
    exact .refused error _
  | ok tables =>
    have written : write (onPairing put) runtime =
        (.ok (), runtime.withPairing tables) :=
      write_quiet quiet (by simp [onPairing, stored, bind,
        Except.bind, pure, Except.pure])
    rw [written]
    exact .done (runtime.withPairing tables) unspoken

theorem put_and_tell_agrees (put : PairingTables → RuntimeResult PairingTables)
    (pairingId : String) (state : InviteState) :
    Agrees (put runtime.database.pairing)
      ((do write (onPairing put); inviteStateChanged pairingId state :
        Call Unit) runtime) := by
  have agrees := put_agrees quiet unspoken put
  rcases ran : write (onPairing put) runtime with ⟨outcome, after⟩
  rw [ran] at agrees
  generalize put runtime.database.pairing = result at agrees ⊢
  cases agrees with
  | refused error =>
    rw [run_bind_err ran]
    exact .refused error after
  | done _ unspoken =>
    rw [run_bind_ok ran]
    exact .done
      { after with
        session := after.session.pushEvent
          (.inviteStateChanged (some pairingId) (some state)) }
      (RuntimeSession.pushEvent_unspoken unspoken rfl)

theorem applyPairingPeerOutcome_agrees (pairingId : String)
    (outcome : PairingPeerOutcome) :
    Agrees (peerOutcome pairingId outcome runtime.database.pairing)
      (applyPairingPeerOutcome pairingId outcome runtime) := by
  have asked : outboxRequired pairingId runtime =
      required (runtime.database.outboxItem pairingId)
        "pairing request does not exist" runtime.tick :=
    run_bind_ok (query_quiet quiet _)
  unfold applyPairingPeerOutcome
  cases found : runtime.database.pairing.outbox.lookup pairingId with
  | none =>
    have missing : outboxRequired pairingId runtime =
        (.err (.notFound "pairing request does not exist"), runtime.tick) := by
      rw [asked, outboxItem, found]
      rfl
    rw [run_bind_err missing]
    simp only [peerOutcome, found]
    exact .refused _ _
  | some row =>
    have present : outboxRequired pairingId runtime =
        (.ok (pairingOutboxItem pairingId row), runtime.tick) := by
      rw [asked, outboxItem, found]
      rfl
    rw [run_bind_ok present]
    simp only [peerOutcome, found]
    have stated : (pairingOutboxItem pairingId row).state = row.state := rfl
    rw [stated]
    cases nextStateForPeerOutcome row.state outcome with
    | error error =>
      exact .refused _ _
    | ok state =>
      rw [run_bind_ok (run_ofExcept_ok _ _)]
      by_cases same : row.state = state
      · simp only [if_pos same]
        exact .done runtime.tick unspoken
      · simp only [if_neg same]
        exact @put_and_tell_agrees runtime.tick quiet unspoken
          (Storage.putPairingOutbox · (normalizePairingItem
            { pairingOutboxItem pairingId row with state := state }))
          pairingId state

theorem finalizePairing_agrees (pairingId : String) :
    Agrees (finalized pairingId runtime.database.pairing)
      (finalizePairing pairingId runtime) := by
  unfold finalizePairing
  rw [run_bind_ok (query_quiet quiet _), inboxItem]
  cases inbox : runtime.database.pairing.inbox.lookup pairingId with
  | some row =>
    have stated : (pairingInboxItem pairingId row).state = row.state := rfl
    simp only [finalized, inbox, Option.map_some, stated]
    by_cases completed : row.state = .completed
    · simp only [if_pos completed]
      exact .done runtime.tick unspoken
    · simp only [if_neg completed]
      cases transitionItem (pairingInboxItem pairingId row) .complete with
      | error error =>
        exact .refused _ _
      | ok item =>
        exact @put_and_tell_agrees runtime.tick quiet unspoken
          (Storage.putPairingInbox · item) pairingId .completed
  | none =>
    simp only [finalized, inbox, Option.map_none]
    rw [run_bind_ok (@query_quiet runtime.tick quiet _ _),
      outboxItem, tick_database]
    cases outbox : runtime.database.pairing.outbox.lookup pairingId with
    | none =>
      exact .done runtime.tick.tick unspoken
    | some row =>
      have stated : (pairingOutboxItem pairingId row).state = row.state :=
        rfl
      simp only [Option.map_some, stated]
      by_cases completed : row.state = .completed
      · simp only [if_pos completed]
        exact .done runtime.tick.tick unspoken
      · simp only [if_neg completed]
        cases nextStateForPeerOutcome row.state .welcomePrepared with
        | error error =>
          rw [run_bind_err (run_ofExcept_error _ _)]
          exact .refused _ _
        | ok state =>
          rw [run_bind_ok (run_ofExcept_ok _ _)]
          exact @put_and_tell_agrees runtime.tick.tick quiet unspoken
            (Storage.putPairingOutbox · (normalizePairingItem
              { pairingOutboxItem pairingId row with state := state }))
            pairingId state

end

end Runtime

theorem Actor.transact_pairing_of_agrees (quiet : actor.host.world.Quiet)
    (agrees : Runtime.Agrees result (operation actor.begun)) :
    (transact operation actor).2.database.pairing =
      result.toOption.getD actor.database.pairing := by
  rcases ran : operation actor.begun with ⟨outcome, after⟩
  rw [ran] at agrees
  cases agrees with
  | refused error => rw [transact_database_of_err ran]; rfl
  | done _ unspoken => exact transact_pairing quiet ran unspoken

theorem Actor.begun_unspoken {actor : Actor P} (idle : actor.Idle) :
    actor.begun.session.pendingEvents.filterMap conversation = [] := by
  have none : actor.begun.session.pendingEvents = [] := idle
  rw [none]
  rfl

def afterTerminal
    (frame : RendezvousServerFrame) (tables : PairingTables) : PairingTables :=
  match frame with
  | .pairingRejected pairingId =>
    (Runtime.peerOutcome pairingId.text .rejectionReceived
      tables).toOption.getD tables
  | .pairingFinalized pairingId =>
    (Runtime.finalized pairingId.text tables).toOption.getD tables
  | _ => tables

theorem RelayClient.deliver_pairing (quiet : actor.host.world.Quiet)
    (idle : actor.Idle) (openBox : Bytes → Key32 → Bytes → Option Bytes)
    (client : RelayClient) (terminal : frame.ends = some pairingId) :
    (deliver P openBox frame client actor).database.pairing =
      afterTerminal frame actor.database.pairing := by
  have unspoken := Actor.begun_unspoken idle
  cases frame <;> cases terminal
  · exact Actor.transact_pairing_of_agrees quiet
      (Runtime.applyPairingPeerOutcome_agrees quiet unspoken _ _)
  · exact Actor.transact_pairing_of_agrees quiet
      (Runtime.finalizePairing_agrees quiet unspoken _)
  · rfl

/-! ## The tables after a terminal frame -/

namespace Runtime

open Pairing

theorem peerOutcome_inbox (pairingId : String) (outcome : PairingPeerOutcome)
    (tables : PairingTables) :
    ((peerOutcome pairingId outcome tables).toOption.getD
      tables).inbox.lookup pairingId = tables.inbox.lookup pairingId := by
  unfold peerOutcome
  split
  · rfl
  · rename_i row found
    split
    · rfl
    · rename_i state next
      split
      · rfl
      · obtain ⟨tables', stored, inbox, _⟩ := putPairingOutbox_self tables
          (normalizePairingItem
            { pairingOutboxItem pairingId row with state := state })
        rw [stored]
        exact inbox

theorem finalized_outbox (found : tables.inbox.lookup pairingId = some row) :
    ((finalized pairingId tables).toOption.getD
      tables).outbox.lookup pairingId = tables.outbox.lookup pairingId := by
  simp only [finalized, found]
  split
  · rfl
  · split
    · rfl
    · rename_i item transition
      obtain ⟨state, _, rfl⟩ : ∃ state, transitionInviteState row.state
          .complete = .ok state ∧ item = normalizePairingItem
            { pairingInboxItem pairingId row with state := state } := by
        unfold transitionItem at transition
        cases next : transitionInviteState
            (pairingInboxItem pairingId row).state .complete with
        | error error => rw [next] at transition; cases transition
        | ok state =>
          rw [next] at transition
          cases transition
          exact ⟨state, next, rfl⟩
      obtain ⟨tables', stored, outbox, _⟩ := putPairingInbox_self tables
        (normalizePairingItem
          { pairingInboxItem pairingId row with state := state }) rfl rfl
      rw [stored]
      exact outbox

end Runtime

def Settled (party : Party) (tables : PairingTables) (pairingId : Uuid) : Prop :=
  ∀ item, party.item tables pairingId = some item →
    item.state.isOutstanding = false

theorem not_settled (held : party.item tables pairingId = some item)
    (outstanding : item.state.isOutstanding = true)
    (same : party.item tables' pairingId = party.item tables pairingId) :
    ¬ Settled party tables' pairingId := by
  simp [Settled, same, held, outstanding]

theorem InviteState.outstanding_cases
    {state : InviteState} (outstanding : state.isOutstanding = true) :
    state = .pending ∨ state = .accepted := by
  revert outstanding
  cases state <;> decide

section
open Pairing

/-- What is put settles the item in its place, unless it is passed over. -/
theorem settled_put
    (held : party.item tables pairingId = some item)
    (outstanding : item.state.isOutstanding = true)
    (stored : party.item tables' pairingId =
      if superseded then party.item tables pairingId else some put)
    (done : put.state.isOutstanding = false) :
    Settled party tables' pairingId ↔ superseded = false := by
  cases superseded with
  | true =>
    rw [if_pos rfl, held] at stored
    simp [Settled, stored, outstanding]
  | false =>
    rw [if_neg Bool.false_ne_true] at stored
    simp [Settled, stored, done]

theorem put_settles_owner
    (found : tables.inbox.lookup pairingId.text = some row)
    (outstanding : row.state.isOutstanding = true)
    (done : state.isOutstanding = false) :
    Settled .owner ((putPairingInbox tables (normalizePairingItem
          { pairingInboxItem pairingId.text row with
            state := state })).toOption.getD tables) pairingId ↔
      supersededBy tables.outbox (pairingInboxItem pairingId.text row) =
        false := by
  obtain ⟨tables', stored, _, inbox⟩ := putPairingInbox_self tables
    (normalizePairingItem
      { pairingInboxItem pairingId.text row with state := state }) rfl rfl
  rw [stored]
  exact settled_put (congrArg (Option.map _) found) outstanding
    ((congrArg (Option.map _) inbox).trans (apply_ite ..)) done

theorem put_settles_joiner
    (found : tables.outbox.lookup pairingId.text = some row)
    (outstanding : row.state.isOutstanding = true)
    (done : state.isOutstanding = false) :
    Settled .joiner ((putPairingOutbox tables (normalizePairingItem
          { pairingOutboxItem pairingId.text row with
            state := state })).toOption.getD tables) pairingId ↔
      supersededBy tables.inbox (pairingOutboxItem pairingId.text row) =
        false := by
  obtain ⟨tables', stored, _, outbox⟩ := putPairingOutbox_self tables
    (normalizePairingItem
      { pairingOutboxItem pairingId.text row with state := state })
  rw [stored]
  exact settled_put (congrArg (Option.map _) found) outstanding
    ((congrArg (Option.map _) outbox).trans (apply_ite ..)) done

def rejectedItem (named : String) (row : PairingRow OutboxDetails) :
    PairingItem :=
  normalizePairingItem { pairingOutboxItem named row with state := .rejected }

theorem peerOutcome_rejection (found : tables.outbox.lookup named = some row)
    (active : row.active = true) :
    Runtime.peerOutcome named .rejectionReceived tables =
      putPairingOutbox tables (rejectedItem named row) := by
  rcases InviteState.outstanding_cases active with pending | accepted
  · simp [Runtime.peerOutcome, found, pending, nextStateForPeerOutcome,
      rejectedItem]
  · simp [Runtime.peerOutcome, found, accepted, nextStateForPeerOutcome,
      rejectedItem]

theorem settles_owner_iff (terminal : frame.ends = some pairingId)
    (found : tables.inbox.lookup pairingId.text = some row)
    (outstanding : row.state.isOutstanding = true) :
    Settled .owner (afterTerminal frame tables) pairingId ↔
      Settles .owner frame (pairingInboxItem pairingId.text row) tables := by
  have stays {tables' : PairingTables}
      (same : tables'.inbox.lookup pairingId.text = _) :
      ¬ Settled .owner tables' pairingId :=
    not_settled (congrArg (Option.map _) found) outstanding
      (congrArg (Option.map _) same)
  cases frame <;> cases terminal
  case pairingRejected =>
      exact iff_of_false (stays (Runtime.peerOutcome_inbox _ _ _)) id
  case pairingCancelled => exact iff_of_false (stays rfl) id
  case pairingFinalized =>
      rcases InviteState.outstanding_cases outstanding with pending | accepted
      · have refused : (Runtime.finalized pairingId.text tables).toOption =
            none := by
          simp [Runtime.finalized, found, pending, transitionItem,
            transitionInviteState, pairingInboxItem, bind, Except.bind,
            Except.toOption]
        refine iff_of_false (stays ?_) ?_
        · simp only [afterTerminal, refused, Option.getD_none]
        · simp [Settles, pairingInboxItem, pending]
      · have put : Runtime.finalized pairingId.text tables =
            putPairingInbox tables (normalizePairingItem
              { pairingInboxItem pairingId.text row with
                state := .completed }) := by
          simp [Runtime.finalized, found, accepted, transitionItem,
            transitionInviteState, pairingInboxItem, bind, Except.bind, pure,
            Except.pure]
        simp only [afterTerminal, put]
        rw [put_settles_owner found outstanding rfl]
        simp [Settles, pairingInboxItem, accepted]

theorem settles_joiner_iff (terminal : frame.ends = some pairingId)
    (found : tables.outbox.lookup pairingId.text = some row)
    (outstanding : row.state.isOutstanding = true) :
    Settled .joiner (afterTerminal frame tables) pairingId ↔
      Settles .joiner frame (pairingOutboxItem pairingId.text row) tables := by
  have stays {tables' : PairingTables}
      (same : tables'.outbox.lookup pairingId.text = _) :
      ¬ Settled .joiner tables' pairingId :=
    not_settled (congrArg (Option.map _) found) outstanding
      (congrArg (Option.map _) same)
  cases frame <;> cases terminal
  case pairingRejected =>
      simp only [afterTerminal, peerOutcome_rejection found outstanding]
      exact put_settles_joiner found outstanding rfl
  case pairingCancelled => exact iff_of_false (stays rfl) id
  case pairingFinalized =>
      cases inbox : tables.inbox.lookup pairingId.text with
      | some other =>
        refine iff_of_false (stays (Runtime.finalized_outbox inbox)) ?_
        simp [Settles, pairingOutboxItem, inbox]
      | none =>
        rcases InviteState.outstanding_cases outstanding with
          pending | accepted
        · have refused : (Runtime.finalized pairingId.text
              tables).toOption = none := by
            simp [Runtime.finalized, inbox, found, pending,
              nextStateForPeerOutcome, Except.toOption]
          refine iff_of_false (stays ?_) ?_
          · simp only [afterTerminal, refused, Option.getD_none]
          · simp [Settles, pairingOutboxItem, pending]
        · have put : Runtime.finalized pairingId.text tables =
              putPairingOutbox tables (normalizePairingItem
                { pairingOutboxItem pairingId.text row with
                  state := .completed }) := by
            simp [Runtime.finalized, inbox, found, accepted,
              nextStateForPeerOutcome]
          simp only [afterTerminal, put]
          rw [put_settles_joiner found outstanding rfl]
          simp [Settles, pairingOutboxItem, accepted, inbox]

end

/-- A terminal frame that the relay delivers settles the party's outstanding
item exactly under these conditions on the frame and the stored tables. -/
theorem terminal_frame_settles_iff
    {Digest : Type} [DecidableEq Digest] (hash : String → Digest)
    (relay : Relay.State Digest) (pairingId : Uuid) (party : Party)
    (frame : RendezvousServerFrame)
    (delivered : Relay.Delivers hash relay pairingId party frame)
    (P : Primitives) (openBox : Bytes → Key32 → Bytes → Option Bytes)
    (client : RelayClient) (actor : Actor P)
    (quiet : actor.host.world.Quiet) (idle : actor.Idle) (item : PairingItem)
    (stored : party.item actor.database.pairing pairingId = some item)
    (outstanding : item.state.isOutstanding = true) :
    Settled party (client.deliver P openBox frame actor).database.pairing
        pairingId ↔
      Settles party frame item actor.database.pairing := by
  rw [RelayClient.deliver_pairing quiet idle openBox client delivered.terminal]
  cases party with
  | owner =>
    obtain ⟨row, found, rfl⟩ := Option.map_eq_some_iff.mp stored
    exact settles_owner_iff delivered.terminal found outstanding
  | joiner =>
    obtain ⟨row, found, rfl⟩ := Option.map_eq_some_iff.mp stored
    exact settles_joiner_iff delivered.terminal found outstanding

/-! A pairing that the relay has bridged, and a device that waits for it. -/

namespace Relay

def chance (name : String) : Chance where
  clock _ := 0
  tokens draw := name ++ " " ++ toString draw
  codes := [⟨Vector.replicate 8 (Fin.last 9)⟩]

def bridging : List Input :=
  [.command (chance "owner") (.connected 1),
    .command (chance "joiner") (.connected 2),
    .command (chance "slot")
      (.frame 1 (.createPairingSlot 0 (Vector.replicate 32 0) 120)),
    .command (chance "side")
      (.frame 2 (.beginPairing 0 7 "slot 0" (Vector.replicate 32 0) []))]

def bridged : State String := (actor id).run .empty bridging

theorem bridged_reachable : (actor id).Reachable bridged := by
  refine Machine.Reachable.run .init bridging ?_
  exact ⟨⟨rfl, _, rfl⟩, ⟨rfl, _, rfl⟩, ⟨rfl, _, rfl⟩, ⟨trivial, _, rfl⟩,
    trivial⟩

end Relay

def waitingItem : PairingItem where
  pairingId := Uuid.text 7
  pairKey := none
  sender := some
    { installationId := "peer", nickname := "peer-peer", publicKey := ""
      fingerprint := "" }
  capability := some "capability"
  expiresAt := 180
  state := .pending
  received := false
  availableActions := pairingAvailableActions .pending false
  offerInviteId := none
  offerPayload := none

def waiting (party : Party) : Actor (.plain "me") :=
  Actor.assemble (.plain "me")
    { Database.empty with
      pairing := (match party with
        | .owner => putPairingInbox .empty waitingItem
        | .joiner => putPairingOutbox .empty waitingItem).toOption.getD .empty }
    .empty false none 0 (.initial (.calm 0))

def heard (party : Party) (frame : RendezvousServerFrame) : PairingTables :=
  (RelayClient.empty.deliver (.plain "me") (fun _ _ _ => none) frame
    (waiting party)).database.pairing

theorem delivers_cancelled (party : Party) :
    Relay.Delivers id Relay.bridged 7 party (.pairingCancelled 7) where
  terminal := rfl
  sent := by
    refine ⟨_, rfl, Relay.chance "", 1, .cancelPairing 7 "side 0", _, rfl, ?_⟩
    cases party <;> decide

theorem delivers_rejected (party : Party) :
    Relay.Delivers id Relay.bridged 7 party (.pairingRejected 7) where
  terminal := rfl
  sent := by
    refine ⟨_, rfl, Relay.chance "", 1, .rejectPairing 7 "side 0", _, rfl, ?_⟩
    cases party <;> decide

/-- A rejection settles what the joiner waits for. -/
theorem joiner_settles_on_rejection :
    Settled .joiner (heard .joiner (.pairingRejected 7)) 7 :=
  (terminal_frame_settles_iff id Relay.bridged 7 .joiner (.pairingRejected 7)
    (delivers_rejected .joiner) (.plain "me") (fun _ _ _ => none) .empty
    (waiting .joiner) (World.calm_quiet 0) rfl waitingItem (by decide +kernel)
    rfl).mpr rfl

/-- A cancelled pairing stays pending on both devices, a rejected one on the
owner's. -/
theorem terminal_frames_leave_items_outstanding :
    (Relay.actor id).Reachable Relay.bridged ∧
    (∀ party, Relay.Delivers id Relay.bridged 7 party (.pairingCancelled 7) ∧
      (waiting party).host.world.Quiet ∧ (waiting party).Idle ∧
      (party.item (waiting party).database.pairing 7).map PairingItem.state =
        some .pending ∧
      (party.item (heard party (.pairingCancelled 7)) 7).map
        PairingItem.state = some .pending) ∧
    Relay.Delivers id Relay.bridged 7 .owner (.pairingRejected 7) ∧
    (Party.owner.item (heard .owner (.pairingRejected 7)) 7).map
      PairingItem.state = some .pending := by
  refine ⟨Relay.bridged_reachable, ?_, delivers_rejected .owner, by decide +kernel⟩
  intro party
  refine ⟨delivers_cancelled party, World.calm_quiet 0, rfl, ?_, ?_⟩ <;>
    cases party <;> decide +kernel

end Torchat
