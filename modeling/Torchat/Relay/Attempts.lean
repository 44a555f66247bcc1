import Torchat.Foundation.SlidingWindow
import Torchat.Relay.Authorization

namespace Torchat.Relay

open Foundation

variable {id : ConnectionId}

def attempts (connections : Connections) (id : ConnectionId) :
    Option (List Int) :=
  (connections.lookup id).map Connection.attempts

theorem attempts_modify_of_same
    (same : ∀ connection, (f connection).attempts = connection.attempts) :
    attempts (Table.modify connections sender f) id = attempts connections id :=
  Table.map_lookup_modify same sender id

@[simp] theorem attempts_chargePairing :
    attempts (chargePairing connections sender) id = attempts connections id :=
  attempts_modify_of_same fun _ => rfl

@[simp] theorem attempts_releasePairing :
    attempts (releasePairing connections sender) id = attempts connections id :=
  attempts_modify_of_same fun _ => rfl

@[simp] theorem attempts_releaseSlot :
    attempts (releaseSlot connections sender) id = attempts connections id :=
  attempts_modify_of_same fun _ => rfl

variable {relay : State Digest}

@[simp] theorem attempts_dropBridges :
    attempts (dropBridges relay selected).connections id =
      attempts relay.connections id :=
  map_lookup_releaseBridges fun _ _ => rfl

@[simp] theorem reject_connections :
    (reject relay id requestId code).connections = relay.connections :=
  send_connections _ _ _

/-! ## The answers to one connection's guesses -/

def reading (id : ConnectionId) : Input → Option Int
  | .command chance (.frame sender (.resolvePairingCode ..)) =>
    if sender = id then some (chance.clock 0) else none
  | _ => none

/-- The reading of a resolve frame of `id` that a step answers otherwise than
with `rate_limited`. -/
def answered (id : ConnectionId) (before after : State Digest) :
    Input → List Int
  | .command chance (.frame sender (.resolvePairingCode requestId _)) =>
    if sender = id ∧ ∃ answer ∈ before.news after,
        answer.1 = id ∧
          answer.2 ≠ .error (some requestId) "rate_limited" then
      [chance.clock 0]
    else
      []
  | _ => []

theorem answered_of_silent (silent : reading id input = none) :
    answered id before after input = [] := by
  unfold answered
  split
  · refine if_neg fun own => ?_
    simp [reading, own.1] at silent
  · rfl

def Limited (id : ConnectionId) (last : Int) (log : List Int)
    (relay : State Digest) : Prop :=
  ∃ kept, Window 60 maxCodeAttempts last kept log ∧
    ∀ connection, relay.connections.lookup id = some connection →
      connection.attempts = kept

theorem Limited.still (limited : Limited id last log relay)
    (same : after.connections.lookup id = none ∨
      attempts after.connections id = attempts relay.connections id) :
    Limited id last log after := by
  obtain ⟨kept, window, held⟩ := limited
  refine ⟨kept, window, fun connection found => ?_⟩
  cases same with
  | inl gone => simp [gone] at found
  | inr same =>
    rw [attempts, found, Option.map_some] at same
    obtain ⟨previous, looked, equal⟩ := Option.map_eq_some_iff.mp same.symm
    rw [← equal]
    exact held previous looked

variable [DecidableEq Digest] {hash : String → Digest}

@[simp] theorem attempts_finishPairing :
    attempts (finishPairing relay pairingId frame).connections id =
      attempts relay.connections id := by
  unfold finishPairing
  split
  · rfl
  · dsimp only
    split <;> simp

theorem createPairingSlot_attempts
    (done : createPairingSlot hash chance relay sender connection requestId key
      ttl = .ok after) :
    attempts after.connections id = attempts relay.connections id := by
  unfold createPairingSlot at done
  split at done
  · cases done
    simp
  · dsimp only at done
    split at done
    · cases done
    · cases done
      rw [send_connections]
      exact attempts_modify_of_same fun _ => rfl

theorem beginPairing_attempts
    (done : beginPairing hash chance relay sender connection requestId pairingId
      slotHandle key offer = .ok after) :
    attempts after.connections id = attempts relay.connections id := by
  unfold beginPairing at done
  repeat' split at done
  all_goals
    cases done <;> simp [openBridge]

theorem acceptPairing_attempts :
    attempts
      (acceptPairing hash relay sender pairingId token response).connections id =
      attempts relay.connections id := by
  unfold acceptPairing
  repeat' split
  all_goals simp

theorem cancelPairingSlot_attempts :
    attempts
      (cancelPairingSlot hash relay sender handle capability).connections id =
      attempts relay.connections id := by
  unfold cancelPairingSlot
  repeat' split
  all_goals simp

theorem resolvePairingCode_cases
    (online : relay.connections.lookup id = some connection)
    (requestId : Uuid) (displayCode : String) :
    ∃ kept answer,
      (resolvePairingCode hash chance relay id connection requestId
        displayCode).connections =
        relay.connections.modify id
          (fun connection => { connection with attempts := kept }) ∧
      (resolvePairingCode hash chance relay id connection requestId
        displayCode).sent = relay.sent ++ [(id, answer)] ∧
      let counting := recent 60 connection.attempts (chance.clock 0)
      kept = counting ∧ answer = .error (some requestId) "rate_limited" ∨
        counting.length < maxCodeAttempts ∧
          kept = counting ++ [chance.clock 0] ∧
          answer ≠ .error (some requestId) "rate_limited" := by
  have still : ∀ kept : List Int,
      (relay.connections.modify id fun connection =>
        { connection with attempts := kept }).contains id = true := by
    intro kept
    rw [Table.contains_modify, Table.contains, online]
    rfl
  have sent : ∀ (kept : List Int) metrics answer,
      (send { relay with
          connections := relay.connections.modify id fun connection =>
            { connection with attempts := kept }
          metrics := metrics } id answer).sent =
        relay.sent ++ [(id, answer)] := by
    intro kept metrics answer
    rw [send_sent, delivered_online (still kept)]
  unfold resolvePairingCode reject
  dsimp only
  split
  case isTrue =>
    exact ⟨_, _, send_connections _ _ _, sent _ _ _, .inl ⟨rfl, rfl⟩⟩
  case isFalse room =>
    have room := Nat.lt_of_not_ge room
    repeat' split
    all_goals
      exact ⟨_, _, send_connections _ _ _, sent _ _ _,
        .inr ⟨room, rfl, by simp⟩⟩

def answeredAll (hash : String → Digest) (id : ConnectionId) :
    State Digest → List Input → List Int
  | _, [] => []
  | relay, input :: rest =>
    answered id relay ((actor hash).next relay input) input ++
      answeredAll hash id ((actor hash).next relay input) rest

theorem processFrame_attempts
    (silent : reading id (.command chance (.frame sender frame)) = none)
    (done : processFrame hash chance relay sender frame = .ok after) :
    attempts after.connections id = attempts relay.connections id := by
  unfold processFrame at done
  split at done
  case h_1 => cases done; rfl
  case h_2 connection online =>
    cases frame with
    | ping =>
      cases done
      rw [send_connections]
    | createPairingSlot requestId key ttl =>
      exact createPairingSlot_attempts done
    | resolvePairingCode requestId code =>
      have other : id ≠ sender := by
        rintro rfl
        simp [reading] at silent
      cases done
      obtain ⟨kept, answer, connections, -, -⟩ :=
        resolvePairingCode_cases online requestId code
      rw [connections, attempts, Table.lookup_modify, if_neg other, attempts]
    | beginPairing requestId pairingId handle key offer =>
      exact beginPairing_attempts done
    | acceptPairing pairingId token response =>
      cases done
      exact acceptPairing_attempts
    | cancelPairingSlot handle capability =>
      cases done
      exact cancelPairingSlot_attempts
    | _ =>
      dsimp only at done
      split at done <;> cases done <;> simp

theorem step_attempts (silent : reading id input = none)
    (other : ∀ chance, input ≠ .command chance (.connected id))
    (done : step hash relay input = .ok after) :
    after.connections.lookup id = none ∨
      attempts after.connections id = attempts relay.connections id := by
  cases input with
  | tick now =>
    cases done
    exact .inr attempts_dropBridges
  | command chance command =>
    cases command with
    | connected newcomer =>
      have differs : id ≠ newcomer := by
        rintro rfl
        exact other chance rfl
      cases done
      refine .inr ?_
      unfold connect attempts syncMetrics
      split
      · rw [Table.lookup_insert, if_neg differs]
      · rfl
    | disconnected leaver =>
      cases done
      have kept : attempts
          (syncMetrics (disconnect relay leaver)).connections id =
          attempts (relay.connections.erase leaver) id :=
        attempts_dropBridges
      by_cases same : id = leaver
      · left
        subst same
        unfold attempts at kept
        rw [Table.lookup_erase, if_pos rfl] at kept
        exact Option.map_eq_none_iff.mp kept
      · right
        rw [kept, attempts, attempts, Table.lookup_erase, if_neg same]
    | frame sender frame =>
      rw [step, handleCommand] at done
      cases processed : processFrame hash chance relay sender frame with
      | error halt => rw [processed] at done; cases done
      | ok reached =>
        rw [processed] at done
        cases done
        have kept := processFrame_attempts silent processed
        exact .inr kept

theorem Limited.resolve (limited : Limited id last log relay)
    (online : relay.connections.lookup id = some connection)
    (later : last ≤ chance.clock 0) :
    let after := syncMetrics
      (resolvePairingCode hash chance relay id connection requestId code)
    Limited id (chance.clock 0) (log ++ answered id relay after
        (.command chance (.frame id (.resolvePairingCode requestId code))))
      after := by
  obtain ⟨_, window, held⟩ := limited
  cases held connection online
  obtain ⟨kept, answer, connections, sent, decided⟩ :=
    resolvePairingCode_cases online requestId code
  have news : relay.news (syncMetrics (resolvePairingCode hash chance relay id
      connection requestId code)) = [(id, answer)] := news_of_grown sent
  refine ⟨kept, ?_, fun connection found => ?_⟩
  · simp only [answered, news, List.mem_singleton, exists_eq_left, true_and]
    cases decided with
    | inl refused =>
      rw [refused.1, refused.2, if_neg (by simp), List.append_nil]
      exact window.refuse later
    | inr taken =>
      rw [taken.2.1, if_pos taken.2.2]
      exact window.grant later taken.1
  · rw [syncMetrics, connections, Table.lookup_modify, if_pos rfl, online]
      at found
    cases found
    rfl

theorem reading_eq_some (heard : reading id input = some now) :
    ∃ chance requestId code, now = chance.clock 0 ∧
      input = .command chance (.frame id (.resolvePairingCode requestId code)) := by
  unfold reading at heard
  split at heard
  case h_2 => cases heard
  case h_1 chance sender requestId code =>
    split at heard
    case isFalse => cases heard
    case isTrue same =>
      cases heard
      exact ⟨chance, requestId, code, rfl, by rw [same]⟩

theorem Limited.next (limited : Limited id last log relay)
    (later : ∀ now ∈ reading id input, last ≤ now)
    (other : ∀ chance, input ≠ .command chance (.connected id)) :
    Limited id ((reading id input).getD last)
      (log ++ answered id relay ((actor hash).next relay input) input)
      ((actor hash).next relay input) := by
  cases heard : reading id input with
  | none =>
    rw [answered_of_silent heard, List.append_nil, Option.getD_none]
    unfold actor
    dsimp only
    split
    case h_1 after done => exact limited.still (step_attempts heard other done)
    case h_2 => exact limited
  | some now =>
    have ordered := later now heard
    obtain ⟨chance, requestId, code, rfl, rfl⟩ := reading_eq_some heard
    cases online : relay.connections.lookup id with
    | none =>
      have next : (actor hash).next relay (.command chance
          (.frame id (.resolvePairingCode requestId code))) =
          syncMetrics relay := by
        simp [actor, step, handleCommand, processFrame, online]
      have news : relay.news (syncMetrics relay) = [] :=
        List.drop_length
      obtain ⟨kept, window, -⟩ := limited
      rw [next]
      refine ⟨kept, ?_, fun connection found => ?_⟩
      · simpa [answered, news] using window.advance ordered
      · cases online.symm.trans found
    | some connection =>
      have next : (actor hash).next relay (.command chance
          (.frame id (.resolvePairingCode requestId code))) =
          syncMetrics (resolvePairingCode hash chance relay id connection
            requestId code) := by
        simp [actor, step, handleCommand, processFrame, online]
      rw [next]
      exact limited.resolve online ordered

theorem Limited.run (limited : Limited id last log relay)
    (own : ∀ chance, .command chance (.connected id) ∉ inputs)
    (ordered : (last :: inputs.filterMap (reading id)).Pairwise (· ≤ ·)) :
    ∃ final, Limited id final (log ++ answeredAll hash id relay inputs)
      ((actor hash).run relay inputs) := by
  induction inputs generalizing relay last log with
  | nil =>
    refine ⟨last, ?_⟩
    rw [answeredAll, List.append_nil]
    exact limited
  | cons input rest induction =>
    have stepped : Limited id ((reading id input).getD last)
        (log ++ answered id relay ((actor hash).next relay input) input)
        ((actor hash).next relay input) := by
      refine limited.next (fun now heard => ?_) fun chance same => ?_
      · rw [List.filterMap_cons_some heard] at ordered
        exact List.rel_of_pairwise_cons ordered List.mem_cons_self
      · exact own chance (same ▸ List.mem_cons_self)
    have rested : ((reading id input).getD last ::
        rest.filterMap (reading id)).Pairwise (· ≤ ·) := by
      cases heard : reading id input with
      | none => rwa [List.filterMap_cons_none heard] at ordered
      | some now =>
        rw [List.filterMap_cons_some heard] at ordered
        exact ordered.of_cons
    obtain ⟨final, reached⟩ := induction stepped
      (fun chance member => own chance (List.mem_cons_of_mem _ member)) rested
    refine ⟨final, ?_⟩
    rw [Machine.run_cons, answeredAll, ← List.append_assoc]
    exact reached

/-- From the moment a client is connected, whatever frames, other clients and
ticks follow: of its guesses at most `maxCodeAttempts` are answered within less
than a minute, and its list of attempts holds no more. -/
theorem code_guessing_is_limited
    (hash : String → Digest) {start : State Digest} {inputs : List Input}
    (connected : attempts start.connections id = some [])
    (own : ∀ chance, .command chance (.connected id) ∉ inputs)
    (ordered : (inputs.filterMap (reading id)).Pairwise (· ≤ ·)) :
    (∀ first final, final - first < 60 →
      (answeredAll hash id start inputs).countP
        (fun time => first ≤ time ∧ time ≤ final) ≤ maxCodeAttempts) ∧
    ∀ kept, attempts ((actor hash).run start inputs).connections id = some kept →
      kept.length ≤ maxCodeAttempts := by
  have limited : ∀ last, Limited id last [] start := by
    refine fun last => ⟨[], .empty, fun connection found => ?_⟩
    rw [attempts, found] at connected
    exact Option.some.inj connected
  have started : ∃ last,
      (last :: inputs.filterMap (reading id)).Pairwise (· ≤ ·) := by
    cases readings : inputs.filterMap (reading id) with
    | nil => exact ⟨0, List.pairwise_singleton _ _⟩
    | cons first rest =>
      rw [readings] at ordered
      refine ⟨first, List.pairwise_cons.mpr ⟨?_, ordered⟩⟩
      intro now member
      cases member with
      | head => exact le_refl first
      | tail _ member => exact List.rel_of_pairwise_cons ordered member
  obtain ⟨last, ordered⟩ := started
  obtain ⟨_, kept, window, held⟩ := (limited last).run own ordered
  refine ⟨window.sparse, fun found same => ?_⟩
  obtain ⟨connection, looked, rfl⟩ := Option.map_eq_some_iff.mp same
  rw [held connection looked]
  exact window.short

def oneClient : State String := connect .empty ⟨7⟩

def sixGuesses : List Input :=
  .replicate 6 (.command ⟨fun _ => 0, fun _ => "", []⟩
    (.frame ⟨7⟩ (.resolvePairingCode ⟨1⟩ "1234")))

theorem sixth_guess_is_refused :
    answeredAll (fun text => text) ⟨7⟩ oneClient sixGuesses =
        [0, 0, 0, 0, 0] ∧
      (answeredAll (fun text => text) ⟨7⟩ oneClient sixGuesses).countP
        (fun time => (0 : Int) ≤ time ∧ time ≤ 59) ≤ maxCodeAttempts := by
  refine ⟨by decide, ?_⟩
  refine (code_guessing_is_limited _ (by decide) ?_ (by decide)).1 0 59
    (by decide)
  intro chance member
  cases List.eq_of_mem_replicate member

end Torchat.Relay
