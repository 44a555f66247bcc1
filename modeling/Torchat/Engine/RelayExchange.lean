import Torchat.Engine.Relay
import Torchat.Foundation.Machine

namespace Torchat

open Foundation

structure InviteCode where
  code : String
  expiresAt : Int

structure RendezvousBox where
  openBox : Bytes → Key32 → Bytes → Option Bytes
  sealBox : Bytes → Key32 → Bytes → Except String Bytes
  publicKey : Bytes → Key32

/-- The channels to the worker thread. It ends with its first error, so that the
error comes behind every frame. -/
structure RendezvousWorker where
  commands : List RendezvousClientFrame
  frames : List RendezvousServerFrame
  failure : Option String

inductive RelayRequest
  | refreshPairingCode (requestId : Uuid) (rendezvousKey : Bytes)
  | resolvePairingCode (requestId : Uuid) (pairingId : Uuid) (offer : Bytes)
  | beginPairing (requestId : Uuid)
  deriving DecidableEq

inductive RelayReply
  | inviteCode (code : InviteCode)
  | pairingItem (item : PairingItem)

inductive RelayProgress
  | waits (request : RelayRequest)
  | replies (reply : RelayReply)

structure RelayChance where
  joinerKey : Except String Bytes
  requestId : Uuid
  now : Int

structure SharedRelayActor where
  client : RelayClient
  joinerTokens : Table Uuid String
  activeSlot : Option (String × String)
  socks5Url : Option String
  worker : Option RendezvousWorker

namespace SharedRelayActor

def initial : SharedRelayActor := ⟨.empty, .empty, none, none, none⟩

def queued (actor : SharedRelayActor) : List RendezvousServerFrame :=
  actor.worker.elim [] RendezvousWorker.frames

abbrev Call := Program SharedRelayActor RuntimeError

def startRendezvous : Call Unit := do
  if ← Program.read fun actor => actor.worker.isSome then
    return
  if ← Program.read fun actor => actor.socks5Url.isNone then
    Program.fail (.unavailable "Tor SOCKS endpoint is not ready")
  Program.modify fun actor => { actor with worker := some ⟨[], [], none⟩ }

def close : Call Unit :=
  Program.modify fun actor => { actor with worker := none }

def sendFrame (frame : RendezvousClientFrame) : Call Unit := do
  startRendezvous
  match ← Program.read SharedRelayActor.worker with
  | none => Program.fail (.unavailable "rendezvous worker unavailable")
  | some worker =>
    if worker.failure.isSome then
      close
      Program.fail (.unavailable "rendezvous connection closed")
    Program.modify fun actor =>
      { actor with
        worker := some { worker with commands := worker.commands ++ [frame] } }

def receiveFrame : Call RendezvousServerFrame := do
  match ← Program.read SharedRelayActor.worker with
  | none => Program.fail (.unavailable "rendezvous worker unavailable")
  | some worker =>
    match worker.frames, worker.failure with
    | frame :: rest, _ =>
      Program.modify fun actor =>
        { actor with worker := some { worker with frames := rest } }
      return frame
    | [], some error =>
      close
      Program.fail (.unavailable error)
    | [], none =>
      Program.fail (.unavailable
        "rendezvous response timeout: timed out waiting on channel")

def setSocks5Url (socks5Url : Option String) (actor : SharedRelayActor) :
    SharedRelayActor :=
  { actor with
    worker := if actor.socks5Url ≠ socks5Url then none else actor.worker
    socks5Url := socks5Url }

def cancelActiveSlot : Call Unit := do
  match ← Program.read SharedRelayActor.activeSlot with
  | none => return
  | some (slotHandle, slotCapability) =>
    Program.modify fun actor => { actor with activeSlot := none }
    sendFrame (.cancelPairingSlot slotHandle slotCapability)

section Requests

variable (P : Primitives) (box : RendezvousBox)

def refreshPairingCode (requestId : Uuid) (rendezvousKey : Except String Bytes) :
    Call RelayRequest := do
  startRendezvous
  cancelActiveSlot
  let rendezvousKey ←
    Program.ofExcept (rendezvousKey.mapError RuntimeError.unavailable)
  sendFrame (.createPairingSlot requestId (box.publicKey rendezvousKey) 120)
  return .refreshPairingCode requestId rendezvousKey

def submitPairingCodeWithOffer (code : String) (pairingId : Uuid)
    (offer : Bytes) (requestId : Uuid) : Call RelayRequest := do
  startRendezvous
  sendFrame (.resolvePairingCode requestId code)
  return .resolvePairingCode requestId pairingId offer

def slotCreated
    (rendezvousKey : Bytes) (slotHandle displayCode slotCapability : String)
    (expiresAtUnix : Int) : Call RelayProgress := do
  Program.modify fun actor =>
    { actor with
      client :=
        { actor.client with
          rendezvousPrivateKeys :=
            actor.client.rendezvousPrivateKeys.insert slotHandle rendezvousKey }
      activeSlot := some (slotHandle, slotCapability) }
  return .replies (.inviteCode ⟨displayCode, expiresAtUnix⟩)

def slotResolved (pairingId : Uuid) (offer : Bytes) (slotHandle : String)
    (ownerKey : Key32) (chance : RelayChance) : Call RelayProgress := do
  Program.modify fun actor =>
    { actor with
      client := actor.client.rememberInvitePairing P pairingId offer }
  let joinerKey ←
    Program.ofExcept (chance.joinerKey.mapError RuntimeError.unavailable)
  Program.modify fun actor =>
    { actor with
      client :=
        { actor.client with
          pairingPrivateKeys :=
            actor.client.pairingPrivateKeys.insert pairingId joinerKey
          pairingPeerKeys :=
            actor.client.pairingPeerKeys.insert pairingId ownerKey } }
  let encryptedOffer ← Program.ofExcept
    ((box.sealBox joinerKey ownerKey offer).mapError RuntimeError.unavailable)
  sendFrame (.beginPairing chance.requestId pairingId slotHandle
    (box.publicKey joinerKey) encryptedOffer)
  return .waits (.beginPairing chance.requestId)

def pairingStarted (started : Uuid) (token : String) (now : Int) :
    Call RelayProgress := do
  Program.modify fun actor =>
    { actor with joinerTokens := actor.joinerTokens.insert started token }
  return .replies (.pairingItem
    { pairingId := started.text
      pairKey := none
      sender := none
      capability := none
      expiresAt := now + 180
      state := .pending
      received := false
      availableActions := []
      offerInviteId := none
      offerPayload := none })

def unexpected : RuntimeError := .unavailable "unexpected rendezvous response"

/-- What a waiting call does with the frame it has received. The id of a
`PairingStarted` and of an error is not looked at. -/
def continueWith (chance : RelayChance) (request : RelayRequest)
    (frame : RendezvousServerFrame) : Call RelayProgress :=
  match request, frame with
  | .refreshPairingCode requestId rendezvousKey,
      .pairingSlotCreated received slotHandle displayCode slotCapability
        expiresAtUnix =>
      if received = requestId then
        slotCreated rendezvousKey slotHandle displayCode slotCapability
          expiresAtUnix
      else
        Program.fail unexpected
  | .resolvePairingCode requestId pairingId offer,
      .pairingSlotResolved received slotHandle ownerKey _ =>
      if received = requestId then
        slotResolved P box pairingId offer slotHandle ownerKey chance
      else
        Program.fail unexpected
  | .beginPairing _, .pairingStarted _ started token _ =>
    pairingStarted started token chance.now
  | _, .error _ code => Program.fail (.unavailable code)
  | _, _ => Program.fail unexpected

def pollEvent (actor : SharedRelayActor) :
    Option (RendezvousServerFrame × Option RelayEvent) × SharedRelayActor :=
  match actor.worker with
  | none => (none, actor)
  | some worker =>
    match worker.frames, worker.failure with
    | frame :: rest, _ =>
      let polled := actor.client.pollEvent P box.openBox frame
      (some (frame, polled.1),
        { actor with
          client := polled.2
          worker := some { worker with frames := rest } })
    | [], some _ => (none, { actor with worker := none })
    | [], none => (none, actor)

end Requests

end SharedRelayActor

namespace RelayRequest

def requestId : RelayRequest → Uuid
  | refreshPairingCode requestId _ => requestId
  | resolvePairingCode requestId _ _ => requestId
  | beginPairing requestId => requestId

def AnsweredBy (request : RelayRequest) (frame : RendezvousServerFrame) : Prop :=
  match request, frame with
  | refreshPairingCode requestId _, .pairingSlotCreated received _ _ _ _ =>
    received = requestId
  | resolvePairingCode requestId _ _, .pairingSlotResolved received _ _ _ =>
    received = requestId
  | beginPairing requestId, .pairingStarted received _ _ _ =>
    received = requestId
  | request, .error received _ => received = some request.requestId
  | _, _ => False

def takes (request : RelayRequest) (frame : RendezvousServerFrame) : Bool :=
  match request, frame with
  | refreshPairingCode requestId _, .pairingSlotCreated received _ _ _ _ =>
    received = requestId
  | resolvePairingCode requestId _ _, .pairingSlotResolved received _ _ _ =>
    received = requestId
  | beginPairing _, .pairingStarted _ _ _ _ => true
  | _, .error _ _ => true
  | _, _ => false

def Last : RelayRequest → Prop
  | resolvePairingCode _ _ _ => False
  | _ => True

end RelayRequest

inductive FrameFate
  | answered (request : RelayRequest)
  | surfaced (event : RelayEvent)
  | dropped
  deriving DecidableEq

/-- The actor with the call it is in, the frames its worker has received and
what has become of those it took, oldest first. -/
structure RelayExchange where
  actor : SharedRelayActor
  waiting : Option RelayRequest
  received : List RendezvousServerFrame
  fates : List (RendezvousServerFrame × FrameFate)

inductive ExchangeEvent
  | delivered (frame : RendezvousServerFrame)
  | failed (error : String)
  | torChanged (socks5Url : Option String)
  | refreshed (requestId : Uuid) (rendezvousKey : Except String Bytes)
  | submitted
      (code : String) (pairingId : Uuid) (offer : Bytes) (requestId : Uuid)
  | continued (chance : RelayChance)
  | polled

namespace RelayExchange

def initial : RelayExchange := ⟨.initial, none, [], []⟩

def onWorker (exchange : RelayExchange)
    (f : RendezvousWorker → RendezvousWorker) : RelayExchange :=
  { exchange with
    actor := { exchange.actor with worker := exchange.actor.worker.map f } }

def begin (exchange : RelayExchange)
    (call : SharedRelayActor.Call RelayRequest) : RelayExchange :=
  let ran := call exchange.actor
  { exchange with
    actor := ran.2
    waiting := match ran.1 with
      | .ok request => some request
      | _ => none }

section Steps

variable (P : Primitives) (box : RendezvousBox)

def resume (exchange : RelayExchange) (chance : RelayChance)
    (request : RelayRequest) : RelayExchange :=
  match SharedRelayActor.receiveFrame exchange.actor with
  | (.ok frame, actor) =>
    let ran := SharedRelayActor.continueWith P box chance request frame actor
    { exchange with
      actor := ran.2
      waiting := match ran.1 with
        | .ok (.waits request) => some request
        | _ => none
      fates := exchange.fates ++
        [(frame, if request.takes frame then .answered request else .dropped)] }
  | (_, actor) => { exchange with actor := actor, waiting := none }

def poll (exchange : RelayExchange) : RelayExchange :=
  let polled := exchange.actor.pollEvent P box
  { exchange with
    actor := polled.2
    fates := exchange.fates ++ polled.1.toList.map fun taken =>
      (taken.1, taken.2.elim .dropped .surfaced) }

def next (exchange : RelayExchange) : ExchangeEvent → RelayExchange
  | .delivered frame =>
    { exchange.onWorker fun worker =>
        { worker with frames := worker.frames ++ [frame] } with
      received := exchange.received ++ [frame] }
  | .failed error =>
    exchange.onWorker fun worker => { worker with failure := some error }
  | .torChanged socks5Url =>
    { exchange with actor := exchange.actor.setSocks5Url socks5Url }
  | .refreshed requestId rendezvousKey =>
    exchange.begin
      (SharedRelayActor.refreshPairingCode box requestId rendezvousKey)
  | .submitted code pairingId offer requestId =>
    exchange.begin
      (SharedRelayActor.submitPairingCodeWithOffer code pairingId offer
        requestId)
  | .continued chance =>
    match exchange.waiting with
    | none => exchange
    | some request => exchange.resume P box chance request
  | .polled => exchange.poll P box

end Steps

def Enabled (exchange : RelayExchange) : ExchangeEvent → Prop
  | .delivered _ | .failed _ =>
    ∃ worker, exchange.actor.worker = some worker ∧ worker.failure = none
  | .continued _ => exchange.waiting.isSome = true
  | _ => exchange.waiting = none

/-- Each frame is still queued, or was the response to the request in progress,
or was reported. -/
structure NoFrameLost (exchange : RelayExchange) : Prop where
  accounted : exchange.received =
    exchange.fates.map Prod.fst ++ exchange.actor.queued
  answered : ∀ frame request, (frame, .answered request) ∈ exchange.fates →
    request.AnsweredBy frame
  kept : ∀ frame, (frame, .dropped) ∉ exchange.fates

end RelayExchange

def relayExchange (P : Primitives) (box : RendezvousBox) :
    Machine RelayExchange ExchangeEvent where
  init := .initial
  enabled := RelayExchange.Enabled
  next := RelayExchange.next P box

def RelayClient.Reports
    (openBox : Bytes → Key32 → Bytes → Option Bytes) (client : RelayClient) :
    RendezvousServerFrame → Prop
  | .pairingRequested _ slotHandle _ publicKey offer _ =>
    ∃ privateKey, client.rendezvousPrivateKeys.lookup slotHandle =
      some privateKey ∧ (openText openBox privateKey publicKey offer).isSome
  | .pairingAccepted pairingId response =>
    ∃ privateKey publicKey,
      client.pairingPrivateKeys.lookup pairingId = some privateKey ∧
      client.pairingPeerKeys.lookup pairingId = some publicKey ∧
      (openText openBox privateKey publicKey response).isSome
  | .pairingRejected _ | .pairingFinalized _ => True
  | _ => False

theorem RelayClient.pollEvent_isSome_iff
    (P : Primitives) (openBox : Bytes → Key32 → Bytes → Option Bytes)
    (client : RelayClient) (frame : RendezvousServerFrame) :
    (client.pollEvent P openBox frame).1.isSome = true ↔
      client.Reports openBox frame := by
  cases frame with
  | pairingRequested pairingId slotHandle token publicKey offer expires =>
    simp only [pollEvent, Reports]
    cases client.rendezvousPrivateKeys.lookup slotHandle with
    | none => simp
    | some privateKey =>
      cases opened : openText openBox privateKey publicKey offer with
      | none | some => simp [opened]
  | pairingAccepted pairingId response =>
    simp only [pollEvent, Reports]
    cases client.pairingPrivateKeys.lookup pairingId with
    | none => simp
    | some privateKey =>
      cases client.pairingPeerKeys.lookup pairingId with
      | none | some => simp
  | _ => simp [pollEvent, Reports]

namespace RelayExchange

/-- The server answers a request before anything else, and a request is only made
when everything received before has been taken. -/
def Lockstep (box : RendezvousBox) (exchange : RelayExchange) :
    ExchangeEvent → Prop
  | .delivered frame =>
    ∀ request, exchange.waiting = some request →
      if exchange.actor.queued = [] then request.AnsweredBy frame
      else request.Last
  | .torChanged _ | .refreshed _ _ | .submitted _ _ _ _ =>
    exchange.actor.queued = []
  | .polled =>
    ∀ frame ∈ exchange.actor.queued.head?,
      exchange.actor.client.Reports box.openBox frame
  | .failed _ | .continued _ => True

end RelayExchange

/-! ## What the calls do to the queue -/

namespace SharedRelayActor

variable {actor : SharedRelayActor}

theorem receiveFrame_of_cons (queue : actor.queued = frame :: rest) :
    ∃ later, receiveFrame actor = (.ok frame, later) ∧ later.queued = rest := by
  cases held : actor.worker with
  | none => simp [queued, held] at queue
  | some worker =>
    simp only [queued, held, Option.elim_some] at queue
    refine ⟨{ actor with worker := some { worker with frames := rest } }, ?_,
      rfl⟩
    simp [receiveFrame, run_bind, held, queue]

theorem receiveFrame_of_nil (queue : actor.queued = []) :
    ∃ error later, receiveFrame actor = (.err error, later) ∧
      later.queued = [] := by
  cases held : actor.worker with
  | none =>
    refine ⟨.unavailable "rendezvous worker unavailable", actor, ?_, queue⟩
    simp [receiveFrame, run_bind, held]
  | some worker =>
    simp only [queued, held, Option.elim_some] at queue
    cases ended : worker.failure with
    | none =>
      refine ⟨.unavailable
        "rendezvous response timeout: timed out waiting on channel", actor,
        ?_, by simp [queued, held, queue]⟩
      simp [receiveFrame, run_bind, held, queue, ended]
    | some error =>
      refine ⟨.unavailable error, { actor with worker := none }, ?_, rfl⟩
      simp [receiveFrame, run_bind, held, queue, ended, close]

section Polling

variable (P : Primitives) (box : RendezvousBox)

theorem pollEvent_of_cons (queue : actor.queued = frame :: rest) :
    ∃ later,
      actor.pollEvent P box =
        (some (frame, (actor.client.pollEvent P box.openBox frame).1), later) ∧
      later.queued = rest := by
  cases held : actor.worker with
  | none => simp [queued, held] at queue
  | some worker =>
    simp only [queued, held, Option.elim_some] at queue
    refine ⟨{ actor with
      client := (actor.client.pollEvent P box.openBox frame).2
      worker := some { worker with frames := rest } }, ?_, rfl⟩
    simp [pollEvent, held, queue]

theorem pollEvent_of_nil (queue : actor.queued = []) :
    ∃ later, actor.pollEvent P box = (none, later) ∧ later.queued = [] := by
  cases held : actor.worker with
  | none => exact ⟨actor, by simp [pollEvent, held], queue⟩
  | some worker =>
    simp only [queued, held, Option.elim_some] at queue
    cases ended : worker.failure with
    | none =>
      refine ⟨actor, ?_, by simp [queued, held, queue]⟩
      simp [pollEvent, held, queue, ended]
    | some error =>
      refine ⟨{ actor with worker := none }, ?_, rfl⟩
      simp [pollEvent, held, queue, ended]

end Polling

def StaysEmpty (before after : SharedRelayActor) : Prop :=
  before.queued = [] → after.queued = []

instance : Frame StaysEmpty where
  refl _ := id
  trans first second := second ∘ first

theorem keeps_of_worker (same : ∀ actor, (f actor).worker = actor.worker) :
    (Program.modify f : Call Unit).Keeps StaysEmpty := by
  refine .modify fun actor empty => ?_
  rw [queued, same]
  exact empty

instance : startRendezvous.Keeps StaysEmpty := by
  have opened : (Program.modify fun actor => { actor with
      worker := some ⟨[], [], none⟩ } : Call Unit).Keeps StaysEmpty :=
    .modify fun _ _ => rfl
  unfold startRendezvous
  infer_instance

instance : (sendFrame frame).Keeps StaysEmpty := by
  refine .next fun _ => ⟨fun actor empty => ?_⟩
  rw [queued] at empty
  cases held : actor.worker with
  | none => simp [run_bind, held, queued]
  | some worker =>
    cases ended : worker.failure with
    | none => simpa [run_bind, held, ended, queued] using empty
    | some error => simp [run_bind, held, ended, close, queued]

instance : cancelActiveSlot.Keeps StaysEmpty := by
  refine .next fun slot => ?_
  cases slot with
  | none => infer_instance
  | some slot => exact .bind (keeps_of_worker fun _ => rfl) inferInstance

instance : (refreshPairingCode box requestId key).Keeps StaysEmpty := by
  unfold refreshPairingCode
  infer_instance

instance :
    (submitPairingCodeWithOffer code pairingId offer requestId).Keeps
      StaysEmpty := by
  unfold submitPairingCodeWithOffer
  infer_instance

instance :
    (slotResolved P box pairingId offer slotHandle ownerKey chance).Keeps
      StaysEmpty := by
  refine .bind (keeps_of_worker fun _ => rfl) fun _ =>
    .next fun _ => .bind (keeps_of_worker fun _ => rfl) ?_
  infer_instance

section Continuing

variable (P : Primitives) (box : RendezvousBox) (chance : RelayChance)

theorem continueWith_queued (last : request.Last)
    (frame : RendezvousServerFrame) (actor : SharedRelayActor) :
    (continueWith P box chance request frame actor).2.queued =
      actor.queued := by
  cases request with
  | resolvePairingCode requestId pairingId offer => exact last.elim
  | refreshPairingCode requestId key =>
    cases frame with
    | pairingSlotCreated received slotHandle displayCode capability expires =>
      simp only [continueWith]
      split <;> rfl
    | _ => rfl
  | beginPairing requestId => cases frame <;> rfl

theorem continueWith_stays_empty
    (request : RelayRequest) (frame : RendezvousServerFrame)
    (actor : SharedRelayActor) (empty : actor.queued = []) :
    (continueWith P box chance request frame actor).2.queued = [] := by
  by_cases last : request.Last
  · rw [continueWith_queued P box chance last, empty]
  cases request with
  | resolvePairingCode requestId pairingId offer =>
    cases frame with
    | pairingSlotResolved received slotHandle ownerKey expires =>
      have kept : (slotResolved P box pairingId offer slotHandle ownerKey
        chance).Keeps StaysEmpty := inferInstance
      simp only [continueWith]
      split
      · exact kept.run actor empty
      · exact empty
    | _ => exact empty
  | _ => exact absurd trivial last

theorem continueWith_waits
    (waits : (continueWith P box chance request frame actor).1 =
      .ok (.waits later)) : ¬ request.Last := by
  cases request with
  | resolvePairingCode requestId pairingId offer => exact id
  | refreshPairingCode requestId key =>
    cases frame with
    | pairingSlotCreated received slotHandle displayCode capability expires =>
      simp only [continueWith] at waits
      split at waits <;> cases waits
    | _ => cases waits
  | beginPairing requestId => cases frame <;> cases waits

end Continuing

end SharedRelayActor

theorem RelayRequest.AnsweredBy.takes {request : RelayRequest}
    (answered : request.AnsweredBy frame) : request.takes frame = true := by
  cases request <;> cases frame <;> simp_all [AnsweredBy, RelayRequest.takes]

namespace RelayExchange

/-- In lockstep a waiting call finds its own answer first, and nothing behind it
if it has another question. -/
structure InStep (exchange : RelayExchange) : Prop where
  lossless : exchange.NoFrameLost
  ready : ∀ request, exchange.waiting = some request →
    ∀ frame rest, exchange.actor.queued = frame :: rest →
      request.AnsweredBy frame ∧ (rest ≠ [] → request.Last)

section Steps

variable {exchange : RelayExchange}

theorem InStep.delivered
    (step : exchange.InStep) (enabled : exchange.Enabled (.delivered frame))
    (lockstep : exchange.Lockstep box (.delivered frame)) :
    (exchange.next P box (.delivered frame)).InStep := by
  obtain ⟨worker, held, -⟩ := enabled
  have queue : (exchange.next P box (.delivered frame)).actor.queued =
      exchange.actor.queued ++ [frame] := by
    simp [next, onWorker, SharedRelayActor.queued, held]
  refine ⟨⟨?_, step.lossless.answered, step.lossless.kept⟩, ?_⟩
  · rw [queue, ← List.append_assoc]
    exact congrArg (· ++ [frame]) step.lossless.accounted
  · intro request waits first rest
    rw [queue]
    have answers := lockstep request waits
    intro found
    cases earlier : exchange.actor.queued with
    | nil =>
      rw [if_pos earlier] at answers
      rw [earlier] at found
      obtain ⟨rfl, rfl⟩ := List.cons.inj found
      exact ⟨answers, fun more => absurd rfl more⟩
    | cons head tail =>
      rw [if_neg (by simp [earlier])] at answers
      rw [earlier] at found
      obtain ⟨rfl, -⟩ := List.cons.inj found
      exact ⟨(step.ready request waits head tail earlier).1, fun _ => answers⟩

theorem InStep.failed (step : exchange.InStep) (error : String) :
    (exchange.next P box (.failed error)).InStep := by
  have queue : (exchange.next P box (.failed error)).actor.queued =
      exchange.actor.queued := by
    cases held : exchange.actor.worker <;>
      simp [next, onWorker, SharedRelayActor.queued, held]
  refine ⟨⟨?_, step.lossless.answered, step.lossless.kept⟩, ?_⟩
  · rw [queue]
    exact step.lossless.accounted
  · rw [queue]
    exact step.ready

variable {later : RelayExchange}

theorem InStep.of_empty (step : exchange.InStep)
    (received : later.received = exchange.received)
    (fates : later.fates = exchange.fates) (before : exchange.actor.queued = [])
    (after : later.actor.queued = []) : later.InStep := by
  refine ⟨⟨?_, ?_, ?_⟩, ?_⟩
  · rw [received, fates, after, ← before]
    exact step.lossless.accounted
  · rw [fates]
    exact step.lossless.answered
  · rw [fates]
    exact step.lossless.kept
  · intro request _ frame rest found
    rw [after] at found
    cases found

theorem InStep.begin
    (step : exchange.InStep) (call : SharedRelayActor.Call RelayRequest)
    [kept : call.Keeps SharedRelayActor.StaysEmpty]
    (empty : exchange.actor.queued = []) : (exchange.begin call).InStep :=
  step.of_empty rfl rfl empty (kept.run exchange.actor empty)

theorem NoFrameLost.take (lossless : exchange.NoFrameLost)
    (queue : exchange.actor.queued = frame :: rest)
    (answered : ∀ request, fate = .answered request → request.AnsweredBy frame)
    (reported : fate ≠ .dropped) (received : later.received = exchange.received)
    (fates : later.fates = exchange.fates ++ [(frame, fate)])
    (after : later.actor.queued = rest) : later.NoFrameLost where
  accounted := by
    rw [received, lossless.accounted, fates, after, queue]
    simp
  answered other request found := by
    rw [fates, List.mem_append, List.mem_singleton, Prod.mk.injEq] at found
    obtain earlier | ⟨rfl, same⟩ := found
    · exact lossless.answered other request earlier
    · exact answered request same.symm
  kept other found := by
    rw [fates, List.mem_append, List.mem_singleton, Prod.mk.injEq] at found
    obtain earlier | ⟨-, same⟩ := found
    · exact lossless.kept other earlier
    · exact reported same.symm

theorem InStep.resume (step : exchange.InStep)
    (waits : exchange.waiting = some request) (chance : RelayChance) :
    (exchange.resume P box chance request).InStep := by
  cases queue : exchange.actor.queued with
  | nil =>
    obtain ⟨error, actor, received, after⟩ :=
      SharedRelayActor.receiveFrame_of_nil queue
    have stopped : exchange.resume P box chance request =
        { exchange with actor := actor, waiting := none } := by
      simp only [RelayExchange.resume, received]
    rw [stopped]
    exact step.of_empty rfl rfl queue after
  | cons frame rest =>
    obtain ⟨answered, behind⟩ := step.ready request waits frame rest queue
    obtain ⟨actor, received, after⟩ :=
      SharedRelayActor.receiveFrame_of_cons queue
    have left : (SharedRelayActor.continueWith P box chance request frame
        actor).2.queued = rest := by
      by_cases last : request.Last
      · rw [SharedRelayActor.continueWith_queued P box chance last, after]
      · have empty : rest = [] := not_not.mp (mt behind last)
        rw [empty]
        exact SharedRelayActor.continueWith_stays_empty P box chance request
          frame actor (after.trans empty)
    have fates : (exchange.resume P box chance request).fates =
        exchange.fates ++ [(frame, .answered request)] := by
      simp only [RelayExchange.resume, received, answered.takes, if_true]
    have resumed : (exchange.resume P box chance request).actor.queued =
        rest := by
      simp only [RelayExchange.resume, received]
      exact left
    refine ⟨step.lossless.take queue ?_ ?_ ?_ fates resumed, ?_⟩
    · rintro other ⟨⟩
      exact answered
    · nofun
    · simp only [RelayExchange.resume, received]
    · intro later again other more found
      simp only [RelayExchange.resume, received] at again
      split at again
      case h_1 outcome waiting continued =>
        have another :=
          SharedRelayActor.continueWith_waits P box chance continued
        rw [resumed, not_not.mp (mt behind another)] at found
        cases found
      case h_2 => cases again

theorem InStep.poll (step : exchange.InStep) (idle : exchange.waiting = none)
    (lockstep : exchange.Lockstep box .polled) :
    (exchange.poll P box).InStep := by
  have unready : ∀ request, (exchange.poll P box).waiting = some request →
      ∀ frame rest, (exchange.poll P box).actor.queued = frame :: rest →
        request.AnsweredBy frame ∧ (rest ≠ [] → request.Last) := by
    intro request waits
    have waits : exchange.waiting = some request := waits
    rw [idle] at waits
    cases waits
  cases queue : exchange.actor.queued with
  | nil =>
    obtain ⟨later, polled, after⟩ :=
      SharedRelayActor.pollEvent_of_nil P box queue
    refine step.of_empty rfl ?_ queue ?_
    · simp [RelayExchange.poll, polled]
    · simpa [RelayExchange.poll, polled] using after
  | cons frame rest =>
    obtain ⟨later, polled, after⟩ :=
      SharedRelayActor.pollEvent_of_cons P box queue
    have reports := lockstep frame (by simp [queue])
    rw [← RelayClient.pollEvent_isSome_iff P] at reports
    obtain ⟨event, surfaced⟩ := Option.isSome_iff_exists.mp reports
    have fates : (exchange.poll P box).fates =
        exchange.fates ++ [(frame, .surfaced event)] := by
      simp [RelayExchange.poll, polled, surfaced]
    refine ⟨step.lossless.take queue ?_ ?_ rfl fates ?_, unready⟩
    · nofun
    · nofun
    · simpa [RelayExchange.poll, polled] using after

theorem InStep.next (step : exchange.InStep) (enabled : exchange.Enabled event)
    (lockstep : exchange.Lockstep box event) :
    (exchange.next P box event).InStep := by
  cases event with
  | delivered frame => exact step.delivered enabled lockstep
  | failed error => exact step.failed error
  | torChanged socks5Url =>
    refine step.of_empty rfl rfl lockstep ?_
    simp only [RelayExchange.next, SharedRelayActor.setSocks5Url,
      SharedRelayActor.queued]
    split
    · rfl
    · exact lockstep
  | refreshed | submitted => exact step.begin _ lockstep
  | continued chance =>
    simp only [RelayExchange.next]
    cases waits : exchange.waiting with
    | none => exact step
    | some request => exact step.resume waits chance
  | polled => exact step.poll enabled lockstep

theorem InStep.of_reachable
    (reached : ((relayExchange P box).restrict
      (RelayExchange.Lockstep box)).Reachable exchange) : exchange.InStep := by
  refine reached.invariant RelayExchange.InStep ?_ ?_
  · exact ⟨⟨rfl, nofun, nofun⟩, nofun⟩
  · intro exchange event step enabled
    exact step.next enabled.1 enabled.2

theorem poll_queued (exchange : RelayExchange) :
    (exchange.poll P box).actor.queued = exchange.actor.queued.tail := by
  cases queue : exchange.actor.queued with
  | nil =>
    obtain ⟨later, polled, after⟩ :=
      SharedRelayActor.pollEvent_of_nil P box queue
    simpa [RelayExchange.poll, polled] using after
  | cons frame rest =>
    obtain ⟨later, polled, after⟩ :=
      SharedRelayActor.pollEvent_of_cons P box queue
    simpa [RelayExchange.poll, polled] using after

theorem run_polls (enough : exchange.actor.queued.length ≤ polls) :
    ((relayExchange P box).run exchange
      (List.replicate polls .polled)).actor.queued = [] ∧
    ((relayExchange P box).run exchange
      (List.replicate polls .polled)).received = exchange.received := by
  induction polls generalizing exchange with
  | zero => exact ⟨List.eq_nil_of_length_eq_zero (Nat.le_zero.mp enough), rfl⟩
  | succ polls induction =>
    refine @induction (exchange.poll P box) ?_
    rw [poll_queued, List.length_tail]
    omega

theorem run_polls_answered
    (answered : (frame, .answered request) ∈ ((relayExchange P box).run exchange
        (List.replicate polls .polled)).fates) :
    (frame, .answered request) ∈ exchange.fates := by
  induction polls generalizing exchange with
  | zero => exact answered
  | succ polls induction =>
    have polled : (frame, .answered request) ∈ (exchange.poll P box).fates :=
      induction answered
    simp only [RelayExchange.poll, List.mem_append, List.mem_map] at polled
    obtain earlier | ⟨⟨taken, event⟩, -, equal⟩ := polled
    · exact earlier
    · cases event <;> cases equal

end Steps

end RelayExchange

theorem lockstep_exchange_loses_no_frame
    (P : Primitives)
    (box : RendezvousBox)
    (exchange : RelayExchange)
    (reached : ((relayExchange P box).restrict
      (RelayExchange.Lockstep box)).Reachable exchange) :
    exchange.NoFrameLost ∧
    ∀ polls, exchange.actor.queued.length ≤ polls →
      ((relayExchange P box).restrict (RelayExchange.Lockstep box)).Admits
        exchange (List.replicate polls .polled) →
      ∀ frame ∈ exchange.received,
        (∃ request, request.AnsweredBy frame ∧
          (frame, .answered request) ∈ exchange.fates) ∨
        ∃ event, (frame, .surfaced event) ∈
          ((relayExchange P box).run exchange
            (List.replicate polls .polled)).fates := by
  have step := RelayExchange.InStep.of_reachable reached
  refine ⟨step.lossless, fun polls enough admitted frame received => ?_⟩
  have later : RelayExchange.NoFrameLost ((relayExchange P box).run exchange
      (List.replicate polls .polled)) :=
    (RelayExchange.InStep.of_reachable (reached.run _ admitted)).lossless
  obtain ⟨emptied, same⟩ := RelayExchange.run_polls enough
  have taken := later.accounted
  rw [emptied, same, List.append_nil] at taken
  rw [taken, List.mem_map] at received
  obtain ⟨⟨_, fate⟩, member, rfl⟩ := received
  cases fate with
  | answered request =>
    have earlier := RelayExchange.run_polls_answered member
    exact .inl ⟨request, step.lossless.answered _ request earlier, earlier⟩
  | surfaced event => exact .inr ⟨event, member⟩
  | dropped => exact absurd member (later.kept _)

def sampleBox : RendezvousBox where
  openBox _ _ sealed := some sealed
  sealBox _ _ offer := .ok offer
  publicKey _ := Vector.replicate 32 0

def sampleRequested : RendezvousServerFrame :=
  .pairingRequested 7 "slot" "token" (Vector.replicate 32 0) [] 180

def sampleChance : RelayChance := ⟨.ok [], 9, 0⟩

def swallowed : List ExchangeEvent :=
  [.torChanged (some "127.0.0.1:9050"), .refreshed 1 (.ok []),
    .delivered (.pairingSlotCreated 1 "slot" "CODE" "capability" 120),
    .continued sampleChance, .refreshed 2 (.ok []), .delivered sampleRequested,
    .continued sampleChance, .polled]

def confused : List ExchangeEvent :=
  [.torChanged (some "127.0.0.1:9050"), .refreshed 1 (.ok []),
    .continued sampleChance, .refreshed 2 (.ok []),
    .delivered (.error (some 1) "rate_limited"), .continued sampleChance]

def sampleRun (events : List ExchangeEvent) : RelayExchange :=
  (relayExchange (.plain "me") sampleBox).run .initial events

theorem request_takes_what_is_not_its_answer :
    (relayExchange (.plain "me") sampleBox).Reachable (sampleRun swallowed) ∧
    ¬ (sampleRun swallowed).NoFrameLost ∧
    (relayExchange (.plain "me") sampleBox).Reachable (sampleRun confused) ∧
    ¬ (sampleRun confused).NoFrameLost := by
  refine ⟨Machine.Reachable.init.run swallowed ?_, ?_,
    Machine.Reachable.init.run confused ?_, ?_⟩
  · exact ⟨rfl, rfl, ⟨_, rfl, rfl⟩, rfl, rfl, ⟨_, rfl, rfl⟩, rfl, rfl, trivial⟩
  · intro lossless
    exact lossless.kept sampleRequested (by decide +kernel)
  · exact ⟨rfl, rfl, rfl, rfl, ⟨_, rfl, rfl⟩, rfl, trivial⟩
  · intro lossless
    have answered := lossless.answered (.error (some 1) "rate_limited")
      (.refreshPairingCode 2 []) (by decide +kernel)
    cases answered

def answeredFirst : List ExchangeEvent :=
  [.torChanged (some "127.0.0.1:9050"), .refreshed 1 (.ok []),
    .delivered (.pairingSlotCreated 1 "slot" "CODE" "capability" 120),
    .continued sampleChance, .delivered sampleRequested]

theorem answeredFirst_surfaces_the_joiner :
    ∃ event, (sampleRequested, .surfaced event) ∈
      (sampleRun (answeredFirst ++ [.polled])).fates := by
  have reached : ((relayExchange (.plain "me") sampleBox).restrict
      (RelayExchange.Lockstep sampleBox)).Reachable
        (sampleRun answeredFirst) := by
    refine Machine.Reachable.init.run answeredFirst
      ⟨⟨rfl, rfl⟩, ⟨rfl, rfl⟩, ⟨⟨_, rfl, rfl⟩, ?_⟩, ⟨rfl, trivial⟩,
        ⟨⟨_, rfl, rfl⟩, nofun⟩, trivial⟩
    rintro request ⟨⟩
    rfl
  have polled := (lockstep_exchange_loses_no_frame _ _ _ reached).2 1
    (by decide +kernel) ⟨⟨rfl, ?_⟩, trivial⟩ sampleRequested (by decide +kernel)
  · obtain ⟨request, answered, -⟩ | surfaced := polled
    · cases request <;> cases answered
    · exact surfaced
  · rintro frame ⟨⟩
    exact ⟨[], rfl, rfl⟩

end Torchat
