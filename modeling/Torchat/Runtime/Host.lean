import Torchat.Runtime.Session
import Torchat.Storage.Database

namespace Torchat

open Foundation Storage

/-- The calls of the program that its surroundings may refuse. -/
inductive Site
  | query
  | statement
  | beginTransaction
  | projectionHead
  | bumpProjection
  | encodeResponse
  | saveProcessedCommand
  | beforeLocalCommit
  | commit
  | afterLocalCommit
  | checkpoint
  | anchor
  | readReceiptSnapshot
  | afterPeerPersistedAck
  | afterPeerDeliveredAck
  | transport
  | relay
  deriving DecidableEq

inductive Verdict
  | proceed
  | fail
  | crash
  deriving DecidableEq

/-- Everything the surroundings decide, by the number of the call: failures and
crashes, clock readings, random draws. -/
structure World where
  verdict : Site → Nat → Verdict
  clock : Nat → Int
  uuid : Nat → Uuid
  jitter : Nat → Int

namespace World

def calm (now : Int) : World where
  verdict _ _ := .proceed
  clock _ := now
  uuid draw := BitVec.ofNat 128 draw
  jitter _ := 0

def failing (world : World) (site : Site) : World :=
  { world with
    verdict := fun called turn =>
      if called = site then .fail else world.verdict called turn }

end World

inductive PeerDeliveryTag
  | message (messageId : Uuid)
  | receipt (messageId : Uuid)
  | readReceipt (receiptId : Uuid)
  | relationshipRemovalAck (removalId : String)
  | ephemeral

/-- A peer envelope handed to the transport. The origin of its ciphertext and
the group that was the contact's at that moment are ghosts. -/
structure Handover where
  delivery : PeerDeliveryTag
  envelopeId : Uuid
  recipient : InstallationId
  ciphertext : Bytes
  origin : Option Origin
  current : Option Nat

/-- One encryption, with the origins of the ciphertexts that were stored or
handed over before it. -/
structure Encryption where
  origin : Origin
  earlier : List Origin

/-- The surroundings of a running engine. `sent` and `encryptions` (newest
first) are ghosts; `entropy` counts the random seeds drawn so far. -/
structure Host where
  world : World
  calls : Nat
  sent : List Handover
  encryptions : List Encryption
  entropy : Nat

namespace Host

def initial (world : World) : Host := ⟨world, 0, [], [], 0⟩

def consult (site : Site) (error : ε) : Program Host ε Unit := fun host =>
  (match host.world.verdict site host.calls with
    | .proceed => .ok ()
    | .fail => .err error
    | .crash => .crash,
    { host with calls := host.calls + 1 })

def nowMs : Program Host ε Int := fun host =>
  (.ok (host.world.clock host.calls), { host with calls := host.calls + 1 })

def freshUuid : Program Host ε Uuid := fun host =>
  (.ok (host.world.uuid host.calls), { host with calls := host.calls + 1 })

def jitter (upper : Int) : Program Host ε Int := fun host =>
  (.ok (max 0 (min (host.world.jitter host.calls) upper)),
    { host with calls := host.calls + 1 })

def freshSeed : Program Host ε Nat := fun host =>
  (.ok host.entropy, { host with entropy := host.entropy + 1 })

def disclosed (host : Host) : List Origin :=
  host.sent.filterMap Handover.origin

def recordHandover (handover : Handover) (host : Host) : Host :=
  { host with sent := handover :: host.sent }

def recordEncryption
    (origin : Origin) (stored : List Origin) (host : Host) : Host :=
  { host with
    encryptions := ⟨origin, stored ++ host.disclosed⟩ :: host.encryptions }

def tick (host : Host) : Host := { host with calls := host.calls + 1 }

def faults (host : Host) (site : Site) : Verdict :=
  host.world.verdict site host.calls

end Host

structure Runtime where
  database : Database
  session : RuntimeSession
  host : Host

namespace Runtime

abbrev Call := Program Runtime RuntimeError

def onHost (program : Program Host RuntimeError α) : Call α :=
  program.zoom Runtime.host fun host runtime => { runtime with host := host }

def onSession (f : RuntimeSession → RuntimeSession) : Call Unit :=
  Program.modify fun runtime => { runtime with session := f runtime.session }

def pushEvent (event : RuntimeEvent) : Call Unit :=
  onSession (RuntimeSession.pushEvent event)

def onDatabase (program : Program Database RuntimeError α) : Call α :=
  program.zoom Runtime.database fun database runtime =>
    { runtime with database := database }

def query (view : Database → α) : Call α := do
  onHost (Host.consult .query (.storage "query failed"))
  onDatabase (Program.read view)

def write (statement : Database → RuntimeResult Database) : Call Unit := do
  onHost (Host.consult .statement (.storage "statement failed"))
  onDatabase (Program.execute statement)

def writeReturning (statement : Database → RuntimeResult (α × Database)) :
    Call α := do
  onHost (Host.consult .statement (.storage "statement failed"))
  onDatabase (Program.executeReturning statement)

def nowMs : Call Int := onHost Host.nowMs

def nowSecs : Call Int := do
  return (← nowMs) / 1000

/-- `unixepoch('now') * 1000`: the database counts in whole seconds. -/
def unixepochMs : Call Int := do
  return (← nowMs) / 1000 * 1000

def tick (runtime : Runtime) : Runtime :=
  { runtime with host := runtime.host.tick }

@[simp] theorem tick_database (runtime : Runtime) :
    runtime.tick.database = runtime.database := rfl

theorem query_ok (ran : query view runtime = (.ok value, next)) :
    value = view runtime.database ∧ next = runtime.tick := by
  obtain ⟨_, middle, asked, rest⟩ := bind_ok ran
  have ticked : middle = runtime.tick := (congrArg Prod.snd asked).symm
  subst ticked
  cases rest
  exact ⟨rfl, rfl⟩

theorem write_ok (ran : write statement runtime = (.ok (), next)) :
    ∃ database, statement runtime.database = .ok database ∧
      next = { runtime.tick with database := database } := by
  obtain ⟨_, middle, asked, rest⟩ := bind_ok ran
  have ticked : middle = runtime.tick := (congrArg Prod.snd asked).symm
  subst ticked
  cases done : statement runtime.database with
  | error error =>
    simp [onDatabase, zoom, Program.run_execute_error done] at rest
  | ok database =>
    simp only [onDatabase, zoom, tick_database,
      run_execute_ok done, Prod.mk.injEq, true_and] at rest
    exact ⟨database, rfl, rest.symm⟩

theorem writeReturning_ok
    (ran : writeReturning statement runtime = (.ok value, next)) :
    ∃ database, statement runtime.database = .ok (value, database) ∧
      next = { runtime.tick with database := database } := by
  obtain ⟨_, middle, asked, rest⟩ := bind_ok ran
  have ticked : middle = runtime.tick := (congrArg Prod.snd asked).symm
  subst ticked
  cases done : statement runtime.database with
  | error error =>
    simp only [onDatabase, zoom, executeReturning,
      tick_database, done] at rest
    cases rest
  | ok result =>
    simp only [onDatabase, zoom, executeReturning,
      tick_database, done] at rest
    cases rest
    exact ⟨_, rfl, rfl⟩

end Runtime

end Torchat
