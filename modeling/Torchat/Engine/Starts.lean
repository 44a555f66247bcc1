import Torchat.Engine.Envelopes
import Torchat.Engine.Machine

namespace Torchat

open Foundation Storage

class Storage.Database.Restarting (stored : Database → Database → Prop) : Prop
    extends Dispatching stored where
  requeued : ∀ nowMs : Int,
    (Program.execute (requeueAfterDisconnect nowMs)).Keeps stored
  requeuedDeliveries : ∀ nowMs : Int,
    (Program.execute (requeuePeerDeliveries nowMs)).Keeps stored
  seeded : ∀ (database : Database) (profile : Option RuntimeProfile),
    stored database { database with profile := profile }
  welcomesExpired : ∀ nowSecs : Int,
    (Program.execute (deleteExpiredPendingWelcomes nowSecs)).Keeps stored
  invitesExpired : ∀ nowSecs : Int,
    (Program.execute (deleteExpiredPendingLocalInviteMls nowSecs)).Keeps stored

attribute [instance] Database.Restarting.requeued
  Database.Restarting.requeuedDeliveries Database.Restarting.welcomesExpired
  Database.Restarting.invitesExpired

namespace Actor

variable {P : Primitives}

class Booting (relation : Actor P → Actor P → Prop)
    (stored : outParam (Database → Database → Prop)) : Prop
    extends Offhand relation stored where
  welcomed : ∀ (actor : Actor P) (welcomes : Table String PendingWelcome),
    relation actor { actor with pendingWelcomes := welcomes }
  blocked : ∀ (actor : Actor P) (peers : Finset InstallationId),
    relation actor { actor with cryptoBlockedPeers := peers }
  listening : ∀ actor : Actor P,
    relation actor { actor with peerTransport := true }

section

variable {relation : Actor P → Actor P → Prop}
  [booting : Booting relation stored]

theorem recoverInbound_keeps [Database.Booked stored]
    [marked : ∀ state, (execute (Database.markInbound state sender
      messageId)).Keeps stored]
    (handled : ∀ ciphertext, P.decodeWire wire = .ok ciphertext →
      (handleApplicationEnvelope (P := P) sender messageId ciphertext).Keeps
        relation) :
    (recoverInbound (P := P) sender messageId wire).Keeps relation := by
  have blocked : (block (P := P) sender).Keeps relation :=
    .modify fun actor => booting.blocked actor _
  have completed : (execute (Database.completeInboundPeerEnvelope
      sender messageId)).Keeps stored := marked _
  have rejected : (execute (Database.rejectInboundPeerEnvelope sender
      messageId)).Keeps stored := marked _
  refine ⟨fun start => ?_⟩
  refine Program.Keeps.bind_answered inferInstance fun ciphertext _ decoded => ?_
  have kept := handled ciphertext (check_value decoded)
  refine .next fun result => ?_
  cases result with
  | ok | error => infer_instance

variable [restarting : Database.Restarting stored]

instance :
    (loadConversation (P := P) conversationId snapshot).Keeps relation := by
  refine .next fun _ => .next fun anchored => ?_
  split
  · infer_instance
  · infer_instance

instance : (loadTechnicalState (P := P)).Keeps relation := by
  refine .next fun _ => .bind ?_ fun _ => ?_
  · exact .forEach fun _ _ => inferInstance
  refine .next fun _ => .next fun welcomes => ?_
  exact .modify fun actor => booting.welcomed actor welcomes

instance : (load (P := P)).Keeps relation := by
  have seeded : (seedRuntimeIdentity (P := P)).Keeps relation := by
    have kept : (execute fun database : Database => Except.ok
        { database with
          profile := database.profile <|> some
            ⟨P.installationId, "", P.publicKey, P.fingerprint⟩ } :
        Program Database RuntimeError Unit).Keeps stored :=
      .total fun database => restarting.seeded database _
    unfold seedRuntimeIdentity
    infer_instance
  refine .next fun _ => .next fun _ => ?_
  refine .next fun _ => .next fun _ => ?_
  refine .next fun _ => .next fun _ => ?_
  refine .next fun _ => .next fun _ => ?_
  refine .next fun _ => .next fun _ => ?_
  refine .next fun blocked => ?_
  exact .modify fun actor => booting.blocked actor blocked

instance : (prepareContact (P := P) contact).Keeps relation := by
  refine .next fun endpoint => ?_
  cases endpoint with
  | none => infer_instance
  | some endpoint =>
    refine .next fun _ => .next fun own => ?_
    cases own with
    | none | some => infer_instance

include booting restarting in
theorem beginRun_keeps
    (drained : ∀ contact,
      (drainPendingPreWelcome (P := P) contact).Keeps relation)
    (recovered : (recoverPendingInboundPeerEnvelopes (P := P)).Keeps relation) :
    (beginRun (P := P)).Keeps relation := by
  refine .next fun _ => .next fun _ => ?_
  refine .next fun _ => ?_
  refine .bind (.modify fun actor => booting.listening actor) fun _ => ?_
  infer_instance

end

instance [Grounded relation stored] [Database.Booked stored]
    [∀ messageId, (execute (Database.removePendingApplicationEnvelope
      contact messageId)).Keeps stored]
    [∀ messageId ciphertext, (handleApplicationEnvelope (P := P) contact
      messageId ciphertext).Keeps relation] :
    (drainPendingPreWelcome (P := P) contact).Keeps relation := by
  refine .next fun envelopes => .forEach fun entry _ => ?_
  refine .next fun result => ?_
  cases result with
  | ok | error => infer_instance

end Actor

end Torchat
