import Torchat.Engine.Cleanup
import Torchat.Engine.Notices

namespace Torchat

open Foundation Storage

namespace Actor

variable {P : Primitives}

def Hands (described : Handover → Prop) (before after : Actor P) : Prop :=
  ∃ handed, after.host.sent = handed ++ before.host.sent ∧
    ∀ handover ∈ handed, described handover

theorem Hands.of_sent (same : after.host.sent = before.host.sent) :
    Hands described before after :=
  ⟨[], same, nofun⟩

instance Hands.framed :
    Framed (Hands described : Actor P → Actor P → Prop) Database.Anything where
  refl _ := .of_sent rfl
  trans := by
    rintro _ _ _ ⟨handed, sent, fits⟩ ⟨later, sentLater, fitsLater⟩
    refine ⟨later ++ handed, ?_, fun handover member => ?_⟩
    · rw [sentLater, sent, List.append_assoc]
    · rcases List.mem_append.mp member with member | member
      · exact fitsLater handover member
      · exact fits handover member
  data _ _ _ := .of_sent rfl
  called := by
    rintro _ _ _ ⟨_, _, rfl⟩
    exact .of_sent rfl

instance Hands.offhand :
    Offhand (Hands described : Actor P → Actor P → Prop) Database.Anything where
  noted _ _ _ := .of_sent rfl
  conversing _ _ := .of_sent rfl

theorem handOver_hands
    (fits : ∀ handover : Handover, handover.delivery = delivery →
      described handover) :
    (handOver (P := P) envelopeId recipient payload delivery).Keeps
      (Hands described) := by
  have recorded : (Program.modify fun actor : Actor P => { actor with
      host := actor.host.recordHandover ⟨delivery, envelopeId, recipient,
        payload.ciphertext, payload.origin,
        actor.database.currentGroup recipient⟩ } :
      Call P Unit).Keeps (Hands described) := by
    refine .modify fun actor => ⟨[_], rfl, ?_⟩
    simpa using fits _ rfl
  refine .next fun _ => ?_
  infer_instance

theorem flushPendingReceiptEffects_hands :
    (flushPendingReceiptEffects (P := P)).Keeps
      (Hands fun handover => handover.delivery ≠ .ephemeral) := by
  have handed (envelopeId : Uuid) (recipient : InstallationId)
      (payload : Payload) (messageId : Uuid) :
      (handOver (P := P) envelopeId recipient payload
        (.receipt messageId)).Keeps
        (Hands fun handover => handover.delivery ≠ .ephemeral) :=
    handOver_hands fun handover tagged => by
      rw [tagged]
      nofun
  infer_instance

def Mute (contact : InstallationId) (before after : Actor P) : Prop :=
  before.conversations.lookup contact = none →
    after.conversations = before.conversations ∧
      after.host.sent = before.host.sent

instance Mute.framed :
    Framed (Mute contact : Actor P → Actor P → Prop) Database.Anything where
  refl _ _ := ⟨rfl, rfl⟩
  trans := by
    intro _ _ _ first second missing
    obtain ⟨same, sent⟩ := first missing
    rw [← same] at missing
    obtain ⟨sameLater, sentLater⟩ := second missing
    exact ⟨sameLater.trans same, sentLater.trans sent⟩
  data _ _ _ _ := ⟨rfl, rfl⟩
  called := by
    rintro _ _ _ ⟨_, _, rfl⟩ _
    exact ⟨rfl, rfl⟩

instance Mute.unnoted :
    Unnoted (Mute contact : Actor P → Actor P → Prop) Database.Anything where
  noted _ _ _ _ := ⟨rfl, rfl⟩

theorem Mute.of_missing {program : Call P α}
    (stays : ∀ actor : Actor P, actor.conversations.lookup contact = none →
      (program actor).2 = actor) : program.Keeps (Mute contact) := by
  refine ⟨fun actor missing => ?_⟩
  rw [stays actor missing]
  exact ⟨rfl, rfl⟩

instance : (sendEphemeralPayload (P := P) contact application).Keeps
      (Mute contact) := by
  refine Mute.of_missing fun actor missing => ?_
  have failed (missingError : EngineError)
      (restoreFailed : String → EngineError)
      (persist : Sealed → Bytes → Call P Unit) :
      encryptKeeping contact missingError restoreFailed application persist
        actor = (.err missingError, actor) := by
    unfold encryptKeeping takeConversation
    simp only [run_bind, run_read, missing]
    rfl
  simp only [sendEphemeralPayload, fail_bind]
  rw [run_bind_ok (run_read _ _)]
  split
  · rfl
  split
  · rfl
  · rw [run_bind_err (failed _ _ _)]

instance : (sendCapabilityOffer (P := P) contact).Keeps (Mute contact) := by
  refine Mute.of_missing fun actor missing => ?_
  have absent : actor.conversations.contains contact = false := by
    rw [Table.contains, missing]
    rfl
  unfold sendCapabilityOffer
  rw [run_bind_ok (run_read _ _), absent]
  rfl

theorem acceptOffer_mute (arrival : Arrival) (capabilityId secret : String)
    (sequence : Nat) (issuedAt : Int) (expiresAt : Option Int) :
    (acceptOffer (P := P) arrival capabilityId secret sequence issuedAt
      expiresAt).Keeps (Mute arrival.sender) := by
  have accepted (statement : Database → RuntimeResult Database) :
      (Runtime.acceptCapability arrival statement).Keeps
        (Runtime.Within Database.Anything) := by
    unfold Runtime.acceptCapability
    infer_instance
  have expedited : (expeditePeerDeliveries (P := P) arrival.sender).Keeps
      (Mute arrival.sender) := by
    unfold expeditePeerDeliveries
    infer_instance
  simp only [acceptOffer, fail_bind]
  refine .next fun secret => ?_
  split
  · infer_instance
  refine .next fun _ => .next fun known => ?_
  refine .next fun _ => ?_
  split
  · infer_instance
  · infer_instance

section

variable {sequence : Nat}

theorem openEnvelope_mute
    (decrypted : P.decrypt conversation ciphertext = .ok (plaintext, advanced))
    (decoded : P.decodeApplication plaintext =
      .ok (.capabilityOffer capabilityId secret sequence issuedAt expiresAt)) :
    (openEnvelope sender messageId ciphertext conversation).Keeps
      (Mute sender) := by
  refine ⟨fun actor => ?_⟩
  refine Program.Keeps.bind_answered inferInstance fun opened _ ran => ?_
  have same := check_value ran
  rw [decrypted] at same
  cases same
  refine ⟨fun actor => ?_⟩
  refine Program.Keeps.bind_answered inferInstance fun application _ ran => ?_
  have same := check_value ran
  rw [decoded] at same
  cases same
  refine .next fun snapshot => .next fun now => ?_
  have accepted := acceptOffer_mute (P := P) ⟨sender, messageId,
    P.sha256 ciphertext, now, snapshot⟩ capabilityId secret sequence issuedAt
    expiresAt
  exact .bind accepted fun _ => inferInstance

theorem handleApplicationEnvelope_hands {actor : Actor P}
    (offered : actor.Opens sender messageId ciphertext
      (.capabilityOffer capabilityId secret sequence issuedAt expiresAt)) :
    Hands (fun handover => handover.delivery ≠ .ephemeral) actor
      (handleApplicationEnvelope sender messageId ciphertext actor).2 := by
  obtain ⟨unknown, conversation, plaintext, advanced, held, decrypted, decoded⟩ :=
    offered
  have flushed := flushPendingReceiptEffects_hands (P := P)
  have opened : (openEnvelope sender messageId ciphertext
      conversation).attempt.Keeps (Mute sender) :=
    .attempt (openEnvelope_mute decrypted decoded)
  have asked := (inferInstance : (query (P := P)
    (·.receivedEnvelopes.lookup (sender, messageId))).Keeps (Hands
      fun handover => handover.delivery ≠ .ephemeral)).run actor
  refine bind_end (Hands _ actor) asked fun existing next ran => ?_
  rw [ran] at asked
  obtain ⟨rfl, _, kept⟩ := query_ok ran
  rw [unknown]
  dsimp only
  rw [run_bind_ok (run_read _ _), kept, held]
  dsimp only
  rw [run_bind_ok (run_modify _ _)]
  refine Frame.trans asked ?_
  refine Frame.trans (Hands.offhand.conversing next (·.erase sender)) ?_
  have missing : (onConversations (·.erase sender) next).conversations.lookup
      sender = none := by
    simp [onConversations]
  generalize onConversations (·.erase sender) next = taken at missing
  have saving := (inferInstance : (check (P := P) (P.snapshot conversation)
    .storage).Keeps (Hands fun handover =>
      handover.delivery ≠ .ephemeral)).run taken
  refine bind_end (Hands _ taken) saving fun before same saved => ?_
  obtain ⟨_, rfl⟩ := check_ok saved
  obtain ⟨_, sent⟩ := opened.run same missing
  refine bind_end (Hands _ same) (.of_sent sent) fun result after ran => ?_
  rw [ran] at sent
  refine Frame.trans (Hands.of_sent sent) ?_
  cases result with
  | ok | error =>
    refine Program.Keeps.bind_answered inferInstance fun _ _ _ => ?_
    infer_instance

end

def Passes (application : ApplicationPayload) (contact : InstallationId)
    (before after : Actor P) : Prop :=
  ∃ handed handover, after.host.sent = handed ++ before.host.sent ∧
    handover ∈ handed ∧ handover.delivery = .ephemeral ∧
    handover.recipient = contact ∧ P.Carries application handover.ciphertext

/-- What completes the exchange: the acknowledgement of the offer, and an offer
in return where the offered capability is a new one. -/
structure Answered (sender : InstallationId) (capabilityId : String)
    (sequence : Nat) (before after : Actor P) : Prop where
  acknowledged :
    Passes (.capabilityOfferAck capabilityId sequence) sender before after
  returned :
    (∀ now, before.database.peerEndpointCapabilitySecret sender capabilityId
      now = none) →
    ∃ ownId ownSecret ownSequence issuedAt expiresAt, Passes
      (.capabilityOffer ownId ownSecret ownSequence issuedAt expiresAt) sender
      before after

end Actor

/-- No offer is answered, in whatever state it is received. -/
theorem capability_offers_are_never_answered
    {P : Primitives} {actor : Actor P} {sender : InstallationId}
    {messageId : Uuid} {ciphertext : Bytes} {capabilityId secret : String}
    {sequence : Nat} {issuedAt : Int} {expiresAt : Option Int}
    (offered : actor.Opens sender messageId ciphertext
      (.capabilityOffer capabilityId secret sequence issuedAt expiresAt)) :
    ¬Actor.Answered sender capabilityId sequence actor
      (Actor.handleApplicationEnvelope sender messageId ciphertext actor).2 := by
  rintro ⟨⟨handed, handover, sent, member, tagged, _⟩, _⟩
  obtain ⟨receipts, same, fits⟩ := Actor.handleApplicationEnvelope_hands offered
  have equal : handed = receipts := by
    rw [sent] at same
    exact List.append_cancel_right same
  subst equal
  exact fits handover member tagged

def Primitives.offered (installationId : InstallationId) : Primitives :=
  { Primitives.plain installationId with
    decodeApplication := fun _ =>
      .ok (.capabilityOffer "0123456789abcdef" "secret" 1 7 none)
    decodeSecret := fun _ => some (List.replicate 16 0) }

def readyForAlice : Actor (.offered "me") := inTouch _ [] (.calm 7000)

theorem readyForAlice_leaves_the_offer_unanswered :
    ¬Actor.Answered "alice" "0123456789abcdef" 1 readyForAlice
      (Actor.handleApplicationEnvelope "alice" 9 [] readyForAlice).2 := by
  have offered : readyForAlice.Opens "alice" 9 []
      (.capabilityOffer "0123456789abcdef" "secret" 1 7 none) :=
    ⟨rfl, [], [], [3], rfl, rfl, rfl⟩
  exact capability_offers_are_never_answered offered

/-- The offer is taken and nothing goes out. The conversation could send: the
acknowledgement goes out a moment later, once the conversation is put back. -/
theorem offer_is_taken_without_an_answer :
    readyForAlice.torUsable = true ∧
      (Actor.handleApplicationEnvelope "alice" 9 [] readyForAlice).1 = .ok () ∧
      (Actor.handleApplicationEnvelope "alice" 9 []
        readyForAlice).2.database.peerEndpointCapabilities.contains "alice" =
        true ∧
      ¬Actor.Answered "alice" "0123456789abcdef" 1 readyForAlice
        (Actor.handleApplicationEnvelope "alice" 9 [] readyForAlice).2 ∧
      ((Actor.sendEphemeralPayload "alice"
        (.capabilityOfferAck "0123456789abcdef" 1)
        (Actor.handleApplicationEnvelope "alice" 9 []
          readyForAlice).2).2.host.sent.map Handover.recipient) = ["alice"] := by
  have nothing : (Actor.handleApplicationEnvelope "alice" 9 []
      readyForAlice).2.host.sent = [] := by
    decide +kernel
  refine ⟨rfl, by decide +kernel, by decide +kernel, ?_, by decide +kernel⟩
  rintro ⟨⟨handed, handover, sent, member, _⟩, _⟩
  obtain ⟨rfl, _⟩ := List.append_eq_nil_iff.mp sent.symm
  cases member

end Torchat
