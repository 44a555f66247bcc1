import Torchat.Core.ControlSignatures
import Torchat.Peer.Handshake

namespace Torchat.Peer

open Foundation Torchat.Core Network

section Checks

def Carries
    (fromSlice : FromSlice) (received : Received) (frame : PeerFrame) : Prop :=
  ∃ bytes, received = .message (.binary bytes) ∧
    bytes.length ≤ maxPreauthFrameBytes ∧ fromSlice bytes = .ok frame

theorem recvFrameWithTimeout_eq_ok
    (read : recvFrameWithTimeout fromSlice received false operation =
      .ok frame) :
    frame = .ping ∨ frame = .pong ∨ Carries fromSlice received frame := by
  cases received with
  | timedOut | ended | failed => cases read
  | message message =>
    cases message with
    | close => cases read
    | text => cases read
    | ping => exact .inl (Except.ok.inj read).symm
    | pong => exact .inr (.inl (Except.ok.inj read).symm)
    | binary bytes =>
      simp only [recvFrameWithTimeout, decodeMessage, bind_eq_ok] at read
      obtain ⟨frame?, decoded, present⟩ := read
      cases parsed : decodeFrame fromSlice bytes false with
      | error error => simp [parsed, Except.map] at decoded
      | ok found =>
        rw [parsed] at decoded
        obtain rfl := Except.ok.inj decoded
        obtain rfl := Except.ok.inj present
        simp only [decodeFrame, Bool.false_eq_true, if_false,
          refuseIf_bind_eq_ok, mapError_eq_ok, not_lt] at parsed
        exact .inr (.inr ⟨bytes, rfl, parsed⟩)

theorem checkChallenge_eq_ok
    (passed : checkChallenge crypto fromSlice command hello received =
      .ok challenge) :
    Carries fromSlice received (.serverChallenge challenge) ∧
    challenge.installationId = command.endpoint.installationId ∧
    challenge.endpointSequence = command.endpoint.sequence ∧
    verifySignature crypto command.peerPublicKey
      (dialerTranscript command hello challenge) challenge.signature = true := by
  obtain ⟨frame, read, rest⟩ := bind_eq_ok.mp passed
  cases frame with
  | serverChallenge found =>
    simp only [refuseIf_bind_eq_ok, not_or, not_not] at rest
    obtain ⟨same, verified, result⟩ := rest
    obtain rfl := Except.ok.inj result
    obtain carried := (recvFrameWithTimeout_eq_ok read).resolve_left nofun
    exact ⟨carried.resolve_left nofun, same.1, same.2, verified⟩
  | _ => cases rest

theorem checkAcceptance_eq_ok
    (passed : checkAcceptance fromSlice challenge received = .ok sessionId) :
    challenge.sessionId = sessionId := by
  obtain ⟨frame, read, rest⟩ := bind_eq_ok.mp passed
  cases frame with
  | handshakeAccepted found =>
    simp only [refuseIf_bind_eq_ok, not_not] at rest
    obtain ⟨same, result⟩ := rest
    exact same.symm.trans (Except.ok.inj result)
  | _ => cases rest

theorem checkHello_eq_ok
    (passed : checkHello crypto fromSlice identity authorized serverNonce
      sessionId received = .ok challenged) :
    Carries fromSlice received (.clientHello challenged.hello) ∧
    challenged.hello.protocolVersion = protocolVersion ∧
    authorized challenged.hello.installationId = some challenged.authorized ∧
    verifyCapabilityProof crypto challenged.authorized.capabilitySecret
      challenged.hello = true ∧
    challenged.challenge.sessionId = sessionId := by
  obtain ⟨frame, read, rest⟩ := bind_eq_ok.mp passed
  cases frame with
  | clientHello hello =>
    simp only [refuseIf_bind_eq_ok, required_bind_eq_ok, not_or,
      not_not] at rest
    obtain ⟨version, peer, found, -, -, ⟨-, proof⟩, result⟩ := rest
    obtain rfl := Except.ok.inj result
    rcases recvFrameWithTimeout_eq_ok read with ended | closed | carried
    · cases ended
    · cases closed
    · exact ⟨carried, version, found, proof, rfl⟩
  | _ => cases rest

theorem checkHello_capability
    (passed : checkHello crypto fromSlice identity authorized serverNonce
      sessionId received = .ok challenged) :
    authorized challenged.hello.installationId = some challenged.authorized ∧
    challenged.hello.capabilityId ≠ "" ∧
    challenged.hello.capabilityId = challenged.authorized.inboundCapabilityId ∧
    challenged.authorized.capabilitySecret ≠ [] := by
  obtain ⟨frame, _, rest⟩ := bind_eq_ok.mp passed
  cases frame with
  | clientHello hello =>
    simp only [refuseIf_bind_eq_ok, required_bind_eq_ok, not_or,
      not_not] at rest
    obtain ⟨-, peer, found, -, ⟨presented, same⟩, ⟨secret, -⟩, result⟩ := rest
    obtain rfl := Except.ok.inj result
    exact ⟨found, presented, same, secret⟩
  | _ => cases rest

theorem checkProof_eq_ok
    (passed : checkProof crypto fromSlice identity challenged received =
      .ok sessionId) :
    challenged.challenge.sessionId = sessionId ∧
    ∃ proof, Carries fromSlice received (.clientProof proof) ∧
      verifySignature crypto challenged.authorized.publicKey
        (challenged.transcript crypto identity) proof.signature = true := by
  obtain ⟨frame, read, rest⟩ := bind_eq_ok.mp passed
  cases frame with
  | clientProof proof =>
    simp only [refuseIf_bind_eq_ok, not_or, not_not] at rest
    obtain ⟨⟨-, verified⟩, result⟩ := rest
    obtain carried := (recvFrameWithTimeout_eq_ok read).resolve_left nofun
    exact ⟨Except.ok.inj result, proof, carried.resolve_left nofun, verified⟩
  | _ => cases rest

theorem clientHello_eq_ok
    (made : clientHello crypto identity command nonce = .ok hello) :
    hello.protocolVersion = protocolVersion ∧
    hello.installationId = installationId crypto identity ∧
    hello.capabilityId.utf8ByteSize = 16 ∧
    hello.nonce = nonce := by
  simp only [clientHello, refuseIf_bind_eq_ok, not_not] at made
  obtain ⟨idLength, -, result⟩ := made
  obtain rfl := Except.ok.inj result
  exact ⟨rfl, rfl, idLength, rfl⟩

end Checks

/-- The values both ends have to agree on. -/
structure SessionView where
  protocolVersion : UInt16
  clientInstallationId : String
  clientEndpointSequence : UInt64
  capabilityId : String
  clientNonce : Key32
  serverInstallationId : String
  serverEndpointSequence : UInt64
  serverNonce : Key32
  sessionId : Uuid
  onionAddress : String

namespace SessionView

def ofHello (hello : PeerClientHello) (serverInstallationId : String)
    (serverEndpointSequence : UInt64) (serverNonce : Key32) (sessionId : Uuid)
    (onionAddress : String) : SessionView where
  protocolVersion := hello.protocolVersion
  clientInstallationId := hello.installationId
  clientEndpointSequence := hello.endpointSequence
  capabilityId := hello.capabilityId
  clientNonce := hello.nonce
  serverInstallationId := serverInstallationId
  serverEndpointSequence := serverEndpointSequence
  serverNonce := serverNonce
  sessionId := sessionId
  onionAddress := onionAddress

def transcript (view : SessionView) : Bytes :=
  handshakeTranscript
    { protocolVersion := view.protocolVersion
      installationId := view.clientInstallationId
      endpointSequence := view.clientEndpointSequence
      capabilityId := view.capabilityId
      capabilityProof := ""
      nonce := view.clientNonce }
    view.serverInstallationId view.serverEndpointSequence view.serverNonce
    view.sessionId view.onionAddress

structure Short (view : SessionView) : Prop where
  client : ShortText view.clientInstallationId
  capability : ShortText view.capabilityId
  server : ShortText view.serverInstallationId

theorem transcript_inj
    {left right : SessionView} (leftShort : left.Short) (rightShort : right.Short)
    (equal : left.transcript = right.transcript) : left = right := by
  have same := Signable.handshake_signed_of_front leftShort.client
    leftShort.capability leftShort.server rightShort.client
    rightShort.capability rightShort.server equal
  cases left
  simp_all [Signable.signed]

theorem take_transcript (view : SessionView) :
    view.transcript.take 4 = [0, 0, 0, 25] := by
  simp only [transcript, handshakeTranscript, List.append_assoc]
  rw [List.take_append_of_le_length (by decide)]
  decide

end SessionView

section Views

variable {crypto : Crypto}

def Dialer.view (dialer : Dialer crypto) (challenge : PeerServerChallenge) :
    SessionView :=
  .ofHello dialer.hello challenge.installationId challenge.endpointSequence
    challenge.nonce challenge.sessionId dialer.command.endpoint.onionAddress

def Challenged.view (challenged : Challenged) (identity : crypto.SigningKey) :
    SessionView :=
  .ofHello challenged.hello (installationId crypto identity)
    challenged.authorized.localEndpoint.sequence challenged.challenge.nonce
    challenged.challenge.sessionId
    challenged.authorized.localEndpoint.onionAddress

end Views

/-! What the clients sign with the same keys elsewhere: endpoints, messages,
control payloads and the JSON text of invites. -/

inductive SignedElsewhere
    (crypto : Crypto) (serialize : PeerEndpointBundle → Bytes) : Bytes → Prop
  | endpoint (bundle : PeerEndpointBundle) :
      SignedElsewhere crypto serialize bundle.signingBytes
  | message (envelope : PeerMessageEnvelope) :
      SignedElsewhere crypto serialize (envelope.signingBytes crypto)
  | control (payload : RelayPayloadV1) (control : Control)
      (has : payload.control? serialize = some control) :
      SignedElsewhere crypto serialize control.message
  | invite (json : List Char) :
      SignedElsewhere crypto serialize (utf8 (String.ofList ('\x7b' :: json)))

theorem SignedElsewhere.not_transcript {message : Bytes}
    (elsewhere : SignedElsewhere crypto serialize message)
    (view : SessionView) : message ≠ view.transcript := by
  intro same
  have front := congrArg (List.take 4) same
  rw [view.take_transcript] at front
  cases elsewhere with
  | endpoint bundle =>
    simp only [PeerEndpointBundle.signingBytes, List.append_assoc] at front
    rw [List.take_append_of_le_length (by decide)] at front
    exact absurd front (by decide)
  | message envelope =>
    simp only [PeerMessageEnvelope.signingBytes, List.append_assoc] at front
    rw [List.take_append_of_le_length (by decide)] at front
    exact absurd front (by decide)
  | control payload control has =>
    have kind : payload.domain.take 4 = [0, 0, 0, 25] := by
      rw [← RelayPayloadV1.take_message has, List.take_take]
      exact front
    cases payload <;> simp only [RelayPayloadV1.domain] at kind <;>
      exact absurd kind (by decide)
  | invite json =>
    have brace : String.utf8EncodeChar '\x7b' = [123] := by decide
    rw [utf8_ofList, List.flatMap_cons, brace] at front
    exact absurd (List.cons.inj front).1 (by decide)

section Machine

variable (crypto : Crypto) (serialize : PeerEndpointBundle → Bytes)
  (fromSlice : FromSlice)

def keyOf (publicKey : String) : Option Key32 :=
  (crypto.decode64 publicKey).bind (toArray? 32)

/-- The signing keys and the capability secrets that only the clients' own code
uses. -/
structure Honest where
  keys : Set crypto.SigningKey
  secrets : Set Bytes

namespace Network

variable {crypto} (network : Network crypto)

def Proved (key : Key32) (message : Bytes) : Prop :=
  ∃ place dialer challenge, network.dialers.lookup place = some dialer ∧
    dialer.answered = some challenge ∧
    crypto.verifyingKey dialer.identity = key ∧
    dialer.transcript challenge = message

def Challenges (key : Key32) (message : Bytes) : Prop :=
  ∃ place listener challenged, network.listeners.lookup place = some listener ∧
    listener.challenged = some challenged ∧
    crypto.verifyingKey listener.identity = key ∧
    challenged.transcript crypto listener.identity = message

def Signed (key : Key32) (message : Bytes) : Prop :=
  network.Proved key message ∨ network.Challenges key message ∨
  ∃ identity, (identity, message) ∈ network.elsewhere ∧
    crypto.verifyingKey identity = key

def Dialed (secret message : Bytes) : Prop :=
  ∃ place dialer, network.dialers.lookup place = some dialer ∧
    dialer.command.capabilitySecret = secret ∧
    capabilityMessage dialer.hello = message

def Unforged (honest : Honest crypto) (signature : String) : Prop :=
  ∀ identity ∈ honest.keys, ∀ publicKey message,
    keyOf crypto publicKey = some (crypto.verifyingKey identity) →
    verifySignature crypto publicKey message signature = true →
    network.Signed (crypto.verifyingKey identity) message

/-- The network delivers anything but forgeries. -/
structure Deliverable (honest : Honest crypto) (received : Received) : Prop where
  challenge : ∀ challenge,
    Carries fromSlice received (.serverChallenge challenge) →
    network.Unforged honest challenge.signature
  proof : ∀ proof, Carries fromSlice received (.clientProof proof) →
    network.Unforged honest proof.signature
  hello : ∀ hello, Carries fromSlice received (.clientHello hello) →
    ∀ secret ∈ honest.secrets, verifyCapabilityProof crypto secret hello = true →
    network.Dialed secret (capabilityMessage hello)

end Network

variable (honest : Honest crypto)

def handshake : Machine (Network crypto) (Event crypto) where
  init := ⟨.empty, .empty, []⟩
  enabled network
    | .dial place _ _ nonce _ =>
      network.dialers.lookup place = none ∧
      ∀ other dialer, network.dialers.lookup other = some dialer →
        dialer.hello.nonce ≠ nonce
    | .dialerReceives _ received _ =>
      network.Deliverable fromSlice honest received
    | .listen place _ => network.listeners.lookup place = none
    | .listenerReceives _ received _ _ sessionId _ =>
      network.Deliverable fromSlice honest received ∧
      ∀ other listener challenged,
        network.listeners.lookup other = some listener →
        listener.challenged = some challenged →
        challenged.challenge.sessionId ≠ sessionId
    | .signsElsewhere _ message => SignedElsewhere crypto serialize message
  next network event := network.next fromSlice event

end Machine

/-! Sessions are never forgotten, and what a session has signed stays. -/

section Growth

structure Dialer.Extends (later earlier : Dialer crypto) : Prop where
  identity : later.identity = earlier.identity
  command : later.command = earlier.command
  hello : later.hello = earlier.hello
  answered : ∀ challenge, earlier.answered = some challenge →
    later.answered = some challenge

structure Listener.Extends (later earlier : Listener crypto) : Prop where
  identity : later.identity = earlier.identity
  challenged : ∀ challenged, earlier.challenged = some challenged →
    later.challenged = some challenged

structure Network.Extends (later earlier : Network crypto) : Prop where
  dialers : ∀ place dialer, earlier.dialers.lookup place = some dialer →
    ∃ grown, later.dialers.lookup place = some grown ∧ grown.Extends dialer
  listeners : ∀ place listener, earlier.listeners.lookup place = some listener →
    ∃ grown, later.listeners.lookup place = some grown ∧ grown.Extends listener
  elsewhere : ∀ entry ∈ earlier.elsewhere, entry ∈ later.elsewhere

namespace Network.Extends

variable {later : Network crypto} (grows : later.Extends earlier)

include grows

theorem proved (signed : earlier.Proved key message) :
    later.Proved key message := by
  obtain ⟨place, dialer, challenge, found, answered, rfl, rfl⟩ := signed
  obtain ⟨grown, foundLater, same⟩ := grows.dialers place dialer found
  refine ⟨place, grown, challenge, foundLater, same.answered challenge answered,
    by rw [same.identity], ?_⟩
  simp only [Dialer.transcript, same.command, same.hello]

theorem challenges (signed : earlier.Challenges key message) :
    later.Challenges key message := by
  obtain ⟨place, listener, challenged, found, holds, rfl, rfl⟩ := signed
  obtain ⟨grown, foundLater, same⟩ := grows.listeners place listener found
  exact ⟨place, grown, challenged, foundLater, same.challenged challenged holds,
    by rw [same.identity], by rw [same.identity]⟩

theorem signed (signed : earlier.Signed key message) :
    later.Signed key message := by
  rcases signed with proved | challenged | ⟨identity, member, sameKey⟩
  · exact .inl (grows.proved proved)
  · exact .inr (.inl (grows.challenges challenged))
  · exact .inr (.inr ⟨identity, grows.elsewhere _ member, sameKey⟩)

theorem dialed (made : earlier.Dialed secret message) :
    later.Dialed secret message := by
  obtain ⟨place, dialer, found, rfl, rfl⟩ := made
  obtain ⟨grown, foundLater, same⟩ := grows.dialers place dialer found
  exact ⟨place, grown, foundLater, by rw [same.command], by rw [same.hello]⟩

end Network.Extends

theorem Dialer.Extends.refl (dialer : Dialer crypto) : dialer.Extends dialer :=
  ⟨rfl, rfl, rfl, fun _ held => held⟩

theorem Listener.Extends.refl (listener : Listener crypto) :
    listener.Extends listener :=
  ⟨rfl, fun _ held => held⟩

theorem Dialer.receive_extends (fromSlice : FromSlice) (dialer : Dialer crypto)
    (received : Received) (sent : Except String Unit) :
    (dialer.receive fromSlice received sent).Extends dialer := by
  unfold Dialer.receive
  split
  · exact .refl dialer
  · rename_i unanswered
    split
    · exact ⟨rfl, rfl, rfl, fun _ held => held⟩
    · refine ⟨rfl, rfl, rfl, ?_⟩
      intro challenge held
      rw [unanswered] at held
      cases held
  · exact ⟨rfl, rfl, rfl, fun _ held => held⟩

theorem Listener.receive_extends
    (fromSlice : FromSlice) (listener : Listener crypto) (received : Received)
    (authorized : String → Option AuthorizedPeer) (serverNonce : Key32)
    (sessionId : Uuid) (sent : Except String Unit) :
    (listener.receive fromSlice received authorized serverNonce sessionId
      sent).Extends listener := by
  unfold Listener.receive
  split
  · exact .refl listener
  · rename_i unchallenged
    split
    · exact ⟨rfl, fun _ held => held⟩
    · refine ⟨rfl, ?_⟩
      intro challenged held
      rw [unchallenged] at held
      cases held
  · split
    · exact ⟨rfl, fun _ held => held⟩
    · exact ⟨rfl, fun _ held => held⟩

end Growth

section Steps

theorem next_extends
    (enabled : (handshake crypto serialize fromSlice honest).enabled network
      event) : (network.next fromSlice event).Extends network := by
  have same : network.Extends network :=
    ⟨fun _ dialer found => ⟨dialer, found, .refl dialer⟩,
      fun _ listener found => ⟨listener, found, .refl listener⟩,
      fun _ member => member⟩
  cases event with
  | dial place identity command nonce sent =>
    simp only [next]
    split
    · exact same
    · refine { same with dialers := ?_ }
      intro other dialer found
      have apart : other ≠ place := by
        rintro rfl
        rw [enabled.1] at found
        cases found
      exact ⟨dialer, by simpa [apart] using found, .refl dialer⟩
  | dialerReceives place received sent =>
    refine { same with dialers := ?_ }
    intro other dialer found
    by_cases here : other = place
    · subst here
      exact ⟨dialer.receive fromSlice received sent,
        by simp [next, found], dialer.receive_extends _ _ _⟩
    · exact ⟨dialer, by simpa [next, here] using found, .refl dialer⟩
  | listen place identity =>
    refine { same with listeners := ?_ }
    intro other listener found
    have apart : other ≠ place := by
      rintro rfl
      rw [show network.listeners.lookup other = none from enabled] at found
      cases found
    exact ⟨listener, by simpa [next, apart] using found,
      .refl listener⟩
  | listenerReceives place received authorized serverNonce sessionId sent =>
    refine { same with listeners := ?_ }
    intro other listener found
    by_cases here : other = place
    · subst here
      exact ⟨listener.receive fromSlice received authorized serverNonce
          sessionId sent,
        by simp [next, found], listener.receive_extends _ _ _ _ _ _⟩
    · exact ⟨listener, by simpa [next, here] using found,
        .refl listener⟩
  | signsElsewhere identity message =>
    exact { same with
      elsewhere := fun _ member => List.mem_cons_of_mem _ member }

theorem sending_ne_ok (sent : Except String Unit) (sessionId : Uuid) :
    sending sent ≠ some (.ok sessionId) := by
  cases sent <;> simp [sending]

theorem Dialer.receive_cases
    (dialer : Dialer crypto) (received : Received) (sent : Except String Unit) :
    (∃ challenge, dialer.answered = none ∧
      checkChallenge crypto fromSlice dialer.command dialer.hello received =
        .ok challenge ∧
      dialer.receive fromSlice received sent =
        { dialer with answered := some challenge, outcome := sending sent }) ∨
    ((dialer.receive fromSlice received sent).answered = dialer.answered ∧
      ∀ sessionId,
        (dialer.receive fromSlice received sent).outcome =
          some (.ok sessionId) →
        dialer.outcome = some (.ok sessionId) ∨
        ∃ challenge, dialer.answered = some challenge ∧
          challenge.sessionId = sessionId) := by
  unfold Dialer.receive
  split
  · exact .inr ⟨rfl, fun _ done => .inl done⟩
  · rename_i unanswered
    split
    · exact .inr ⟨rfl, nofun⟩
    · rename_i challenge passed
      exact .inl ⟨challenge, unanswered, passed, rfl⟩
  · rename_i challenge undecided answered
    refine .inr ⟨rfl, ?_⟩
    intro sessionId done
    exact .inr ⟨challenge, answered,
      checkAcceptance_eq_ok (Option.some.inj done)⟩

theorem Listener.receive_cases (listener : Listener crypto)
    (received : Received) (authorized : String → Option AuthorizedPeer)
    (serverNonce : Key32) (sessionId : Uuid) (sent : Except String Unit) :
    (∃ challenged, listener.challenged = none ∧
      checkHello crypto fromSlice listener.identity authorized serverNonce
        sessionId received = .ok challenged ∧
      listener.receive fromSlice received authorized serverNonce sessionId
          sent =
        { listener with
          challenged := some challenged, outcome := sending sent }) ∨
    ((listener.receive fromSlice received authorized serverNonce sessionId
        sent).challenged = listener.challenged ∧
      ∀ accepted,
        (listener.receive fromSlice received authorized serverNonce sessionId
          sent).outcome = some (.ok accepted) →
        listener.outcome = some (.ok accepted) ∨
        ∃ challenged, listener.challenged = some challenged ∧
          checkProof crypto fromSlice listener.identity challenged received =
            .ok accepted) := by
  unfold Listener.receive
  split
  · exact .inr ⟨rfl, fun _ done => .inl done⟩
  · rename_i unchallenged
    split
    · exact .inr ⟨rfl, nofun⟩
    · rename_i challenged passed
      exact .inl ⟨challenged, unchallenged, passed, rfl⟩
  · rename_i challenged undecided holds
    split
    · exact .inr ⟨rfl, nofun⟩
    · rename_i proved passed
      refine .inr ⟨rfl, ?_⟩
      intro accepted done
      refine .inr ⟨challenged, holds, ?_⟩
      cases sent with
      | error error => simp [sending] at done
      | ok =>
        simp only [sending, Option.none_or, Option.some.injEq,
          Except.ok.injEq] at done
        rw [passed, done]

variable
  (enabled : (handshake crypto serialize fromSlice honest).enabled network event)

include enabled

theorem dialer_before
    (found : (network.next fromSlice event).dialers.lookup place = some later) :
    network.dialers.lookup place = some later ∨
    (clientHello crypto later.identity later.command later.hello.nonce =
        .ok later.hello ∧
      later.answered = none ∧
      (∀ sessionId, later.outcome ≠ some (.ok sessionId)) ∧
      (∀ other dialer, network.dialers.lookup other = some dialer →
        dialer.hello.nonce ≠ later.hello.nonce) ∧
      ∀ other, other ≠ place →
        (network.next fromSlice event).dialers.lookup other =
          network.dialers.lookup other) ∨
    ∃ earlier received sent, network.dialers.lookup place = some earlier ∧
      later = earlier.receive fromSlice received sent ∧
      network.Deliverable fromSlice honest received := by
  cases event with
  | dial start identity command nonce sent =>
    cases made : clientHello crypto identity command nonce with
    | error error =>
      simp only [next, made] at found
      exact .inl found
    | ok hello =>
      simp only [next, made, Table.lookup_insert] at found
      split at found
      · rename_i here
        obtain rfl := Option.some.inj found
        obtain ⟨-, -, -, sameNonce⟩ := clientHello_eq_ok made
        subst sameNonce
        refine .inr (.inl ⟨made, rfl, sending_ne_ok sent, enabled.2, ?_⟩)
        intro other apart
        have away : other ≠ start := here ▸ apart
        simp [next, made, away]
      · exact .inl found
  | dialerReceives target received sent =>
    simp only [next, Table.lookup_modify] at found
    split at found
    · obtain ⟨earlier, before, rfl⟩ := Option.map_eq_some_iff.mp found
      exact .inr (.inr ⟨earlier, received, sent, before, rfl, enabled⟩)
    · exact .inl found
  | listen | listenerReceives | signsElsewhere => exact .inl found

theorem listener_before
    (found : (network.next fromSlice event).listeners.lookup place =
      some later) :
    network.listeners.lookup place = some later ∨
    (later.challenged = none ∧ later.outcome = none) ∨
    ∃ earlier received authorized serverNonce sessionId sent,
      network.listeners.lookup place = some earlier ∧
      later = earlier.receive fromSlice received authorized serverNonce
        sessionId sent ∧
      network.Deliverable fromSlice honest received ∧
      (∀ other listener challenged,
        network.listeners.lookup other = some listener →
        listener.challenged = some challenged →
        challenged.challenge.sessionId ≠ sessionId) ∧
      ∀ other, other ≠ place →
        (network.next fromSlice event).listeners.lookup other =
          network.listeners.lookup other := by
  cases event with
  | dial start identity command nonce sent =>
    simp only [next] at found
    split at found <;> exact .inl found
  | dialerReceives => exact .inl found
  | listen start identity =>
    simp only [next, Table.lookup_insert] at found
    split at found
    · obtain rfl := Option.some.inj found
      exact .inr (.inl ⟨rfl, rfl⟩)
    · exact .inl found
  | listenerReceives target received authorized serverNonce sessionId sent =>
    simp only [next, Table.lookup_modify] at found
    split at found
    · rename_i here
      obtain ⟨earlier, before, rfl⟩ := Option.map_eq_some_iff.mp found
      refine .inr (.inr ⟨earlier, received, authorized, serverNonce, sessionId,
        sent, before, rfl, enabled.1, enabled.2, ?_⟩)
      intro other apart
      have away : other ≠ target := here ▸ apart
      simp [next, away]
    · exact .inl found
  | signsElsewhere => exact .inl found

theorem elsewhere_before
    (member : entry ∈ (network.next fromSlice event).elsewhere) :
    entry ∈ network.elsewhere ∨ SignedElsewhere crypto serialize entry.2 := by
  cases event with
  | dial start identity command nonce sent =>
    simp only [next] at member
    split at member <;> exact .inl member
  | dialerReceives | listen | listenerReceives => exact .inl member
  | signsElsewhere identity message =>
    rcases List.mem_cons.mp member with rfl | old
    · exact .inr enabled
    · exact .inl old

theorem hello_before
    (found : (network.next fromSlice event).dialers.lookup place = some later) :
    (∃ earlier, network.dialers.lookup place = some earlier ∧
      earlier.hello = later.hello) ∨
    ((∀ other dialer, network.dialers.lookup other = some dialer →
        dialer.hello.nonce ≠ later.hello.nonce) ∧
      ∀ other, other ≠ place →
        (network.next fromSlice event).dialers.lookup other =
          network.dialers.lookup other) := by
  rcases dialer_before enabled found with
    before | ⟨-, -, -, fresh, alone⟩ |
    ⟨earlier, received, sent, before, rfl, -⟩
  · exact .inl ⟨later, before, rfl⟩
  · exact .inr ⟨fresh, alone⟩
  · exact .inl ⟨earlier, before,
      (earlier.receive_extends fromSlice received sent).hello.symm⟩

theorem challenged_before
    (found : (network.next fromSlice event).listeners.lookup place =
      some later) (holds : later.challenged = some challenged) :
    (∃ earlier, network.listeners.lookup place = some earlier ∧
      earlier.challenged = some challenged) ∨
    ((∀ other listener held,
        network.listeners.lookup other = some listener →
        listener.challenged = some held →
        held.challenge.sessionId ≠ challenged.challenge.sessionId) ∧
      ∀ other, other ≠ place →
        (network.next fromSlice event).listeners.lookup other =
          network.listeners.lookup other) := by
  rcases listener_before enabled found with
    before | ⟨unchallenged, -⟩ |
    ⟨earlier, received, authorized, serverNonce, sessionId, sent, before, rfl,
      -, fresh, alone⟩
  · exact .inl ⟨later, before, holds⟩
  · rw [unchallenged] at holds
    cases holds
  · rcases earlier.receive_cases received authorized serverNonce sessionId
      sent with ⟨held, -, passed, result⟩ | ⟨same, -⟩
    · rw [result] at holds
      obtain rfl := Option.some.inj holds
      obtain ⟨-, -, -, -, session⟩ := checkHello_eq_ok passed
      exact .inr ⟨session ▸ fresh, alone⟩
    · exact .inl ⟨earlier, before, same ▸ holds⟩

end Steps

end Torchat.Peer
