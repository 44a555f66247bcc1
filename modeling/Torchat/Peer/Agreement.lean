import Torchat.Peer.HandshakeNetwork

namespace Torchat.Peer

open Foundation Torchat.Core Network

section Invariant

variable {crypto : Crypto} {honest : Honest crypto}

structure Answer (honest : Honest crypto) (network : Network crypto)
    (dialer : Dialer crypto) (challenge : PeerServerChallenge) : Prop where
  short : ShortText challenge.installationId
  server : challenge.installationId = dialer.command.endpoint.installationId
  sequence : challenge.endpointSequence = dialer.command.endpoint.sequence
  verified : verifySignature crypto dialer.command.peerPublicKey
    (dialer.transcript challenge) challenge.signature = true
  challenged : ∀ identity ∈ honest.keys,
    keyOf crypto dialer.command.peerPublicKey =
      some (crypto.verifyingKey identity) →
    network.Challenges (crypto.verifyingKey identity)
      (dialer.transcript challenge)

structure DialerSound (honest : Honest crypto) (network : Network crypto)
    (dialer : Dialer crypto) : Prop where
  started : clientHello crypto dialer.identity dialer.command
    dialer.hello.nonce = .ok dialer.hello
  answered : ∀ challenge, dialer.answered = some challenge →
    Answer honest network dialer challenge
  connected : ∀ sessionId, dialer.outcome = some (.ok sessionId) →
    ∃ challenge, dialer.answered = some challenge ∧
      challenge.sessionId = sessionId

structure Challenge (honest : Honest crypto) (network : Network crypto)
    (challenged : Challenged) : Prop where
  client : ShortText challenged.hello.installationId
  capability : ShortText challenged.hello.capabilityId
  version : challenged.hello.protocolVersion = protocolVersion
  proof : verifyCapabilityProof crypto challenged.authorized.capabilitySecret
    challenged.hello = true
  dialed : challenged.authorized.capabilitySecret ∈ honest.secrets →
    network.Dialed challenged.authorized.capabilitySecret
      (capabilityMessage challenged.hello)

structure Acceptance (honest : Honest crypto) (network : Network crypto)
    (listener : Listener crypto) (challenged : Challenged) : Prop where
  verified : ∃ signature, verifySignature crypto challenged.authorized.publicKey
    (challenged.transcript crypto listener.identity) signature = true
  signed : ∀ identity ∈ honest.keys,
    keyOf crypto challenged.authorized.publicKey =
      some (crypto.verifyingKey identity) →
    network.Signed (crypto.verifyingKey identity)
      (challenged.transcript crypto listener.identity)

structure ListenerSound (honest : Honest crypto) (network : Network crypto)
    (listener : Listener crypto) : Prop where
  challenged : ∀ challenged, listener.challenged = some challenged →
    Challenge honest network challenged
  accepted : ∀ sessionId, listener.outcome = some (.ok sessionId) →
    ∃ challenged, listener.challenged = some challenged ∧
      challenged.challenge.sessionId = sessionId ∧
      Acceptance honest network listener challenged

structure Sound (honest : Honest crypto) (network : Network crypto) : Prop where
  dialers : ∀ place dialer, network.dialers.lookup place = some dialer →
    DialerSound honest network dialer
  listeners : ∀ place listener, network.listeners.lookup place = some listener →
    ListenerSound honest network listener
  nonces : ∀ left right leftDialer rightDialer,
    network.dialers.lookup left = some leftDialer →
    network.dialers.lookup right = some rightDialer →
    leftDialer.hello.nonce = rightDialer.hello.nonce → left = right
  sessions : ∀ left right leftListener rightListener leftHeld rightHeld,
    network.listeners.lookup left = some leftListener →
    network.listeners.lookup right = some rightListener →
    leftListener.challenged = some leftHeld →
    rightListener.challenged = some rightHeld →
    leftHeld.challenge.sessionId = rightHeld.challenge.sessionId → left = right
  elsewhere : ∀ entry ∈ network.elsewhere,
    ∀ view : SessionView, entry.2 ≠ view.transcript

section Growing

variable {later earlier : Network crypto} (grows : later.Extends earlier)

include grows

theorem Answer.grow (answer : Answer honest earlier dialer challenge) :
    Answer honest later dialer challenge :=
  { answer with
    challenged := fun identity member key =>
      grows.challenges (answer.challenged identity member key) }

omit grows in
theorem Answer.of_same (answer : Answer honest earlier dialer challenge)
    (command : twin.command = dialer.command)
    (hello : twin.hello = dialer.hello) :
    Answer honest earlier twin challenge := by
  obtain ⟨short, server, sequence, verified, challenged⟩ := answer
  simp only [Dialer.transcript, ← command, ← hello] at *
  exact ⟨short, server, sequence, verified, challenged⟩

theorem DialerSound.grow (sound : DialerSound honest earlier dialer) :
    DialerSound honest later dialer :=
  { sound with
    answered := fun challenge held => (sound.answered challenge held).grow grows }

theorem Challenge.grow (challenge : Challenge honest earlier challenged) :
    Challenge honest later challenged :=
  { challenge with dialed := fun member => grows.dialed (challenge.dialed member) }

theorem Acceptance.grow
    (acceptance : Acceptance honest earlier listener challenged) :
    Acceptance honest later listener challenged :=
  { acceptance with
    signed := fun identity member key =>
      grows.signed (acceptance.signed identity member key) }

omit grows in
theorem Acceptance.of_same
    (acceptance : Acceptance honest earlier listener challenged)
    (identity : twin.identity = listener.identity) :
    Acceptance honest earlier twin challenged := by
  obtain ⟨verified, signed⟩ := acceptance
  rw [← identity] at verified signed
  exact ⟨verified, signed⟩

theorem ListenerSound.grow (sound : ListenerSound honest earlier listener) :
    ListenerSound honest later listener where
  challenged challenged held := (sound.challenged challenged held).grow grows
  accepted sessionId done := by
    obtain ⟨challenged, held, same, acceptance⟩ := sound.accepted sessionId done
    exact ⟨challenged, held, same, acceptance.grow grows⟩

end Growing

end Invariant

/-! JSON text is never shorter than the strings it stands for, and an
installation id is the text of 32 bytes. -/

def PeerFrame.texts : PeerFrame → List String
  | .clientHello hello =>
    [hello.installationId, hello.capabilityId, hello.capabilityProof]
  | .serverChallenge challenge => [challenge.installationId, challenge.signature]
  | .clientProof proof => [proof.signature]
  | _ => []

def ShortFrames (fromSlice : FromSlice) : Prop :=
  ∀ bytes frame, fromSlice bytes = .ok frame →
    ∀ text ∈ frame.texts, (utf8 text).length ≤ bytes.length

def ShortIds (crypto : Crypto) : Prop :=
  ∀ key, ShortText (installationIdFromPublicKey crypto key)

section Preserved

variable {crypto : Crypto} {serialize : PeerEndpointBundle → Bytes}
  {fromSlice : FromSlice} {honest : Honest crypto}
  (shortFrames : ShortFrames fromSlice) (shortIds : ShortIds crypto)
  {network : Network crypto}

include shortFrames in
theorem Carries.short (carried : Carries fromSlice received frame)
    (member : text ∈ frame.texts) : ShortText text := by
  obtain ⟨bytes, -, limited, parsed⟩ := carried
  have bounded := shortFrames bytes frame parsed text member
  unfold ShortText
  unfold maxPreauthFrameBytes at limited
  omega

include shortIds

theorem Dialer.view_short {dialer : Dialer crypto}
    (started : clientHello crypto dialer.identity dialer.command
      dialer.hello.nonce = .ok dialer.hello) {challenge : PeerServerChallenge}
    (short : ShortText challenge.installationId) :
    (dialer.view challenge).Short := by
  obtain ⟨-, own, idLength, -⟩ := clientHello_eq_ok started
  refine ⟨?_, ?_, short⟩
  · show ShortText dialer.hello.installationId
    rw [own]
    exact shortIds _
  · show (utf8 dialer.hello.capabilityId).length < 2 ^ 32
    have bytes : (utf8 dialer.hello.capabilityId).length =
        dialer.hello.capabilityId.utf8ByteSize := rfl
    omega

theorem Challenge.view_short (challenge : Challenge honest network challenged)
    (identity : crypto.SigningKey) : (challenged.view identity).Short :=
  ⟨challenge.client, challenge.capability, shortIds _⟩

include shortFrames

/-- A challenge that a dialer goes on with was signed by a listener: the dialer
itself has not signed this transcript yet, and no other dialer has its nonce. -/
theorem Sound.answer (sound : Sound honest network)
    (found : network.dialers.lookup place = some dialer)
    (unanswered : dialer.answered = none)
    (deliverable : network.Deliverable fromSlice honest received)
    (passed : checkChallenge crypto fromSlice dialer.command dialer.hello
      received = .ok challenge) : Answer honest network dialer challenge := by
  obtain ⟨carried, server, sequence, verified⟩ := checkChallenge_eq_ok passed
  have short : ShortText challenge.installationId :=
    carried.short shortFrames (.head _)
  refine ⟨short, server, sequence, verified, ?_⟩
  intro identity member key
  rcases deliverable.challenge challenge carried identity member _ _ key
    verified with
    ⟨other, twin, answer, foundTwin, answered, -, transcript⟩ | challenged |
    ⟨_, elsewhere, -⟩
  · have twinSound := sound.dialers other twin foundTwin
    have views : twin.view answer = dialer.view challenge :=
      SessionView.transcript_inj (twin.view_short shortIds twinSound.started
          (twinSound.answered answer answered).short)
        (dialer.view_short shortIds (sound.dialers place dialer found).started
          short)
        transcript
    obtain rfl := sound.nonces other place twin dialer foundTwin found
      (congrArg SessionView.clientNonce views)
    rw [found] at foundTwin
    obtain rfl := Option.some.inj foundTwin
    rw [unanswered] at answered
    cases answered
  · exact challenged
  · exact absurd rfl (sound.elsewhere _ elsewhere (dialer.view challenge))

theorem Sound.dialer_receive (sound : Sound honest network)
    (found : network.dialers.lookup place = some dialer)
    (deliverable : network.Deliverable fromSlice honest received)
    (sent : Except String Unit) :
    DialerSound honest network (dialer.receive fromSlice received sent) := by
  have before := sound.dialers place dialer found
  rcases dialer.receive_cases received sent with
    ⟨challenge, unanswered, passed, result⟩ | ⟨answered, outcome⟩
  · have answer := sound.answer shortFrames shortIds found unanswered deliverable
      passed
    rw [result]
    refine ⟨before.started, ?_, ?_⟩
    · intro other held
      obtain rfl := Option.some.inj held
      exact ⟨answer.short, answer.server, answer.sequence, answer.verified,
        answer.challenged⟩
    · intro sessionId done
      exact absurd done (sending_ne_ok sent sessionId)
  · have same := dialer.receive_extends fromSlice received sent
    refine ⟨?_, ?_, ?_⟩
    · rw [same.identity, same.command, same.hello]
      exact before.started
    · intro challenge held
      rw [answered] at held
      have answer := before.answered challenge held
      exact answer.of_same same.command same.hello
    · intro sessionId done
      rw [answered]
      rcases outcome sessionId done with earlier | decided
      · exact before.connected sessionId earlier
      · exact decided

omit shortIds in
theorem Sound.listener_receive (sound : Sound honest network)
    (found : network.listeners.lookup place = some listener)
    (deliverable : network.Deliverable fromSlice honest received)
    (authorized : String → Option AuthorizedPeer) (serverNonce : Key32)
    (sessionId : Uuid) (sent : Except String Unit) :
    ListenerSound honest network
      (listener.receive fromSlice received authorized serverNonce sessionId
        sent) := by
  have before := sound.listeners place listener found
  rcases listener.receive_cases received authorized serverNonce sessionId
    sent with ⟨challenged, unchallenged, passed, result⟩ | ⟨held, outcome⟩
  · obtain ⟨carried, version, -, proof, -⟩ := checkHello_eq_ok passed
    rw [result]
    refine ⟨?_, ?_⟩
    · intro other held
      obtain rfl := Option.some.inj held
      refine ⟨carried.short shortFrames (.head _),
        carried.short shortFrames (.tail _ (.head _)), version, proof, ?_⟩
      intro member
      exact deliverable.hello _ carried _ member proof
    · intro accepted done
      exact absurd done (sending_ne_ok sent accepted)
  · have same := listener.receive_extends fromSlice received authorized
      serverNonce sessionId sent
    refine ⟨?_, ?_⟩
    · intro challenged holds
      exact before.challenged challenged (held ▸ holds)
    · intro accepted done
      rcases outcome accepted done with earlier | ⟨challenged, holds, passed⟩
      · obtain ⟨challenged, holds, session, acceptance⟩ :=
          before.accepted accepted earlier
        exact ⟨challenged, held ▸ holds, session,
          acceptance.of_same same.identity⟩
      · obtain ⟨session, proof, carried, verified⟩ := checkProof_eq_ok passed
        refine ⟨challenged, held ▸ holds, session, ?_, ?_⟩
        · rw [same.identity]
          exact ⟨proof.signature, verified⟩
        · intro identity member key
          rw [same.identity]
          exact deliverable.proof proof carried identity member _ _ key verified

theorem Sound.step (sound : Sound honest network)
    (enabled : (handshake crypto serialize fromSlice honest).enabled network
      event) : Sound honest (network.next fromSlice event) := by
  have grows := next_extends enabled
  refine ⟨?_, ?_, ?_, ?_, ?_⟩
  · intro place later found
    rcases dialer_before enabled found with
      before | ⟨made, unanswered, undecided, -⟩ |
      ⟨earlier, received, sent, before, rfl, deliverable⟩
    · exact (sound.dialers place later before).grow grows
    · refine ⟨made, ?_, ?_⟩
      · intro challenge answered
        rw [unanswered] at answered
        cases answered
      · intro sessionId done
        exact absurd done (undecided sessionId)
    · exact (sound.dialer_receive shortFrames shortIds before deliverable
        sent).grow grows
  · intro place later found
    rcases listener_before enabled found with
      before | ⟨unchallenged, undecided⟩ |
      ⟨earlier, received, authorized, serverNonce, sessionId, sent, before, rfl,
        deliverable, -⟩
    · exact (sound.listeners place later before).grow grows
    · constructor
      · intro challenged holds
        rw [unchallenged] at holds
        cases holds
      · intro sessionId done
        rw [undecided] at done
        cases done
    · exact (sound.listener_receive shortFrames before deliverable
        authorized serverNonce sessionId sent).grow grows
  · intro left right leftDialer rightDialer leftFound rightFound same
    rcases hello_before enabled leftFound with
      ⟨leftBefore, leftOld, leftHello⟩ | ⟨leftFresh, leftAlone⟩
    · rcases hello_before enabled rightFound with
        ⟨rightBefore, rightOld, rightHello⟩ | ⟨rightFresh, -⟩
      · refine sound.nonces left right leftBefore rightBefore leftOld rightOld ?_
        rw [leftHello, rightHello, same]
      · refine absurd ?_ (rightFresh left leftBefore leftOld)
        rw [leftHello, same]
    · by_contra apart
      have rightOld := leftAlone right (Ne.symm apart)
      rw [rightFound] at rightOld
      exact leftFresh right rightDialer rightOld.symm same.symm
  · intro left right leftListener rightListener leftHeld rightHeld leftFound
      rightFound leftHolds rightHolds same
    rcases challenged_before enabled leftFound leftHolds with
      ⟨leftBefore, leftOld, leftHeldBefore⟩ | ⟨leftFresh, leftAlone⟩
    · rcases challenged_before enabled rightFound rightHolds with
        ⟨rightBefore, rightOld, rightHeldBefore⟩ | ⟨rightFresh, -⟩
      · exact sound.sessions left right leftBefore rightBefore leftHeld rightHeld
          leftOld rightOld leftHeldBefore rightHeldBefore same
      · exact absurd same (rightFresh left leftBefore leftHeld leftOld
          leftHeldBefore)
    · by_contra apart
      have rightOld := leftAlone right (Ne.symm apart)
      rw [rightFound] at rightOld
      exact leftFresh right rightListener rightHeld rightOld.symm rightHolds
        same.symm
  · intro entry member view
    rcases elsewhere_before enabled member with old | signed
    · exact sound.elsewhere entry old view
    · exact signed.not_transcript view

end Preserved

theorem Sound.of_reachable
    (shortFrames : ShortFrames fromSlice) (shortIds : ShortIds crypto)
    (reached : (handshake crypto serialize fromSlice honest).Reachable network) :
    Sound honest network := by
  refine reached.invariant (Sound honest) ?_ ?_
  · refine ⟨?_, ?_, ?_, ?_, ?_⟩ <;> simp [handshake]
  · intro state event sound enabled
    exact sound.step shortFrames shortIds enabled

section Agreement

variable {crypto : Crypto} {honest : Honest crypto} {network : Network crypto}
  (shortIds : ShortIds crypto) (sound : Sound honest network)

theorem nonce_eq_of_capabilityMessage
    (same : capabilityMessage left = capabilityMessage right) :
    left.nonce = right.nonce := by
  have ends := List.append_inj_right' same (by simp)
  exact Vector.toList_inj.mp ends

include shortIds sound

/-- The dialer behind a client that was accepted under an honest key: it has the
same view of the session, and made its hello with the secret the listener
knows. -/
theorem Sound.matching_dialer
    (found : network.listeners.lookup place = some listener)
    (holds : listener.challenged = some challenged)
    (apart : installationId crypto identity ≠
      installationId crypto listener.identity)
    (signed : network.Signed (crypto.verifyingKey identity)
      (challenged.transcript crypto listener.identity)) :
    ∃ other dialer challenge, network.dialers.lookup other = some dialer ∧
      dialer.answered = some challenge ∧
      crypto.verifyingKey dialer.identity = crypto.verifyingKey identity ∧
      dialer.view challenge = challenged.view listener.identity ∧
      (challenged.authorized.capabilitySecret ∈ honest.secrets →
        dialer.command.capabilitySecret =
          challenged.authorized.capabilitySecret) := by
  have held := (sound.listeners place listener found).challenged challenged holds
  have short := held.view_short shortIds listener.identity
  rcases signed with
    ⟨other, dialer, challenge, foundDialer, answered, key, transcript⟩ |
    ⟨other, twin, heldByTwin, foundTwin, twinHolds, key, transcript⟩ |
    ⟨_, elsewhere, -⟩
  · have dialerSound := sound.dialers other dialer foundDialer
    have views : dialer.view challenge = challenged.view listener.identity :=
      SessionView.transcript_inj (dialer.view_short shortIds dialerSound.started
          (dialerSound.answered challenge answered).short)
        short transcript
    refine ⟨other, dialer, challenge, foundDialer, answered, key, views, ?_⟩
    intro secret
    obtain ⟨maker, made, foundMade, sameSecret, message⟩ := held.dialed secret
    have nonces : made.hello.nonce = dialer.hello.nonce :=
      (nonce_eq_of_capabilityMessage message).trans
        (congrArg SessionView.clientNonce views).symm
    obtain rfl := sound.nonces maker other made dialer foundMade foundDialer
      nonces
    rw [foundDialer] at foundMade
    obtain rfl := Option.some.inj foundMade
    exact sameSecret
  · -- A listener signs with its own id as the server's.
    have twinShort := ((sound.listeners other twin foundTwin).challenged
      heldByTwin twinHolds).view_short shortIds twin.identity
    have views : heldByTwin.view twin.identity =
        challenged.view listener.identity :=
      SessionView.transcript_inj twinShort short transcript
    refine absurd ?_ apart
    have servers := congrArg SessionView.serverInstallationId views
    rw [installationId, ← key]
    exact servers
  · exact absurd rfl (sound.elsewhere _ elsewhere
      (challenged.view listener.identity))

theorem Sound.matching_listener
    (found : network.dialers.lookup place = some dialer)
    (answered : dialer.answered = some challenge)
    (member : identity ∈ honest.keys)
    (key : keyOf crypto dialer.command.peerPublicKey =
      some (crypto.verifyingKey identity)) :
    ∃ other listener challenged, network.listeners.lookup other = some listener ∧
      listener.challenged = some challenged ∧
      crypto.verifyingKey listener.identity = crypto.verifyingKey identity ∧
      challenged.view listener.identity = dialer.view challenge := by
  have dialerSound := sound.dialers place dialer found
  have answer := dialerSound.answered challenge answered
  obtain ⟨other, listener, challenged, foundListener, holds, sameKey,
    transcript⟩ := answer.challenged identity member key
  refine ⟨other, listener, challenged, foundListener, holds, sameKey, ?_⟩
  have held := (sound.listeners other listener foundListener).challenged
    challenged holds
  exact SessionView.transcript_inj (held.view_short shortIds listener.identity)
    (dialer.view_short shortIds dialerSound.started answer.short) transcript

theorem Sound.agreement
    (foundDialer : network.dialers.lookup place = some dialer)
    (foundListener : network.listeners.lookup other = some listener)
    (answered : dialer.answered = some challenge)
    (holds : listener.challenged = some challenged)
    (member : listener.identity ∈ honest.keys)
    (key : keyOf crypto dialer.command.peerPublicKey =
      some (crypto.verifyingKey listener.identity))
    (session : challenge.sessionId = challenged.challenge.sessionId) :
    dialer.view challenge = challenged.view listener.identity := by
  obtain ⟨partner, found, held, foundPartner, partnerHolds, -, views⟩ :=
    sound.matching_listener shortIds foundDialer answered member key
  have sessions : held.challenge.sessionId = challenged.challenge.sessionId :=
    (congrArg SessionView.sessionId views).trans session
  obtain rfl := sound.sessions partner other found listener held challenged
    foundPartner foundListener partnerHolds holds sessions
  rw [foundListener] at foundPartner
  obtain rfl := Option.some.inj foundPartner
  rw [holds] at partnerHolds
  obtain rfl := Option.some.inj partnerHolds
  exact views.symm

end Agreement

/-- Whoever listens or dials: the other end's key signed the transcript of the
session, and both ends see the same session. -/
theorem peer_handshake_agrees
    (crypto : Crypto) (serialize : PeerEndpointBundle → Bytes)
    (fromSlice : FromSlice) (honest : Honest crypto)
    (shortFrames : ShortFrames fromSlice) (shortIds : ShortIds crypto)
    (network : Network crypto)
    (reached : (handshake crypto serialize fromSlice honest).Reachable network) :
    (∀ place listener sessionId,
      network.listeners.lookup place = some listener →
      listener.outcome = some (.ok sessionId) →
      ∃ challenged, listener.challenged = some challenged ∧
        challenged.challenge.sessionId = sessionId ∧
        (∃ signature,
          verifySignature crypto challenged.authorized.publicKey
            (challenged.view listener.identity).transcript signature = true) ∧
        verifyCapabilityProof crypto challenged.authorized.capabilitySecret
          challenged.hello = true ∧
        (challenged.authorized.capabilitySecret ∈ honest.secrets →
          network.Dialed challenged.authorized.capabilitySecret
            (capabilityMessage challenged.hello)) ∧
        ∀ identity ∈ honest.keys,
          keyOf crypto challenged.authorized.publicKey =
            some (crypto.verifyingKey identity) →
          network.Signed (crypto.verifyingKey identity)
            (challenged.view listener.identity).transcript ∧
          (installationId crypto identity ≠
              installationId crypto listener.identity →
            ∃ other dialer challenge,
              network.dialers.lookup other = some dialer ∧
              dialer.answered = some challenge ∧
              crypto.verifyingKey dialer.identity =
                crypto.verifyingKey identity ∧
              dialer.view challenge = challenged.view listener.identity ∧
              (challenged.authorized.capabilitySecret ∈ honest.secrets →
                dialer.command.capabilitySecret =
                  challenged.authorized.capabilitySecret))) ∧
    (∀ place dialer sessionId,
      network.dialers.lookup place = some dialer →
      dialer.outcome = some (.ok sessionId) →
      ∃ challenge, dialer.answered = some challenge ∧
        challenge.sessionId = sessionId ∧
        challenge.installationId = dialer.command.endpoint.installationId ∧
        challenge.endpointSequence = dialer.command.endpoint.sequence ∧
        verifySignature crypto dialer.command.peerPublicKey
          (dialer.view challenge).transcript challenge.signature = true ∧
        ∀ identity ∈ honest.keys,
          keyOf crypto dialer.command.peerPublicKey =
            some (crypto.verifyingKey identity) →
          network.Signed (crypto.verifyingKey identity)
            (dialer.view challenge).transcript ∧
          ∃ other listener challenged,
            network.listeners.lookup other = some listener ∧
            listener.challenged = some challenged ∧
            crypto.verifyingKey listener.identity =
              crypto.verifyingKey identity ∧
            challenged.view listener.identity = dialer.view challenge) ∧
    (∀ place other dialer listener sessionId,
      network.dialers.lookup place = some dialer →
      network.listeners.lookup other = some listener →
      dialer.outcome = some (.ok sessionId) →
      listener.outcome = some (.ok sessionId) →
      listener.identity ∈ honest.keys →
      keyOf crypto dialer.command.peerPublicKey =
        some (crypto.verifyingKey listener.identity) →
      ∃ challenge challenged, dialer.answered = some challenge ∧
        listener.challenged = some challenged ∧
        dialer.view challenge = challenged.view listener.identity) := by
  have sound := Sound.of_reachable shortFrames shortIds reached
  refine ⟨?_, ?_, ?_⟩
  · intro place listener sessionId found done
    have listenerSound := sound.listeners place listener found
    obtain ⟨challenged, holds, session, acceptance⟩ :=
      listenerSound.accepted sessionId done
    have challenge := listenerSound.challenged challenged holds
    refine ⟨challenged, holds, session, acceptance.verified, challenge.proof,
      challenge.dialed, ?_⟩
    intro identity member key
    have signed := acceptance.signed identity member key
    refine ⟨signed, ?_⟩
    intro apart
    exact sound.matching_dialer shortIds found holds apart signed
  · intro place dialer sessionId found done
    have dialerSound := sound.dialers place dialer found
    obtain ⟨challenge, answered, session⟩ := dialerSound.connected sessionId done
    have answer := dialerSound.answered challenge answered
    refine ⟨challenge, answered, session, answer.server, answer.sequence,
      answer.verified, ?_⟩
    intro identity member key
    exact ⟨.inr (.inl (answer.challenged identity member key)),
      sound.matching_listener shortIds found answered member key⟩
  · intro place other dialer listener sessionId foundDialer foundListener
      dialerDone listenerDone member key
    obtain ⟨challenge, answered, dialerSession⟩ :=
      (sound.dialers place dialer foundDialer).connected sessionId dialerDone
    obtain ⟨challenged, holds, listenerSession, -⟩ :=
      (sound.listeners other listener foundListener).accepted sessionId
        listenerDone
    exact ⟨challenge, challenged, answered, holds,
      sound.agreement shortIds foundDialer foundListener answered holds member
        key (dialerSession.trans listenerSession.symm)⟩

/-! A network of one dialer and one listener. -/

section Single

variable {crypto : Crypto} {serialize : PeerEndpointBundle → Bytes}
  {fromSlice : FromSlice} {honest : Honest crypto}

def Network.single
    (dialer : Dialer crypto) (listener : Listener crypto) : Network crypto where
  dialers := Table.empty.insert 0 dialer
  listeners := Table.empty.insert 0 listener
  elsewhere := []

theorem Network.single_dialer_step (dialer : Dialer crypto) (received : Received)
    (reached : (handshake crypto serialize fromSlice honest).Reachable
      (.single dialer listener))
    (delivered : (single dialer listener).Deliverable fromSlice honest
      received) (result : dialer.receive fromSlice received (.ok ()) = later) :
    (handshake crypto serialize fromSlice honest).Reachable
      (.single later listener) := by
  subst result
  exact reached.step (Event.dialerReceives 0 received (.ok ())) delivered

theorem Network.single_listener_step (listener : Listener crypto)
    (received : Received) (authorized : String → Option AuthorizedPeer)
    (serverNonce : Key32) (sessionId : Uuid)
    (reached : (handshake crypto serialize fromSlice honest).Reachable
      (.single dialer listener))
    (delivered : (single dialer listener).Deliverable fromSlice honest received)
    (fresh : ∀ challenged, listener.challenged = some challenged →
      challenged.challenge.sessionId ≠ sessionId)
    (result : listener.receive fromSlice received authorized serverNonce
      sessionId (.ok ()) = later) :
    (handshake crypto serialize fromSlice honest).Reachable
      (.single dialer later) := by
  subst result
  refine reached.step
    (Event.listenerReceives 0 received authorized serverNonce sessionId
      (.ok ()))
    ⟨delivered, ?_⟩
  intro other held challenged found holds
  simp only [single, Table.lookup_insert, Table.lookup_empty] at found
  split at found
  · obtain rfl := Option.some.inj found
    exact fresh challenged holds
  · cases found

theorem Network.single_reachable
    (made : clientHello crypto dialing command nonce = .ok hello) :
    (handshake crypto serialize fromSlice honest).Reachable
      (.single ⟨dialing, command, hello, none, none⟩ ⟨listening, none, none⟩) := by
  let machine := handshake crypto serialize fromSlice honest
  let empty := machine.init
  have listens : machine.Reachable
      (machine.next empty (.listen 0 listening)) := by
    refine .step _ .init ?_
    exact rfl
  have dials : machine.Reachable
      (machine.next (machine.next empty (.listen 0 listening))
        (.dial 0 dialing command nonce (.ok ()))) := by
    refine .step _ listens ?_
    refine ⟨rfl, ?_⟩
    intro other dialer found
    cases found
  have result : machine.next (machine.next empty (.listen 0 listening))
        (.dial 0 dialing command nonce (.ok ())) =
      .single ⟨dialing, command, hello, none, none⟩ ⟨listening, none, none⟩ := by
    simp only [machine, handshake, next, made]
    rfl
  rwa [result] at dials

end Single

/-! Two clients, and the one session between them. Signatures verify for its
transcript only. -/

inductive SampleClient
  | alice
  | bob

def SampleClient.key : SampleClient → Key32
  | .alice => Vector.replicate 32 97
  | .bob => Vector.replicate 32 98

def sampleView : SessionView where
  protocolVersion := 1
  clientInstallationId := installationIdFromPublicKey .plain SampleClient.alice.key
  clientEndpointSequence := 3
  capabilityId := "1234567890abcdef"
  clientNonce := Vector.replicate 32 5
  serverInstallationId := installationIdFromPublicKey .plain SampleClient.bob.key
  serverEndpointSequence := 4
  serverNonce := Vector.replicate 32 6
  sessionId := 7
  onionAddress := "b.onion"

def sampleCrypto : Crypto :=
  { Crypto.plain with
    SigningKey := SampleClient
    verifyingKey := SampleClient.key
    sign := fun client message => padded 64 (client.key.toList ++ message)
    verify := fun key message signature =>
      message = sampleView.transcript ∧
        signature = padded 64 (key.toList ++ message) }

def sampleBundle (client : SampleClient) (sequence : UInt64) (onion : String) :
    PeerEndpointBundle where
  protocolVersion := 1
  installationId := installationIdFromPublicKey .plain client.key
  onionAddress := onion
  virtualPort := 443
  identityPublicKey := publicKey sampleCrypto client
  capabilities := []
  sequence := sequence
  issuedAt := 0
  expiresAt := none
  signature := ""

def sampleSecret : Bytes := List.replicate 16 7

def sampleCommand : PeerOutboundCommand where
  endpoint := sampleBundle .bob 4 "b.onion"
  capabilityId := "1234567890abcdef"
  capabilitySecret := sampleSecret
  peerPublicKey := publicKey sampleCrypto SampleClient.bob
  localEndpoint := sampleBundle .alice 3 "a.onion"

def sampleAuthorized : AuthorizedPeer where
  publicKey := publicKey sampleCrypto SampleClient.alice
  endpoint := sampleBundle .alice 3 "a.onion"
  localEndpoint := sampleBundle .bob 4 "b.onion"
  inboundCapabilityId := "1234567890abcdef"
  capabilitySecret := sampleSecret

def unprovedHello : PeerClientHello where
  protocolVersion := 1
  installationId := installationIdFromPublicKey .plain SampleClient.alice.key
  endpointSequence := 3
  capabilityId := "1234567890abcdef"
  capabilityProof := ""
  nonce := Vector.replicate 32 5

def sampleHello : PeerClientHello :=
  { unprovedHello with
    capabilityProof := capabilityProof sampleCrypto sampleSecret unprovedHello }

def sampleSignature (client : SampleClient) : String :=
  sign sampleCrypto client sampleView.transcript

def sampleChallenge : PeerServerChallenge where
  protocolVersion := 1
  installationId := installationIdFromPublicKey .plain SampleClient.bob.key
  endpointSequence := 4
  nonce := Vector.replicate 32 6
  sessionId := 7
  signature := sampleSignature .bob

def sampleProof : PeerClientProof where
  sessionId := 7
  signature := sampleSignature .alice

def sampleChallenged : Challenged where
  hello := sampleHello
  authorized := sampleAuthorized
  challenge := sampleChallenge

def sampleBytes (number : UInt8) : Bytes := number :: List.replicate 150 0

def sampleFrame (number : UInt8) : Received :=
  .message (.binary (sampleBytes number))

def samplePeerFrame (number : UInt8) : PeerFrame :=
  if number = 1 then .clientHello sampleHello
  else if number = 2 then .serverChallenge sampleChallenge
  else if number = 3 then .clientProof sampleProof
  else .handshakeAccepted 7

def sampleFromSlice : FromSlice := fun bytes =>
  if bytes.length < 151 then .error "EOF while parsing a value"
  else .ok (samplePeerFrame (bytes.headD 0))

theorem sample_decode_encode (bytes : Bytes) :
    sampleCrypto.decode64 (sampleCrypto.encode64 bytes) = some bytes :=
  Crypto.plain_correct.decode_encode bytes

theorem sampleDialer_transcript :
    dialerTranscript sampleCommand sampleHello sampleChallenge =
      sampleView.transcript := by
  decide +kernel

theorem sampleListener_transcript :
    listenerTranscript sampleCrypto SampleClient.bob sampleHello
        sampleAuthorized (Vector.replicate 32 6) 7 =
      sampleView.transcript := by
  decide +kernel

theorem sampleFromSlice_short : ShortFrames sampleFromSlice := by
  have bounded : ∀ text ∈ [sampleHello.installationId, sampleHello.capabilityId,
      sampleHello.capabilityProof, sampleChallenge.installationId,
      sampleChallenge.signature, sampleProof.signature],
      (utf8 text).length ≤ 151 := by decide +kernel
  intro bytes frame parsed text member
  unfold sampleFromSlice at parsed
  split at parsed
  · cases parsed
  · rename_i long
    obtain rfl := Except.ok.inj parsed
    refine le_trans (bounded text ?_) (not_lt.mp long)
    unfold samplePeerFrame at member
    split at member
    · simp_all [PeerFrame.texts]
      rcases member with rfl | rfl | rfl <;> simp
    · split at member
      · simp_all [PeerFrame.texts]
        rcases member with rfl | rfl <;> simp
      · split at member <;> simp_all [PeerFrame.texts]

theorem sampleCrypto_shortIds : ShortIds sampleCrypto := by
  intro key
  refine lt_of_le_of_lt (length_utf8_ofList_le _) ?_
  simp

def sampleHonest : Honest sampleCrypto where
  keys := Set.univ
  secrets := {sampleSecret}

theorem sample_carries
    (carried : Carries sampleFromSlice (sampleFrame number) frame) :
    samplePeerFrame number = frame := by
  obtain ⟨bytes, same, -, parsed⟩ := carried
  obtain rfl : sampleBytes number = bytes := by
    simpa [sampleFrame] using same
  have length : (sampleBytes number).length = 151 := by
    simp [sampleBytes]
  rw [sampleFromSlice, length] at parsed
  exact Except.ok.inj parsed

theorem sample_unforged {network : Network sampleCrypto} (client : SampleClient)
    (signed : network.Signed client.key sampleView.transcript) :
    network.Unforged sampleHonest (sampleSignature client) := by
  intro identity _ publicKey message key verified
  unfold keyOf at key
  simp only [verifySignature, key, sampleSignature, sign, sample_decode_encode,
    Option.bind_some, toArray?_toList] at verified
  obtain ⟨rfl, same⟩ := of_decide_eq_true verified
  have first := congrArg (fun array : Vector UInt8 64 => array[0]) same
  cases identity <;> cases client <;>
    simp [padded, sampleCrypto, SampleClient.key] at first
  · exact signed
  · exact signed

def sampleDialer (answered : Option PeerServerChallenge)
    (outcome : Option (Except String Uuid)) : Dialer sampleCrypto :=
  ⟨SampleClient.alice, sampleCommand, sampleHello, answered, outcome⟩

def sampleListener (challenged : Option Challenged)
    (outcome : Option (Except String Uuid)) : Listener sampleCrypto :=
  ⟨SampleClient.bob, challenged, outcome⟩

theorem sampleHandshake_reachable :
    (handshake sampleCrypto plainSerialize sampleFromSlice
      sampleHonest).Reachable
      (.single (sampleDialer (some sampleChallenge) (some (.ok 7)))
        (sampleListener (some sampleChallenged) (some (.ok 7)))) := by
  have made : clientHello sampleCrypto SampleClient.alice sampleCommand
      (Vector.replicate 32 5) = .ok sampleHello := by decide +kernel
  have helloPasses : checkHello sampleCrypto sampleFromSlice SampleClient.bob
      (fun _ => some sampleAuthorized) (Vector.replicate 32 6) 7
      (sampleFrame 1) = .ok sampleChallenged := by decide +kernel
  have challengePasses : checkChallenge sampleCrypto sampleFromSlice
      sampleCommand sampleHello (sampleFrame 2) = .ok sampleChallenge := by
    decide +kernel
  have proofPasses : checkProof sampleCrypto sampleFromSlice SampleClient.bob
      sampleChallenged (sampleFrame 3) = .ok 7 := by decide +kernel
  have acceptancePasses : checkAcceptance sampleFromSlice sampleChallenge
      (sampleFrame 4) = .ok 7 := by decide +kernel
  -- The steps from the last one back: acceptance, proof, challenge, hello.
  refine single_dialer_step (sampleDialer (some sampleChallenge) none)
    (sampleFrame 4) ?_ ⟨?_, ?_, ?_⟩
    (by simp only [sampleDialer, Dialer.receive, acceptancePasses])
  refine single_listener_step (sampleListener (some sampleChallenged) none)
    (sampleFrame 3) (fun _ => none) (Vector.replicate 32 6) 8 ?_ ⟨?_, ?_, ?_⟩
    (by rintro _ ⟨⟩; decide) (by simp only [sampleListener, Listener.receive,
      proofPasses, sending, Option.none_or])
  refine single_dialer_step (sampleDialer none none) (sampleFrame 2) ?_
    ⟨?_, ?_, ?_⟩ (by simp only [sampleDialer, Dialer.receive, challengePasses,
      sending])
  refine single_listener_step (sampleListener none none) (sampleFrame 1)
    (fun _ => some sampleAuthorized) (Vector.replicate 32 6) 7
    (single_reachable made) ⟨?_, ?_, ?_⟩ (by rintro _ ⟨⟩)
    (by simp only [sampleListener, Listener.receive, helloPasses, sending])
  all_goals
    intro held carried
    have frame := sample_carries carried
    cases frame
  · rintro _ rfl -
    exact ⟨0, _, rfl, rfl, rfl⟩
  · exact sample_unforged .bob (.inr (.inl
      ⟨0, _, sampleChallenged, rfl, rfl, rfl, sampleListener_transcript⟩))
  · exact sample_unforged .alice (.inl
      ⟨0, _, sampleChallenge, rfl, rfl, rfl, sampleDialer_transcript⟩)

theorem sampleHandshake_agrees :
    Dialer.view
        (⟨SampleClient.alice, sampleCommand, sampleHello, some sampleChallenge,
          some (.ok 7)⟩ : Dialer sampleCrypto)
        sampleChallenge =
      @Challenged.view sampleCrypto sampleChallenged SampleClient.bob := by
  have key : keyOf sampleCrypto sampleCommand.peerPublicKey =
      some (sampleCrypto.verifyingKey SampleClient.bob) := by
    simp only [keyOf, sampleCommand, publicKey, sample_decode_encode,
      Option.bind_some, toArray?_toList]
  obtain ⟨challenge, challenged, answered, holds, views⟩ :=
    (peer_handshake_agrees sampleCrypto plainSerialize sampleFromSlice
      sampleHonest sampleFromSlice_short sampleCrypto_shortIds _
      sampleHandshake_reachable).2.2 0 0 _ _ 7 rfl rfl rfl rfl trivial key
  obtain rfl := Option.some.inj answered
  obtain rfl := Option.some.inj holds
  exact views

end Torchat.Peer
