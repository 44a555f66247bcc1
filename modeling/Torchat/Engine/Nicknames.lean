import Torchat.Core.Invite
import Torchat.Core.RelayPayload
import Torchat.Engine.LedgerMoves

namespace Torchat

open Foundation Storage

theorem length_le_utf8ByteSize (text : String) :
    text.toList.length ≤ text.utf8ByteSize := by
  have chars : ∀ list : List Char,
      list.length ≤ (String.ofList list).utf8ByteSize := by
    intro list
    induction list with
    | nil => exact Nat.zero_le _
    | cons first rest induction =>
      have split : String.ofList (first :: rest) =
          String.singleton first ++ String.ofList rest := by
        apply String.toList_injective
        simp
      rw [split, String.utf8ByteSize_append, String.utf8ByteSize_singleton,
        List.length_cons]
      have positive := first.utf8Size_pos
      omega
  have whole := chars text.toList
  rwa [String.ofList_toList] at whole

def protocolNickname
    (installationId : InstallationId) (nickname : String) : String :=
  normalizedContactNickname installationId nickname

variable {nickname : String}

theorem normalizedContactNickname_of_two (installationId : InstallationId)
    (long : 2 ≤ (trim nickname).toList.length)
    (short : (trim nickname).toList.length ≤ 32) :
    normalizedContactNickname installationId nickname = trim nickname := by
  simp only [normalizedContactNickname, if_pos long]
  rw [List.take_of_length_le short, String.ofList_toList]

theorem trim_ne_empty_of_length
    (long : 2 ≤ (trim nickname).toList.length) : trim nickname ≠ "" := by
  intro blank
  rw [blank] at long
  cases long

/-! ## The five validators -/

namespace Core

def contactCardFromInvite (invite : ContactInvite) : ContactCard where
  installationId := invite.installationId
  publicKey := invite.publicKey
  fingerprint := invite.fingerprint
  nickname := normalizedContactNickname invite.installationId
    (invite.nickname.getD "")

variable {crypto : Crypto} {nickname : String}

theorem ContactCard.validate_fromIdentity (correct : crypto.Correct)
    (identity : crypto.SigningKey) (long : 2 ≤ (trim nickname).utf8ByteSize)
    (short : (trim nickname).toList.length ≤ 32) :
    (ContactCard.fromIdentity crypto identity nickname).validate crypto =
      .ok () := by
  simp only [ContactCard.validate, required_bind_eq_ok]
  refine ⟨_, correct.decode_encode _, _, toArray?_toList _, ?_⟩
  simp only [refuseIf_bind_eq_ok, refuseIf_eq_ok]
  refine ⟨fun other => other rfl, fun other => other rfl, ?_⟩
  change ¬ ((trim nickname).utf8ByteSize < 2 ∨ (trim nickname).toList.length > 32)
  omega

theorem ContactInvite.WellFormed.named {codec : InviteCodec}
    {invite : ContactInvite}
    (wellFormed : WellFormed crypto codec { invite with nickname := none } now
      policy) (named : invite.nickname = some nickname)
    (shown : trim nickname ≠ "") (short : nickname.toList.length ≤ 32) :
    invite.WellFormed crypto codec now policy where
  version := wellFormed.version
  identity := wellFormed.identity
  keyPackage := wellFormed.keyPackage
  recipient := wellFormed.recipient
  inviteId := wellFormed.inviteId
  live := wellFormed.live
  lifetime := wellFormed.lifetime
  nickname := by
    intro given held
    cases named.symm.trans held
    exact ⟨shown, short⟩
  endpoint := wellFormed.endpoint
  capability := wellFormed.capability

end Core

def receivedCard (card : Core.ContactCard) : ContactCard :=
  ⟨card.installationId, card.publicKey, card.fingerprint, card.nickname⟩

def storedNickname (card : Core.ContactCard) (existing : Option ContactRecord) :
    String :=
  (Runtime.withStoredDefaults
    (contactRecordFromCard (receivedCard card) true) existing).nickname

section

variable (crypto : Core.Crypto) (codec : Core.InviteCodec)
  (identity : crypto.SigningKey)

def welcomeCard (profile : RuntimeProfile) : Core.ContactCard :=
  Core.ContactCard.fromIdentity crypto identity
    (trim (protocolNickname (Core.installationId crypto identity)
      profile.nickname))

/-- A nickname that was committed is good for everything it is used for. -/
structure AcceptedEverywhere
    (nickname : String) (stored : Option RuntimeProfile) : Prop where
  ready : Pairing.requireProfileReady stored = .ok ()
  card : ∀ profile ∈ stored,
    (welcomeCard crypto identity profile).validate crypto = .ok ()
  invite : ∀ profile ∈ stored, ∀ text now policy (invite : Core.ContactInvite),
    codec.fromStr text = .ok invite →
    invite.nickname = some (protocolNickname
      (Core.installationId crypto identity) profile.nickname) →
    Core.ContactInvite.WellFormed crypto codec
      { invite with nickname := none } now policy →
    invite.Signed crypto codec →
    Core.ContactInvite.parseAtWithPolicy crypto codec text now policy =
      .ok invite
  welcomed : ∀ profile ∈ stored, ∀ existing,
    storedNickname (welcomeCard crypto identity profile) existing =
      trim nickname
  invited : ∀ profile ∈ stored, ∀ existing (invite : Core.ContactInvite),
    invite.nickname = some (protocolNickname
      (Core.installationId crypto identity) profile.nickname) →
    storedNickname (Core.contactCardFromInvite invite) existing =
      trim nickname

end

namespace Runtime

variable {runtime final : Runtime} {nickname : String} {value : Unit}

theorem validateNickname_eq_ok_iff :
    validateNickname nickname = .ok accepted ↔
      (2 ≤ (trim nickname).utf8ByteSize ∧
        (trim nickname).toList.length ≤ 32) ∧ trim nickname = accepted := by
  simp only [validateNickname]
  split
  · rename_i refused
    exact iff_of_false nofun (by omega)
  · rename_i passed
    rw [Except.ok.injEq, and_iff_right (by omega)]

theorem commitNickname_ok
    (ran : commitNickname nickname runtime = (.ok value, final)) :
    (trim nickname).toList.length ≤ 32 ∧ ∃ profile,
      final.database.profile = some profile ∧
        profile.nickname = trim nickname := by
  unfold commitNickname at ran
  obtain ⟨accepted, validated, ran⟩ := ofExcept_bind_ok ran
  obtain ⟨⟨_, short⟩, rfl⟩ := validateNickname_eq_ok_iff.mp validated
  refine ⟨short, ?_⟩
  obtain ⟨profile, next, asked, ran⟩ := bind_ok ran
  cases profile with
  | none => cases ran
  | some profile =>
    obtain ⟨after, wrote, ran⟩ := write_bind_ok ran
    have stored := congrArg Database.profile (Except.ok.inj wrote)
    cases ran
    exact ⟨_, stored.symm, rfl⟩

end Runtime

section

variable {crypto : Core.Crypto} {codec : Core.InviteCodec}

theorem requireProfileReady_eq_ok_iff :
    Pairing.requireProfileReady (some profile) = .ok () ↔
      2 ≤ (trim profile.nickname).toList.length := by
  simp only [Pairing.requireProfileReady]
  split
  · rename_i short
    exact iff_of_false nofun (by omega)
  · rename_i long
    exact iff_of_true rfl (by omega)

theorem storedNickname_of_two (existing : Option ContactRecord)
    (long : 2 ≤ (trim card.nickname).toList.length)
    (short : (trim card.nickname).toList.length ≤ 32) :
    storedNickname card existing = trim card.nickname := by
  have fresh : (contactRecordFromCard (receivedCard card) true).nickname =
      trim card.nickname := by
    simp only [contactRecordFromCard, receivedCard]
    exact normalizedContactNickname_of_two card.installationId long short
  have shown : trim (trim card.nickname) ≠ "" := by
    rw [trim_trim]
    exact trim_ne_empty_of_length long
  simp only [storedNickname, Runtime.withStoredDefaults, fresh, if_neg shown]

/-- A committed nickname is accepted wherever it is used, and arrives as the same
text, exactly if it has two characters once it is trimmed. -/
theorem committed_nickname_is_accepted_everywhere_iff
    (correct : crypto.Correct) (identity : crypto.SigningKey)
    {runtime final : Runtime} {nickname : String} {value : Unit}
    (ran : Runtime.commitNickname nickname runtime = (.ok value, final)) :
    AcceptedEverywhere crypto codec identity nickname final.database.profile ↔
      2 ≤ (trim nickname).toList.length := by
  obtain ⟨short, profile, stored, named⟩ := Runtime.commitNickname_ok ran
  rw [stored]
  have twice : trim profile.nickname = trim nickname := by
    rw [named, trim_trim]
  constructor
  · intro accepted
    rw [← twice]
    exact requireProfileReady_eq_ok_iff.mp accepted.ready
  · intro long
    have outgoing : ∀ own, protocolNickname own profile.nickname =
        trim nickname := by
      intro own
      rw [← twice] at long short ⊢
      exact normalizedContactNickname_of_two own long short
    have carded : (welcomeCard crypto identity profile).nickname =
        trim nickname := by
      simp only [welcomeCard, Core.ContactCard.fromIdentity, outgoing, trim_trim]
    have arrives : ∀ (card : Core.ContactCard) (existing : Option ContactRecord),
        card.nickname = trim nickname →
          storedNickname card existing = trim nickname := by
      intro card existing same
      rw [← trim_trim nickname, ← same] at long short ⊢
      exact storedNickname_of_two existing long short
    refine
      { ready := ?ready
        card := ?card
        invite := ?invite
        welcomed := ?welcomed
        invited := ?invited }
    case ready =>
      rw [requireProfileReady_eq_ok_iff, twice]
      exact long
    case card =>
      rintro _ ⟨⟩
      apply Core.ContactCard.validate_fromIdentity correct
      · rw [outgoing, trim_trim, trim_trim]
        exact long.trans (length_le_utf8ByteSize _)
      · rw [outgoing, trim_trim, trim_trim]
        exact short
    case invite =>
      rintro _ ⟨⟩ text now policy invite parsed held wellFormed signed
      rw [outgoing] at held
      have shown : trim (trim nickname) ≠ "" := by
        rw [trim_trim]
        exact trim_ne_empty_of_length long
      exact Core.ContactInvite.parseAtWithPolicy_eq_ok_iff.mpr
        ⟨parsed, wellFormed.named held shown short, signed⟩
    case welcomed =>
      rintro _ ⟨⟩ existing
      exact arrives _ existing carded
    case invited =>
      rintro _ ⟨⟩ existing invite held
      rw [outgoing] at held
      apply arrives
      simp only [Core.contactCardFromInvite, held, Option.getD_some]
      rw [normalizedContactNickname_of_two invite.installationId
        (by rwa [trim_trim]) (by rwa [trim_trim]), trim_trim]

end

def unnamed : Runtime where
  database :=
    { Database.empty with profile := some ⟨"alice", "", "key", "fingerprint"⟩ }
  session := .new
  host := .initial (.calm 7)

theorem commitNickname_unnamed (nickname accepted : String)
    (valid : Runtime.validateNickname nickname = .ok accepted) :
    Runtime.commitNickname nickname unnamed =
      (.ok (), (Runtime.commitNickname nickname unnamed).2) := by
  simp only [Runtime.commitNickname, valid]
  rfl

theorem nickname_of_two_characters_is_accepted_everywhere :
    AcceptedEverywhere .plain Core.sampleCodec () " Al "
      (Runtime.commitNickname " Al " unnamed).2.database.profile :=
  (committed_nickname_is_accepted_everywhere_iff Core.Crypto.plain_correct ()
    (commitNickname_unnamed " Al " "Al" (by decide +kernel))).mpr
    (by decide +kernel)

/-- One letter of two bytes is committed and leaves the profile unready. -/
theorem nickname_of_one_character_is_not_ready :
    (Runtime.commitNickname "ł" unnamed).1 = .ok () ∧
      ¬ AcceptedEverywhere .plain Core.sampleCodec () "ł"
        (Runtime.commitNickname "ł" unnamed).2.database.profile := by
  have committed := commitNickname_unnamed "ł" "ł" (by decide +kernel)
  refine ⟨congrArg Prod.fst committed, fun accepted => ?_⟩
  obtain ⟨_, profile, stored, named⟩ := Runtime.commitNickname_ok committed
  rw [stored] at accepted
  have ready := requireProfileReady_eq_ok_iff.mp accepted.ready
  rw [named, trim_trim] at ready
  exact absurd ready (by decide +kernel)

end Torchat
