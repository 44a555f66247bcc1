import Torchat.Engine.LedgerMoves

namespace Torchat

open Foundation Storage

/-! ## What the user keeps about a contact -/

namespace Storage.Database

def history (database : Database) (contact : InstallationId) :
    List (Uuid × MessageRow) :=
  database.messages.entries.filter fun entry =>
    decide (entry.2.message.conversationId = contact)

structure SettingsKept
    (contact : InstallationId) (before after : Database) : Prop where
  localAlias : (after.contact contact).map ContactRecord.localAlias =
    (before.contact contact).map ContactRecord.localAlias
  muted : (after.contact contact).map ContactRecord.muted =
    (before.contact contact).map ContactRecord.muted
  transportPolicy : (after.contact contact).map ContactRecord.transportPolicy =
    (before.contact contact).map ContactRecord.transportPolicy
  unread : ∀ conversation ∈ before.conversation contact,
    (after.conversation contact).map ConversationSummary.unreadCount =
      some conversation.unreadCount
  history : after.history contact = before.history contact

def SameChats (before after : Database) : Prop :=
  (after.contacts, after.conversations, after.messages) =
    (before.contacts, before.conversations, before.messages)

instance SameChats.frame : Frame SameChats :=
  .of_eq fun database : Database =>
    (database.contacts, database.conversations, database.messages)

instance : (executeReturning (consumeInvite inviteId)).Keeps SameChats :=
  .executeReturning fun _ _ _ done => by
    unfold consumeInvite at done
    split at done
    · cases done
      rfl
    · cases done
      rfl

instance (contact : InstallationId) (boundaryAt : Int) :
    (execute (beginVerifiedRelationship contact boundaryAt)).Keeps
      SameChats :=
  .total fun _ => rfl

instance : (execute (putConversationMlsSnapshot conversationId snapshot)).Keeps
      SameChats :=
  .execute fun database after done => by
    unfold putConversationMlsSnapshot at done
    split at done
    · cases done
      rfl
    · obtain ⟨_, _, stored⟩ := bind_eq_ok.mp done
      cases stored
      rfl

instance : (execute (putPendingWelcome inviteId welcome)).Keeps SameChats :=
  .total fun _ => rfl

instance : (execute (removePendingLocalInviteMls inviteId)).Keeps SameChats :=
  .total fun _ => rfl

instance (contact : InstallationId) (lineage : Nat) :
    (Program.modify (recordGroup contact lineage) :
      Program Database RuntimeError Unit).Keeps SameChats :=
  .modify fun _ => rfl

theorem SameChats.settingsKept_iff {contact : InstallationId}
    (same : SameChats before after) :
    SettingsKept contact start after ↔ SettingsKept contact start before := by
  obtain ⟨contacts, rest⟩ := Prod.mk.inj same
  obtain ⟨conversations, messages⟩ := Prod.mk.inj rest
  have people : after.contact contact = before.contact contact := by
    simp only [Database.contact, contacts]
  have chats : after.conversation contact = before.conversation contact := by
    simp only [Database.conversation, conversations]
  have lines : after.history contact = before.history contact := by
    simp only [Database.history, messages]
  constructor
  · rintro ⟨localAlias, muted, policy, unread, history⟩
    rw [people] at localAlias muted policy
    rw [chats] at unread
    exact ⟨localAlias, muted, policy, unread, lines ▸ history⟩
  · rintro ⟨localAlias, muted, policy, unread, history⟩
    rw [← people] at localAlias muted policy
    rw [← chats] at unread
    exact ⟨localAlias, muted, policy, unread, lines.trans history⟩

end Storage.Database

namespace Runtime

theorem withStoredDefaults_settings
    (contact : ContactRecord) (existing : Option ContactRecord) :
    (withStoredDefaults contact existing).localAlias = contact.localAlias ∧
      (withStoredDefaults contact existing).muted = contact.muted ∧
      (withStoredDefaults contact existing).transportPolicy =
        contact.transportPolicy := by
  simp only [withStoredDefaults, apply_ite ContactRecord.localAlias,
    apply_ite ContactRecord.muted, apply_ite ContactRecord.transportPolicy,
    ite_self, and_self]

/-- The row of the contact is written anew, and the conversation is kept but for
its status. -/
structure Promoted (contact : ContactRecord) (status : ConversationState)
    (conversation : ConversationSummary) (before after : Database) : Prop where
  contacts : after.contacts = before.contacts.insert contact.installationId
    (withStoredDefaults contact (before.contact contact.installationId))
  conversations : after.conversations =
    before.conversations.insert conversation.id conversation
  messages : after.messages = before.messages
  id : conversation.id = contact.installationId
  kept : ∀ stored ∈ before.conversation contact.installationId,
    conversation = { stored with status := status }

theorem Promoted.of_sameChats
    (promoted : Promoted contact status conversation before after)
    (same : Database.SameChats start before) :
    Promoted contact status conversation start after := by
  obtain ⟨contacts, rest⟩ := Prod.mk.inj same
  obtain ⟨conversations, messages⟩ := Prod.mk.inj rest
  obtain ⟨people, chats, lines, id, kept⟩ := promoted
  simp only [Database.contact, Database.conversation, contacts, conversations,
    messages] at people chats lines kept
  exact ⟨people, chats, lines, id, kept⟩

theorem Promoted.of_written
    (put : Database.putContact
      (withStoredDefaults contact (before.contact contact.installationId))
      before = .ok placed)
    (stored : Database.putConversation conversation placed = .ok after)
    (id : conversation.id = contact.installationId)
    (kept : ∀ row ∈ before.conversation contact.installationId,
      conversation = { row with status := status }) :
    Promoted contact status conversation before after := by
  obtain ⟨_, _, stored⟩ := bind_eq_ok.mp stored
  cases put
  cases stored
  exact ⟨by rw [withStoredDefaults_installationId], rfl, rfl, id, kept⟩

variable {openConversation : Bool}

theorem placeConversation_ok
    (ran : (do
      putConversation conversation
      if openConversation then
        onSession (RuntimeSession.selectConversation conversation.id)
      changed "contacts"
      changed "conversations"
      return conversation : Call ConversationSummary)
        runtime = (.ok placed, final)) :
    placed = conversation ∧
      Database.putConversation conversation runtime.database =
        .ok final.database := by
  obtain ⟨next, wrote, ran⟩ := write_bind_ok ran
  cases openConversation with
  | false | true =>
    cases ran
    exact ⟨rfl, wrote⟩

theorem promoteContactWithStatus_ok
    (ran : promoteContactWithStatus contact status openConversation runtime =
      (.ok conversation, final)) :
    Promoted contact status conversation runtime.database final.database := by
  unfold promoteContactWithStatus at ran
  obtain ⟨existing, asked, queried, ran⟩ := bind_ok ran
  obtain ⟨rfl, rfl⟩ := query_ok queried
  obtain ⟨placed, wrote, ran⟩ := write_bind_ok ran
  obtain ⟨stored, looked, queried, ran⟩ := bind_ok ran
  obtain ⟨rfl, rfl⟩ := query_ok queried
  rw [withStoredDefaults_installationId] at ran
  have same : placed.database.conversation contact.installationId =
      runtime.database.conversation contact.installationId := by
    rw [← Except.ok.inj wrote]
    rfl
  cases found : placed.database.conversation contact.installationId with
  | none =>
    simp only [found] at ran
    obtain ⟨now, drawn, _, clock, ran⟩ := within_ok Untouched ran
    obtain ⟨rfl, stored⟩ := placeConversation_ok ran
    have drawn : drawn.database = placed.database := clock.data
    rw [drawn] at stored
    refine .of_written wrote stored rfl fun row held => ?_
    rw [← same, found] at held
    cases held
  | some kept =>
    simp only [found] at ran
    obtain ⟨rfl, stored⟩ := placeConversation_ok ran
    have id : kept.id = contact.installationId :=
      Database.conversation_id found
    refine .of_written wrote stored id fun row held => ?_
    rw [← same, found] at held
    cases held
    rfl

end Runtime

namespace Runtime

theorem Promoted.settingsKept_iff
    (promoted : Promoted contact status conversation before after)
    (held : before.contact contact.installationId = some stored) :
    Database.SettingsKept contact.installationId before after ↔
      contact.localAlias = stored.localAlias ∧ contact.muted = stored.muted ∧
        contact.transportPolicy = stored.transportPolicy := by
  obtain ⟨localAlias, muted, policy⟩ := withStoredDefaults_settings contact
    (before.contact contact.installationId)
  have contacts := promoted.contacts
  generalize withStoredDefaults contact (before.contact contact.installationId) =
    merged at localAlias muted policy contacts
  have renewed : after.contact contact.installationId =
      some { merged with installationId := contact.installationId } := by
    simp only [Database.contact, contacts, Table.lookup_insert, if_pos,
      Option.map_some]
  have unread : ∀ row ∈ before.conversation contact.installationId,
      (after.conversation contact.installationId).map
        ConversationSummary.unreadCount = some row.unreadCount := by
    intro row found
    have count : conversation.unreadCount = row.unreadCount := by
      rw [promoted.kept row found]
    simp only [Database.conversation, promoted.conversations, promoted.id,
      Table.lookup_insert, if_pos, Option.map_some, count]
  have history : after.history contact.installationId =
      before.history contact.installationId := by
    simp only [Database.history, promoted.messages]
  constructor
  · intro kept
    have first := kept.localAlias
    have second := kept.muted
    have third := kept.transportPolicy
    rw [renewed, held] at first second third
    exact ⟨localAlias.symm.trans (Option.some.inj first),
      muted.symm.trans (Option.some.inj second),
      policy.symm.trans (Option.some.inj third)⟩
  · rintro ⟨first, second, third⟩
    refine ⟨?_, ?_, ?_, unread, history⟩
    · simp only [renewed, localAlias, Option.map_some, held, first]
    · simp only [renewed, muted, Option.map_some, held, second]
    · simp only [renewed, policy, Option.map_some, held, third]

theorem commitContact_ok
    (ran : commitContact commit runtime = (.ok value, final)) :
    ∃ conversation promoted,
      Promoted
        { contactRecordFromCard commit.card true with verification := .verified }
        .active conversation runtime.database promoted ∧
      Database.SameChats promoted final.database := by
  unfold commitContact at ran
  obtain ⟨fresh, consumed, _, kept, ran⟩ := within_ok Database.SameChats ran
  cases fresh with
  | false => cases ran
  | true =>
    obtain ⟨conversation, next, promoted, ran⟩ := bind_ok ran
    have promoted := promoteContactWithStatus_ok promoted
    refine ⟨conversation, next.database, promoted.of_sameChats kept.data, ?_⟩
    obtain ⟨_, renewed, _, begun, ran⟩ := within_ok Database.SameChats ran
    obtain ⟨_, sealed, _, stored, ran⟩ := within_ok Database.SameChats ran
    refine Frame.trans begun.data (Frame.trans stored.data ?_)
    cases welcome : commit.pendingWelcome with
    | none =>
      simp only [welcome] at ran
      exact within_end Database.SameChats ran
    | some welcome =>
      simp only [welcome] at ran
      exact within_end Database.SameChats ran

end Runtime

namespace Actor

/-- A pairing that is committed for a stored contact keeps what the user set for
it exactly if the user had set nothing: no alias, and not muted. -/
theorem repairing_keeps_settings_iff
    {commit : PairingCommit} {actor after : Actor P} {stored : ContactRecord}
    {value : Unit}
    (held : actor.database.contact commit.card.installationId = some stored)
    (committed : transact (Runtime.commitContact commit) actor =
      (.ok value, after)) :
    Database.SettingsKept commit.card.installationId actor.database
        after.database ↔
      stored.localAlias = none ∧ stored.muted = false := by
  rcases transact_cases committed with
    ⟨failed, _⟩ | ⟨_, runtime, database, session, ran, rebooked, rfl, _⟩
  · exact absurd rfl (failed value)
  obtain ⟨conversation, promoted, renewed, same⟩ := Runtime.commitContact_ok ran
  have booked : Database.SameChats runtime.database database := by
    obtain ⟨_, _, _, rfl⟩ := rebooked
    rfl
  have kept : Database.SameChats promoted database :=
    Frame.trans same booked
  rw [kept.settingsKept_iff]
  refine (renewed.settingsKept_iff held).trans ?_
  constructor
  · rintro ⟨localAlias, muted, _⟩
    exact ⟨localAlias.symm, muted.symm⟩
  · rintro ⟨localAlias, muted⟩
    -- there is one transport policy only
    exact ⟨localAlias.symm, muted.symm, by cases stored.transportPolicy; rfl⟩

end Actor

def partedFromAlice (localAlias : Option String) :
    Actor (Primitives.plain "me") :=
  Actor.assemble _
    (Storage.machine.run .empty
      [.putContact ⟨"alice", "Alice", "key", "fingerprint", localAlias, false,
          false, .verified, .peerOnly⟩,
        .putConversation ⟨"alice", .active, "", 0, 3⟩,
        .removeRelationshipWithId "alice" 5 true "removal" 1])
    .empty false none 0 (.initial (.calm 7))

def aliceAgain : PairingCommit where
  card := ⟨"alice", "key", "fingerprint", "Alice"⟩
  snapshot := [1]
  lineage := 1
  inviteId := "invite"
  pendingWelcome := none
  removesLocalInvite := false
  boundaryAt := 9

theorem repairing_without_alias_keeps_settings :
    Database.SettingsKept "alice" (partedFromAlice none).database
      (Actor.transact (Runtime.commitContact aliceAgain)
        (partedFromAlice none)).2.database :=
  (Actor.repairing_keeps_settings_iff
    (show (partedFromAlice none).database.contact "alice" =
      some ⟨"alice", "Alice", "key", "fingerprint", none, false, true, .verified,
        .peerOnly⟩ by decide +kernel)
    (show Actor.transact (Runtime.commitContact aliceAgain)
      (partedFromAlice none) = (.ok (), _) from rfl)).mpr ⟨rfl, rfl⟩

/-- The name she had is gone afterwards. -/
theorem repairing_drops_the_alias :
    (Actor.transact (Runtime.commitContact aliceAgain)
        (partedFromAlice (some "Al"))).1 = .ok () ∧
      ¬ Database.SettingsKept "alice" (partedFromAlice (some "Al")).database
        (Actor.transact (Runtime.commitContact aliceAgain)
          (partedFromAlice (some "Al"))).2.database := by
  refine ⟨rfl, fun kept => ?_⟩
  exact absurd kept.localAlias (by decide +kernel)

end Torchat
