import Torchat.Core.Identity
import Torchat.Foundation.Reader
import Torchat.Foundation.Table

namespace Torchat.Crypto

open Foundation Torchat.Core Reader Program

/-- What OpenMLS keeps its state in. -/
abbrev MlsStore := Table Bytes Bytes

namespace MlsStore

def Same (left right : MlsStore) : Prop :=
  ∀ key, left.lookup key = right.lookup key

def ofEntries (entries : List (Bytes × Bytes)) : MlsStore :=
  entries.foldl (fun store entry => store.insert entry.1 entry.2) .empty

end MlsStore

/-- What the snapshots are made with: OpenMLS, which reads the same from stores
that hold the same, SHA-256, and the order of a hash map. -/
structure OpenMls where
  Signer : Type
  Group : Type
  toPublicVec : Signer → Bytes
  readSigner : MlsStore → Bytes → Option Signer
  groupId : Group → Bytes
  epoch : Group → UInt64
  load : MlsStore → Bytes → Except String (Option Group)
  sha256 : Bytes → Bytes
  order : MlsStore → List (Bytes × Bytes)
  readSigner_same : ∀ {left right : MlsStore}, left.Same right →
    readSigner left = readSigner right
  load_same : ∀ {left right : MlsStore}, left.Same right →
    load left = load right
  length_sha256 : ∀ bytes, (sha256 bytes).length = 32
  order_perm : ∀ store, (order store).Perm store.entries

def suite : Bytes := utf8 "MLS_128_DHKEMX25519_AES128GCM_SHA256_Ed25519"

def mlsSnapshotHeader : Bytes := utf8 "TCMLS1"

def mlsSnapshotV2Header : Bytes := utf8 "TCMLS2"

def mlsSnapshotAppSchema : Nat := 1

def mlsSnapshotOpenmlsVersion : Bytes := utf8 "0.8.1"

/-- The length is cast to 32 bits. -/
def writeBlob (value : Bytes) : Bytes := lengthPrefixed 4 value

def writeEntry (entry : Bytes × Bytes) : Bytes :=
  writeBlob entry.1 ++ writeBlob entry.2

structure DirectConversation (M : OpenMls) where
  storage : MlsStore
  signer : M.Signer
  group : M.Group

namespace DirectConversation

def snapshotPayload (conversation : DirectConversation M) : Bytes :=
  utf8 "TCMLS1" ++
  writeBlob (M.toPublicVec conversation.signer) ++
  writeBlob (M.groupId conversation.group) ++
  bigEndian 4 conversation.storage.size ++
  (M.order conversation.storage).flatMap writeEntry

def envelope (header stateVersion : Bytes)
    (conversation : DirectConversation M) : Bytes :=
  header ++
  bigEndian 2 mlsSnapshotAppSchema ++
  writeBlob mlsSnapshotOpenmlsVersion ++
  writeBlob suite ++
  writeBlob (M.groupId conversation.group) ++
  bigEndian 8 (M.epoch conversation.group).toNat ++
  stateVersion ++
  M.sha256 conversation.snapshotPayload ++
  writeBlob conversation.snapshotPayload

def snapshotCurrent (conversation : DirectConversation M) : Bytes :=
  conversation.envelope mlsSnapshotHeader []

def snapshotV2
    (stateVersion : UInt64) (conversation : DirectConversation M) : Bytes :=
  conversation.envelope mlsSnapshotV2Header (bigEndian 8 stateVersion.toNat)

end DirectConversation

def take : Nat → Reader String Bytes := Reader.take "truncated MLS snapshot"

def takeNumber (malformed : String) : Nat → Reader String Nat :=
  Reader.number "truncated MLS snapshot" malformed

def takeBlob : Reader String Bytes :=
  Reader.blob "truncated MLS snapshot" "invalid MLS blob length" 4

def takeHeader : Reader String Bool := do
  let header ← take 6
  if header ≠ mlsSnapshotHeader ∧ header ≠ mlsSnapshotV2Header then
    Program.fail "invalid MLS snapshot header"
  return decide (header = mlsSnapshotV2Header)

structure SealedFields where
  groupId : Bytes
  epoch : Nat
  stateVersion : Option Nat
  checksum : Bytes

def takeStateVersion (isV2 : Bool) (malformed : String) :
    Reader String (Option Nat) :=
  if isV2 then do
    return some (← takeNumber malformed 8)
  else
    return none

def takeSealedFields (isV2 : Bool) (malformed : String) :
    Reader String SealedFields := do
  let groupId ← takeBlob
  let epoch ← takeNumber "invalid MLS snapshot epoch" 8
  let stateVersion ← takeStateVersion isV2 malformed
  let checksum ← take 32
  return ⟨groupId, epoch, stateVersion, checksum⟩

def takeRestoredFields : Reader String SealedFields := do
  let isV2 ← takeHeader
  let schema ← takeNumber "invalid MLS app schema" 2
  if schema ≠ mlsSnapshotAppSchema then
    Program.fail "unsupported MLS app schema"
  let openmlsVersion ← takeBlob
  if openmlsVersion ≠ mlsSnapshotOpenmlsVersion then
    Program.fail "unsupported OpenMLS snapshot version"
  let ciphersuite ← takeBlob
  if ciphersuite ≠ suite then
    Program.fail "unsupported MLS ciphersuite"
  takeSealedFields isV2 "invalid MLS snapshot state version"

structure MlsSnapshotMetadata where
  appSchema : Nat
  openmlsVersion : Bytes
  ciphersuite : Bytes
  groupId : Bytes
  epoch : Nat
  stateVersion : Option Nat
  snapshotHash : Bytes
  deriving DecidableEq

namespace MlsSnapshotMetadata

def fields (metadata : MlsSnapshotMetadata) : SealedFields :=
  ⟨metadata.groupId, metadata.epoch, metadata.stateVersion,
    metadata.snapshotHash⟩

def Supported (metadata : MlsSnapshotMetadata) : Prop :=
  metadata.appSchema = mlsSnapshotAppSchema ∧
  metadata.openmlsVersion = mlsSnapshotOpenmlsVersion ∧
  metadata.ciphersuite = suite

/-- The envelope in front of the payload. -/
def layout (metadata : MlsSnapshotMetadata) : Bytes :=
  (if metadata.stateVersion.isSome then mlsSnapshotV2Header
    else mlsSnapshotHeader) ++
  bigEndian 2 metadata.appSchema ++
  writeBlob metadata.openmlsVersion ++
  writeBlob metadata.ciphersuite ++
  writeBlob metadata.groupId ++
  bigEndian 8 metadata.epoch ++
  metadata.stateVersion.elim [] (bigEndian 8) ++
  metadata.snapshotHash

end MlsSnapshotMetadata

def takeMetadata : Reader String MlsSnapshotMetadata := do
  let isV2 ← takeHeader
  let appSchema ← takeNumber "invalid MLS app schema" 2
  let openmlsVersion ← takeBlob
  let ciphersuite ← takeBlob
  let fields ← takeSealedFields isV2 "invalid MLS state version"
  return ⟨appSchema, openmlsVersion, ciphersuite, fields.groupId, fields.epoch,
    fields.stateVersion, fields.checksum⟩

def takeSealed {α : Type} (fields : Reader String α) :
    Reader String (α × Bytes) := do
  let head ← fields
  let payload ← takeBlob
  return (head, payload)

def openSealed
    (M : OpenMls) {α β : Type} (fields : Reader String α) (checksum : α → Bytes)
    (mismatch : String) (restore : α → Bytes → Outcome String β)
    (snapshot : Bytes) : Outcome String β :=
  match takeSealed fields snapshot with
  | (.err error, _) => .err error
  | (.crash, _) => .crash
  | (.ok (head, payload), input) =>
    if input ≠ [] ∨ M.sha256 payload ≠ checksum head then .err mismatch
    else restore head payload

namespace DirectConversation

def parseSnapshotMetadata (M : OpenMls) :
    Bytes → Outcome String MlsSnapshotMetadata :=
  openSealed M takeMetadata (·.snapshotHash)
    "MLS snapshot metadata checksum mismatch" fun metadata _ => .ok metadata

def takePayload (M : OpenMls) : Reader String (DirectConversation M) := do
  if (← take 6) ≠ utf8 "TCMLS1" then
    Program.fail "invalid MLS snapshot header"
  let signerPublic ← takeBlob
  let groupId ← takeBlob
  let count ← takeNumber "invalid MLS snapshot count" 4
  let storage : MlsStore ← Reader.times (fun storage => do
    return storage.insert (← takeBlob) (← takeBlob)) count .empty
  match M.readSigner storage signerPublic with
  | none => Program.fail "MLS signer missing from snapshot"
  | some signer =>
    match M.load storage groupId with
    | .error error => Program.fail ("load MLS group: " ++ error)
    | .ok none => Program.fail "MLS group missing from snapshot"
    | .ok (some group) => return ⟨storage, signer, group⟩

/-- Bytes behind the last entry are not looked at. -/
def restorePayload (M : OpenMls) (snapshot : Bytes) :
    Outcome String (DirectConversation M) :=
  (takePayload M snapshot).1

def restoreCurrent (M : OpenMls) :
    Bytes → Outcome String (DirectConversation M) :=
  openSealed M takeRestoredFields (·.checksum)
    "MLS snapshot checksum or trailing data mismatch" fun fields payload =>
      (restorePayload M payload).andThen fun conversation =>
        if M.groupId conversation.group ≠ fields.groupId ∨
            (M.epoch conversation.group).toNat ≠ fields.epoch then
          .err "MLS snapshot envelope metadata mismatch"
        else
          .ok conversation

def restore (M : OpenMls) : Bytes → Outcome String (DirectConversation M) :=
  restoreCurrent M

def migrateV1ToV2 (M : OpenMls) (snapshot : Bytes) (nextStateVersion : UInt64) :
    Outcome String Bytes :=
  if !mlsSnapshotHeader.isPrefixOf snapshot then
    .err "expected MLS snapshot V1"
  else
    (restoreCurrent M snapshot).andThen fun conversation =>
      .ok (conversation.snapshotV2 nextStateVersion)

end DirectConversation

/-! ## What is rejected -/

instance take_careful (length : Nat) : (take length).Careful :=
  Reader.take_careful _ _

instance : (takeNumber malformed width).Careful :=
  number_careful _ _ _

instance : takeBlob.Careful := blob_careful _ _ _

instance : takeHeader.Careful := by
  simp only [takeHeader, fail_bind]
  infer_instance

instance : (takeSealedFields isV2 malformed).Careful := by
  unfold takeSealedFields takeStateVersion
  infer_instance

instance : takeRestoredFields.Careful := by
  simp only [takeRestoredFields, fail_bind]
  infer_instance

instance : takeMetadata.Careful := by
  unfold takeMetadata
  infer_instance

def Rejected {α : Type} (outcome : Outcome String α) : Prop :=
  ∃ error, outcome = .err error

section

variable {fields : Reader String α} {restore : α → Bytes → Outcome String β}

instance takeSealed_careful (fields : Reader String α) [fields.Careful] :
    (takeSealed fields).Careful := by
  unfold takeSealed
  infer_instance

theorem openSealed_calm [careful : fields.Careful]
    (calm : ∀ head payload, restore head payload ≠ .crash) (snapshot : Bytes) :
    openSealed M fields checksum mismatch restore snapshot ≠ .crash := by
  unfold openSealed
  split
  · exact nofun
  · rename_i crashed
    intro _
    refine (takeSealed_careful fields).calm snapshot ?_
    rw [crashed]
  · split
    · exact nofun
    · exact calm _ _

theorem openSealed_ok :
    openSealed M fields checksum mismatch restore snapshot = .ok value ↔
      ∃ head payload, takeSealed fields snapshot = (.ok (head, payload), []) ∧
        M.sha256 payload = checksum head ∧
        restore head payload = .ok value := by
  unfold openSealed
  rcases takeSealed fields snapshot with ⟨_ | _ | _, input⟩
  · rename_i sealed
    obtain ⟨head, payload⟩ := sealed
    simp only
    split
    · rename_i mismatched
      refine ⟨nofun, fun ⟨_, _, ran, same, _⟩ => ?_⟩
      cases ran
      exact (mismatched.elim (· rfl) (· same)).elim
    · rename_i matched
      obtain ⟨ended, same⟩ := not_or.mp matched
      obtain rfl := not_not.mp ended
      refine ⟨fun restored =>
        ⟨head, payload, rfl, not_not.mp same, restored⟩, ?_⟩
      rintro ⟨_, _, ran, _, restored⟩
      cases ran
      exact restored
  · exact ⟨nofun, fun ⟨_, _, ran, _⟩ => nomatch ran⟩
  · exact ⟨nofun, fun ⟨_, _, ran, _⟩ => nomatch ran⟩

theorem takeSealed_ok :
    takeSealed fields input = (.ok (head, payload), rest) ↔
      ∃ middle, fields input = (.ok head, middle) ∧
        takeBlob middle = (.ok payload, rest) := by
  constructor
  · intro ran
    obtain ⟨found, next, began, ran⟩ := bind_ok ran
    obtain ⟨read, last, blob, ended⟩ := bind_ok ran
    cases ended
    exact ⟨next, began, blob⟩
  · rintro ⟨middle, began, blob⟩
    rw [takeSealed, run_bind_ok began]
    exact (run_bind_ok blob).trans rfl

theorem takeSealed_altered [careful : fields.Careful]
    (ran : takeSealed fields snapshot = (.ok (head, payload), rest)) :
    ∃ front, snapshot = front ++ payload ++ rest ∧
      ∀ changed others, changed.length = payload.length →
        takeSealed fields (front ++ changed ++ others) =
          (.ok (head, changed), others) := by
  obtain ⟨middle, began, blob⟩ := takeSealed_ok.mp ran
  obtain ⟨early, rfl, takes⟩ := careful.takes began
  obtain ⟨late, rfl, altered⟩ := blob_altered blob
  refine ⟨early ++ late, by simp, fun changed others same => ?_⟩
  have split : early ++ late ++ changed ++ others =
      early ++ (late ++ changed ++ others) := by simp
  rw [split]
  exact takeSealed_ok.mpr ⟨_, takes.full _, altered changed others same⟩

def payloadOf (snapshot : Bytes) : Option Bytes :=
  match takeSealed takeMetadata snapshot with
  | (.ok (_, payload), _) => some payload
  | _ => none

theorem payloadOf_takeSealed
    (common : ∀ {input head rest}, fields input = (.ok head, rest) →
      ∃ metadata, takeMetadata input = (.ok metadata, rest))
    (ran : takeSealed fields snapshot = (.ok (head, payload), rest)) :
    payloadOf snapshot = some payload := by
  obtain ⟨middle, began, blob⟩ := takeSealed_ok.mp ran
  obtain ⟨metadata, taken⟩ := common began
  rw [payloadOf, takeSealed_ok.mpr ⟨middle, taken, blob⟩]

theorem takeSealedFields_malformed (first second : String) :
    takeSealedFields isV2 first = takeSealedFields isV2 second := by
  have same : takeNumber first 8 = takeNumber second 8 := by
    funext input
    rw [takeNumber, takeNumber, run_number, run_number]
  rw [takeSealedFields, takeSealedFields, takeStateVersion, takeStateVersion,
    same]

theorem takeRestoredFields_ok_iff :
    takeRestoredFields input = (.ok head, rest) ↔
      ∃ metadata, takeMetadata input = (.ok metadata, rest) ∧
        metadata.Supported ∧ metadata.fields = head := by
  simp only [takeRestoredFields, fail_bind]
  constructor
  · intro ran
    obtain ⟨isV2, first, header, ran⟩ := bind_ok ran
    obtain ⟨schema, second, numbered, ran⟩ := bind_ok ran
    split at ran
    · cases ran
    rename_i known
    obtain ⟨openmls, third, versioned, ran⟩ := bind_ok ran
    split at ran
    · cases ran
    rename_i version
    obtain ⟨ciphersuite, fourth, suited, ran⟩ := bind_ok ran
    split at ran
    · cases ran
    rename_i supported
    rw [takeMetadata, run_bind_ok header, run_bind_ok numbered,
      run_bind_ok versioned, run_bind_ok suited]
    rw [takeSealedFields_malformed _ "invalid MLS state version"] at ran
    exact ⟨_, (run_bind_ok ran).trans rfl,
      ⟨not_not.mp known, not_not.mp version, not_not.mp supported⟩, rfl⟩
  · rintro ⟨metadata, ran, supported, rfl⟩
    obtain ⟨isV2, first, header, ran⟩ := bind_ok ran
    obtain ⟨schema, second, numbered, ran⟩ := bind_ok ran
    obtain ⟨openmls, third, versioned, ran⟩ := bind_ok ran
    obtain ⟨ciphersuite, fourth, suited, ran⟩ := bind_ok ran
    obtain ⟨fields, fifth, sealed, ended⟩ := bind_ok ran
    cases ended
    obtain ⟨known, version, named⟩ := supported
    rw [run_bind_ok header, run_bind_ok numbered, if_neg (not_not.mpr known),
      run_bind_ok versioned, if_neg (not_not.mpr version), run_bind_ok suited,
      if_neg (not_not.mpr named), takeSealedFields_malformed, sealed]
    rfl

theorem takeMetadata_of_restored
    (ran : takeRestoredFields input = (.ok head, rest)) :
    ∃ metadata, takeMetadata input = (.ok metadata, rest) := by
  obtain ⟨metadata, taken, _⟩ := takeRestoredFields_ok_iff.mp ran
  exact ⟨metadata, taken⟩

/-- A snapshot is not accepted with bytes missing, with bytes behind it, or with
another payload, as long as the hash tells the payloads apart. -/
structure Guarded (hashed : Set Bytes) (accept : Bytes → Outcome String β)
    (snapshot : Bytes) : Prop where
  truncated : ∀ front, front <+: snapshot → front ≠ snapshot →
    Rejected (accept front)
  extended : ∀ extra, extra ≠ [] → Rejected (accept (snapshot ++ extra))
  altered : ∀ front payload changed, payloadOf snapshot = some payload →
    snapshot = front ++ payload → payload ∈ hashed → changed ∈ hashed →
    changed.length = payload.length → changed ≠ payload →
    Rejected (accept (front ++ changed))

theorem openSealed_guarded
    [careful : fields.Careful] (collisionFree : Set.InjOn M.sha256 hashed)
    (common : ∀ {input head rest}, fields input = (.ok head, rest) →
      ∃ metadata, takeMetadata input = (.ok metadata, rest))
    (accepted : openSealed M fields checksum mismatch restore snapshot =
      .ok value) :
    Guarded hashed (openSealed M fields checksum mismatch restore)
      snapshot := by
  obtain ⟨head, payload, ran, sum, _⟩ := openSealed_ok.mp accepted
  obtain ⟨taken, whole, takes⟩ := (takeSealed_careful fields).takes ran
  rw [List.append_nil] at whole
  subst whole
  refine ⟨fun front shorter differs => ?_, fun extra more => ?_, ?_⟩
  · obtain ⟨error, left, failed⟩ := takes.short front shorter differs
    exact ⟨error, by rw [openSealed, failed]⟩
  · exact ⟨mismatch, by rw [openSealed, takes.full]; exact if_pos (.inl more)⟩
  · intro front other changed known whole held holds same differs
    rw [payloadOf_takeSealed common ran] at known
    cases known
    obtain ⟨early, split, altered⟩ := takeSealed_altered ran
    rw [List.append_nil, whole] at split
    obtain rfl := List.append_cancel_right split
    have again := altered changed [] same
    rw [List.append_nil] at again
    refine ⟨mismatch, ?_⟩
    rw [openSealed, again]
    refine if_pos (.inr fun sums => differs ?_)
    exact collisionFree holds held (sums.trans sum.symm)

end

/-! ## What is restored -/

namespace MlsStore

theorem ofEntries_same
    (perm : entries.Perm store.entries) : (ofEntries entries).Same store := by
  have distinct : (entries.map Prod.fst).Nodup :=
    (perm.map Prod.fst).nodup_iff.mpr store.distinct
  intro key
  apply Option.ext
  intro value
  rw [ofEntries, Table.lookup_foldl_insert distinct, perm.mem_iff,
    ← Table.lookup_eq_some_iff, Table.lookup_empty]
  simp

theorem Same.perm {left : MlsStore} (same : left.Same right) :
    left.entries.Perm right.entries := by
  have nodup : ∀ store : MlsStore, store.entries.Nodup := fun store =>
    store.distinct.of_map
  refine (List.perm_ext_iff_of_nodup (nodup left) (nodup right)).mpr ?_
  rintro ⟨key, value⟩
  rw [← Table.lookup_eq_some_iff, ← Table.lookup_eq_some_iff, same key]

end MlsStore

theorem takeBlob_takes (fits : bytes.length < 2 ^ 32) :
    takeBlob.Takes bytes (writeBlob bytes) :=
  blob_takes _ _ fits

theorem takeSealed_takes (takes : fields.Takes head front)
    (blob : takeBlob.Takes payload (writeBlob payload)) :
    (takeSealed fields).Takes (head, payload) (front ++ writeBlob payload) :=
  takes.bind (blob.ends (.pure (head, payload)))

namespace DirectConversation

variable {conversation : DirectConversation M}

structure Saved (conversation : DirectConversation M) : Prop where
  signer : M.readSigner conversation.storage
    (M.toPublicVec conversation.signer) = some conversation.signer
  group : M.load conversation.storage (M.groupId conversation.group) =
    .ok (some conversation.group)

def blobs (conversation : DirectConversation M) : List Bytes :=
  [mlsSnapshotOpenmlsVersion, suite, M.groupId conversation.group,
    M.toPublicVec conversation.signer, conversation.snapshotPayload] ++
  conversation.storage.keys ++ conversation.storage.values

def Fits (conversation : DirectConversation M) : Prop :=
  ∀ blob ∈ conversation.blobs, blob.length < 2 ^ 32

def restored (conversation : DirectConversation M) : DirectConversation M :=
  { conversation with storage := .ofEntries (M.order conversation.storage) }

theorem restored_storage (conversation : DirectConversation M) :
    conversation.restored.storage.Same conversation.storage :=
  MlsStore.ofEntries_same (M.order_perm _)

theorem Saved.restored (saved : conversation.Saved) :
    conversation.restored.Saved := by
  refine ⟨?_, ?_⟩
  · rw [M.readSigner_same conversation.restored_storage]
    exact saved.signer
  · rw [M.load_same conversation.restored_storage]
    exact saved.group

theorem writeEntry_length (entry : Bytes × Bytes) :
    8 ≤ (writeEntry entry).length := by
  simp [writeEntry, writeBlob, lengthPrefixed]
  omega

theorem Fits.entry (fits : conversation.Fits) {entry : Bytes × Bytes}
    (member : entry ∈ M.order conversation.storage) :
    entry.1.length < 2 ^ 32 ∧ entry.2.length < 2 ^ 32 := by
  have stored := (M.order_perm _).mem_iff.mp member
  refine ⟨fits _ ?_, fits _ ?_⟩
  · exact List.mem_append_left _ (List.mem_append_right _
      (List.mem_map_of_mem stored))
  · exact List.mem_append_right _ (List.mem_map_of_mem stored)

theorem Fits.count (fits : conversation.Fits) :
    conversation.storage.size < 2 ^ 32 := by
  have whole : conversation.snapshotPayload.length < 2 ^ 32 :=
    fits _ (by simp [blobs])
  have entries : (M.order conversation.storage).length ≤
      ((M.order conversation.storage).flatMap writeEntry).length := by
    have most := List.length_le_sum_of_one_le
      ((M.order conversation.storage).map fun entry =>
        (writeEntry entry).length) fun length member => by
          obtain ⟨entry, _, rfl⟩ := List.mem_map.mp member
          exact Nat.le_trans (by decide) (writeEntry_length entry)
    rwa [List.length_map, ← List.length_flatMap] at most
  have same : (M.order conversation.storage).length =
      conversation.storage.size := (M.order_perm _).length_eq
  rw [snapshotPayload] at whole
  simp only [List.length_append] at whole
  omega

theorem restored_payload_length (conversation : DirectConversation M) :
    conversation.restored.snapshotPayload.length =
      conversation.snapshotPayload.length := by
  have entries := conversation.restored_storage.perm
  have written : ((M.order conversation.restored.storage).flatMap
      writeEntry).Perm ((M.order conversation.storage).flatMap writeEntry) :=
    (((M.order_perm _).trans entries).trans (M.order_perm _).symm).flatMap_right
      writeEntry
  simp only [snapshotPayload, List.length_append, length_bigEndian,
    written.length_eq]
  rfl

theorem Fits.restored (fits : conversation.Fits) :
    conversation.restored.Fits := by
  have entries := conversation.restored_storage.perm
  intro blob member
  rcases List.mem_append.mp member with early | value
  · rcases List.mem_append.mp early with fixed | key
    · simp only [List.mem_cons, List.not_mem_nil, or_false] at fixed
      rcases fixed with rfl | rfl | rfl | rfl | rfl
      · exact fits _ (by simp [blobs])
      · exact fits _ (by simp [blobs])
      · exact fits (M.groupId conversation.group) (by simp [blobs])
      · exact fits (M.toPublicVec conversation.signer) (by simp [blobs])
      · rw [restored_payload_length]
        exact fits _ (by simp [blobs])
    · refine fits blob (List.mem_append_left _ (List.mem_append_right _ ?_))
      exact (entries.map Prod.fst).mem_iff.mp key
  · refine fits blob (List.mem_append_right _ ?_)
    exact (entries.map Prod.snd).mem_iff.mp value

theorem takePayload_takes
    (saved : conversation.Saved) (fits : conversation.Fits) :
    (takePayload M).Takes conversation.restored
      conversation.snapshotPayload := by
  have header := take_takes "truncated MLS snapshot" (utf8 "TCMLS1")
  have signer := takeBlob_takes (fits (M.toPublicVec conversation.signer)
    (by simp [blobs]))
  have group := takeBlob_takes (fits (M.groupId conversation.group)
    (by simp [blobs]))
  have count : (takeNumber "invalid MLS snapshot count" 4).Takes
      conversation.storage.size (bigEndian 4 conversation.storage.size) :=
    number_takes _ _ fits.count
  have entry : ∀ entry ∈ M.order conversation.storage, ∀ storage : MlsStore,
      (do return storage.insert (← takeBlob) (← takeBlob) :
        Reader String MlsStore).Takes (storage.insert entry.1 entry.2)
          (writeEntry entry) := by
    intro entry member storage
    obtain ⟨key, value⟩ := fits.entry member
    exact (takeBlob_takes key).bind ((takeBlob_takes value).ends (.pure _))
  have entries := times_takes entry .empty
  rw [(M.order_perm _).length_eq] at entries
  simp only [snapshotPayload, List.append_assoc]
  refine header.bind ?_
  refine signer.bind (group.bind (count.bind (entries.ends ?_)))
  have read : M.readSigner ((M.order conversation.storage).foldl
      (fun storage entry => storage.insert entry.1 entry.2) .empty)
      (M.toPublicVec conversation.signer) = some conversation.signer :=
    saved.restored.signer
  have loaded : M.load ((M.order conversation.storage).foldl
      (fun storage entry => storage.insert entry.1 entry.2) .empty)
      (M.groupId conversation.group) = .ok (some conversation.group) :=
    saved.restored.group
  simp only [read, loaded]
  exact .pure _

def versionBytes (version : Option UInt64) : Bytes :=
  version.elim [] fun number => bigEndian 8 number.toNat

def versionHeader (version : Option UInt64) : Bytes :=
  if version.isSome then mlsSnapshotV2Header else mlsSnapshotHeader

theorem takeHeader_takes (version : Option UInt64) :
    takeHeader.Takes version.isSome (versionHeader version) := by
  have length : (versionHeader version).length = 6 := by
    cases version <;> rfl
  have header := take_takes "truncated MLS snapshot" (versionHeader version)
  rw [length] at header
  refine header.ends ?_
  cases version with
  | none =>
    rw [if_neg fun neither => neither.1 rfl]
    exact .pure _
  | some number =>
    exact .pure _

theorem takeNumber_takes (malformed : String) (number : UInt64) :
    (takeNumber malformed 8).Takes number.toNat (bigEndian 8 number.toNat) :=
  number_takes _ _ number.toNat_lt

section

variable (version : Option UInt64)

theorem takeStateVersion_takes (malformed : String) :
    (takeStateVersion version.isSome malformed).Takes
      (version.map UInt64.toNat) (versionBytes version) := by
  cases version with
  | none => exact .pure none
  | some number => exact (takeNumber_takes malformed number).ends (.pure _)

theorem takeRestoredFields_takes (fits : conversation.Fits) :
    takeRestoredFields.Takes
      ⟨M.groupId conversation.group, (M.epoch conversation.group).toNat,
        version.map UInt64.toNat, M.sha256 conversation.snapshotPayload⟩
      (versionHeader version ++ (bigEndian 2 mlsSnapshotAppSchema ++
        (writeBlob mlsSnapshotOpenmlsVersion ++ (writeBlob suite ++
          (writeBlob (M.groupId conversation.group) ++
            (bigEndian 8 (M.epoch conversation.group).toNat ++
              (versionBytes version ++
                M.sha256 conversation.snapshotPayload))))))) := by
  have schema : (takeNumber "invalid MLS app schema" 2).Takes
      mlsSnapshotAppSchema (bigEndian 2 mlsSnapshotAppSchema) :=
    number_takes _ _ (by decide)
  have openmls := takeBlob_takes (fits mlsSnapshotOpenmlsVersion
    (by simp [blobs]))
  have ciphersuite := takeBlob_takes (fits suite (by simp [blobs]))
  have group := takeBlob_takes (fits (M.groupId conversation.group)
    (by simp [blobs]))
  have checksum := take_takes "truncated MLS snapshot"
    (M.sha256 conversation.snapshotPayload)
  rw [M.length_sha256] at checksum
  refine (takeHeader_takes version).bind (schema.bind ?_)
  refine openmls.bind ?_
  refine ciphersuite.bind ?_
  rw [if_neg (not_not.mpr rfl)]
  exact group.bind ((takeNumber_takes _ _).bind
    ((takeStateVersion_takes version _).bind (checksum.ends (.pure _))))

theorem envelope_eq :
    conversation.envelope (versionHeader version) (versionBytes version) =
      (versionHeader version ++ (bigEndian 2 mlsSnapshotAppSchema ++
        (writeBlob mlsSnapshotOpenmlsVersion ++ (writeBlob suite ++
          (writeBlob (M.groupId conversation.group) ++
            (bigEndian 8 (M.epoch conversation.group).toNat ++
              (versionBytes version ++
                M.sha256 conversation.snapshotPayload))))))) ++
      writeBlob conversation.snapshotPayload := by
  simp only [envelope, List.append_assoc]

theorem restoreCurrent_envelope (saved : conversation.Saved)
    (fits : conversation.Fits) :
    restoreCurrent M
        (conversation.envelope (versionHeader version) (versionBytes version)) =
      .ok conversation.restored := by
  have payload := takeBlob_takes (fits conversation.snapshotPayload
    (by simp [blobs]))
  have read :=
    (takeSealed_takes (takeRestoredFields_takes version fits) payload).full []
  rw [List.append_nil, ← envelope_eq] at read
  have given := (takePayload_takes saved fits).full []
  rw [List.append_nil] at given
  refine openSealed_ok.mpr ⟨_, _, read, rfl, ?_⟩
  rw [restorePayload, given]
  exact if_neg (not_or.mpr ⟨not_not.mpr rfl, not_not.mpr rfl⟩)

end

theorem restoreCurrent_snapshotCurrent
    (saved : conversation.Saved) (fits : conversation.Fits) :
    restoreCurrent M conversation.snapshotCurrent = .ok conversation.restored :=
  restoreCurrent_envelope none saved fits

theorem restoreCurrent_snapshotV2
    (version : UInt64) (saved : conversation.Saved) (fits : conversation.Fits) :
    restoreCurrent M (conversation.snapshotV2 version) =
      .ok conversation.restored :=
  restoreCurrent_envelope (some version) saved fits

instance takePayload_careful : (takePayload M).Careful := by
  simp only [takePayload, fail_bind]
  refine .bind inferInstance fun header => ?_
  split
  · infer_instance
  · refine .bind inferInstance fun signerPublic => .bind inferInstance
      fun groupId => .bind inferInstance fun count => .bind inferInstance
        fun storage => ?_
    split
    · infer_instance
    · split
      · infer_instance
      · infer_instance
      · infer_instance

theorem restoreCurrent_calm (snapshot : Bytes) :
    restoreCurrent M snapshot ≠ .crash := by
  refine openSealed_calm (fun fields payload crashed => ?_) snapshot
  rcases read : restorePayload M payload with conversation | error | _
  · rw [read, Outcome.andThen] at crashed
    split at crashed
    · cases crashed
    · cases crashed
  · rw [read] at crashed
    cases crashed
  · exact takePayload_careful.calm payload read

theorem parseSnapshotMetadata_calm (snapshot : Bytes) :
    parseSnapshotMetadata M snapshot ≠ .crash := by
  refine openSealed_calm (fun metadata payload crashed => ?_) snapshot
  cases crashed

def Recovers (outcome : Outcome String (DirectConversation M))
    (conversation : DirectConversation M) : Prop :=
  ∃ restored, outcome = .ok restored ∧
    restored.signer = conversation.signer ∧
    M.groupId restored.group = M.groupId conversation.group ∧
    M.epoch restored.group = M.epoch conversation.group ∧
    restored.storage.Same conversation.storage

theorem recovers_restored (conversation : DirectConversation M) :
    Recovers (.ok conversation.restored) conversation :=
  ⟨_, rfl, rfl, rfl, rfl, conversation.restored_storage⟩

theorem Recovers.trans (one : Recovers outcome first)
    (two : Recovers (.ok first) second) : Recovers outcome second := by
  obtain ⟨restored, ended, signer, group, epoch, storage⟩ := one
  obtain ⟨_, same, signer', group', epoch', storage'⟩ := two
  cases same
  exact ⟨restored, ended, signer.trans signer', group.trans group',
    epoch.trans epoch', fun key => (storage key).trans (storage' key)⟩

theorem migrateV1ToV2_snapshotCurrent
    (version : UInt64) (saved : conversation.Saved) (fits : conversation.Fits) :
    migrateV1ToV2 M conversation.snapshotCurrent version =
      .ok (conversation.restored.snapshotV2 version) := by
  have headed : mlsSnapshotHeader.isPrefixOf conversation.snapshotCurrent =
      true := by
    rw [List.isPrefixOf_iff_prefix, snapshotCurrent, envelope]
    exact List.prefix_append ..
  rw [migrateV1ToV2, headed, restoreCurrent_snapshotCurrent saved fits]
  rfl

theorem snapshotV2_headed
    (version : UInt64) (conversation : DirectConversation M) :
    mlsSnapshotV2Header.isPrefixOf (conversation.snapshotV2 version) =
      true := by
  rw [List.isPrefixOf_iff_prefix, snapshotV2, envelope]
  exact List.prefix_append ..

/-- Snapshots of both versions and migrated ones, which are of the second, give
the conversation back; no input takes the readers down; and neither reader
accepts a damaged snapshot. -/
theorem snapshots_restore_and_reject_damage
    {hashed : Set Bytes} (collisionFree : Set.InjOn M.sha256 hashed) :
    (∀ (conversation : DirectConversation M) (version : UInt64),
      conversation.Saved → conversation.Fits →
      Recovers (restore M conversation.snapshotCurrent) conversation ∧
      Recovers (restore M (conversation.snapshotV2 version)) conversation ∧
      ∃ migrated, migrateV1ToV2 M conversation.snapshotCurrent version =
          .ok migrated ∧
        mlsSnapshotV2Header.isPrefixOf migrated = true ∧
        Recovers (restore M migrated) conversation) ∧
    (∀ bytes, restore M bytes ≠ .crash ∧
      parseSnapshotMetadata M bytes ≠ .crash) ∧
    (∀ snapshot conversation, restore M snapshot = .ok conversation →
      Guarded hashed (restore M) snapshot) ∧
    ∀ snapshot metadata, parseSnapshotMetadata M snapshot = .ok metadata →
      Guarded hashed (parseSnapshotMetadata M) snapshot := by
  refine ⟨fun conversation version saved fits => ?_, fun bytes => ?_,
    fun snapshot conversation accepted => ?_,
    fun snapshot metadata accepted => ?_⟩
  · unfold restore
    refine ⟨?_, ?_, conversation.restored.snapshotV2 version, ?_,
      snapshotV2_headed version _, ?_⟩
    · rw [restoreCurrent_snapshotCurrent saved fits]
      exact recovers_restored conversation
    · rw [restoreCurrent_snapshotV2 version saved fits]
      exact recovers_restored conversation
    · exact migrateV1ToV2_snapshotCurrent version saved fits
    · rw [restoreCurrent_snapshotV2 version saved.restored fits.restored]
      exact (recovers_restored conversation.restored).trans
        (recovers_restored conversation)
  · exact ⟨restoreCurrent_calm bytes, parseSnapshotMetadata_calm bytes⟩
  · exact openSealed_guarded collisionFree takeMetadata_of_restored accepted
  · exact openSealed_guarded collisionFree (fun taken => ⟨_, taken⟩) accepted

def plainMls : OpenMls where
  Signer := Bytes
  Group := Bytes × UInt64
  toPublicVec := id
  readSigner store key := (store.lookup key).map fun _ => key
  groupId := Prod.fst
  epoch := Prod.snd
  load store groupId := .ok ((store.lookup groupId).map fun state =>
    (groupId, UInt64.ofNat state.length))
  sha256 bytes := bigEndian 32 (ofBigEndian bytes)
  order := Table.entries
  readSigner_same same := by
    funext key
    rw [same key]
  load_same same := by
    funext groupId
    rw [same groupId]
  length_sha256 _ := length_bigEndian 32 _
  order_perm _ := .refl _

def plainConversation : DirectConversation plainMls where
  storage := .ofEntries [([1], [9]), ([2], [7, 7, 7])]
  signer := ([1] : Bytes)
  group := (([2] : Bytes), (3 : UInt64))

theorem plainConversation_fits : plainConversation.Fits := by
  unfold Fits
  decide +kernel

def plainPayloads : Set Bytes :=
  {plainConversation.snapshotPayload,
    plainConversation.snapshotPayload.dropLast ++ [8]}

theorem plain_snapshot_restores :
    Recovers (restore plainMls plainConversation.snapshotCurrent)
        plainConversation ∧
      Recovers (restore plainMls (plainConversation.snapshotV2 5))
        plainConversation ∧
      Guarded plainPayloads (restore plainMls)
        (plainConversation.snapshotV2 5) := by
  have collisionFree : Set.InjOn plainMls.sha256 plainPayloads := by
    refine Set.injOn_pair.mpr fun same => absurd same ?_
    decide +kernel
  have saved : plainConversation.Saved := ⟨rfl, rfl⟩
  have fits := plainConversation_fits
  obtain ⟨restores, _, guards, _⟩ :=
    snapshots_restore_and_reject_damage collisionFree
  obtain ⟨current, second, _⟩ := restores plainConversation 5 saved fits
  obtain ⟨conversation, restored, same⟩ := second
  exact ⟨current, ⟨conversation, restored, same⟩, guards _ _ restored⟩

end DirectConversation

theorem takeHeader_ok (ran : takeHeader input = (.ok isV2, rest)) :
    input = (if isV2 then mlsSnapshotV2Header else mlsSnapshotHeader) ++
      rest := by
  obtain ⟨header, next, taken, followed⟩ := bind_ok ran
  rw [(Reader.take_ok taken).1]
  split at followed
  · cases followed
  · rename_i known
    cases followed
    by_cases second : header = mlsSnapshotV2Header
    · simp [second]
    · rw [not_and_not_right] at known
      have first : header = mlsSnapshotHeader := by
        by_contra first
        exact second (known first)
      subst first
      rfl

theorem takeStateVersion_ok
    (ran : takeStateVersion isV2 malformed input = (.ok version, rest)) :
    isV2 = version.isSome ∧ input = version.elim [] (bigEndian 8) ++ rest := by
  cases isV2 with
  | false =>
    cases ran
    exact ⟨rfl, rfl⟩
  | true =>
    obtain ⟨number, next, taken, ended⟩ := bind_ok ran
    cases ended
    exact ⟨rfl, number_ok taken⟩

theorem takeMetadata_ok (ran : takeMetadata input = (.ok metadata, rest)) :
    input = metadata.layout ++ rest := by
  obtain ⟨isV2, _, header, ran⟩ := bind_ok ran
  obtain ⟨schema, _, numbered, ran⟩ := bind_ok ran
  obtain ⟨openmls, _, versioned, ran⟩ := bind_ok ran
  obtain ⟨ciphersuite, _, suited, ran⟩ := bind_ok ran
  obtain ⟨fields, _, sealed, ended⟩ := bind_ok ran
  cases ended
  obtain ⟨groupId, _, grouped, sealed⟩ := bind_ok sealed
  obtain ⟨epoch, _, timed, sealed⟩ := bind_ok sealed
  obtain ⟨version, _, counted, sealed⟩ := bind_ok sealed
  obtain ⟨checksum, _, summed, ended⟩ := bind_ok sealed
  cases ended
  obtain ⟨marked, counted⟩ := takeStateVersion_ok counted
  rw [takeHeader_ok header, number_ok numbered, blob_ok versioned,
    blob_ok suited, blob_ok grouped, number_ok timed,
    counted, (Reader.take_ok summed).1, marked]
  simp only [MlsSnapshotMetadata.layout, writeBlob, List.append_assoc]

theorem takeSealed_metadata
    (ran : takeSealed takeMetadata snapshot = (.ok (metadata, payload), rest)) :
    snapshot = metadata.layout ++ writeBlob payload ++ rest := by
  obtain ⟨middle, taken, blob⟩ := takeSealed_ok.mp ran
  rw [takeMetadata_ok taken, blob_ok blob, List.append_assoc, writeBlob]

namespace DirectConversation

/-- The readers walk the same fields: what is restored has metadata, and where
metadata is found only what they say, or the payload, can be refused. -/
theorem snapshot_metadata_agrees_with_restoration
    (M : OpenMls) (snapshot : Bytes) :
    (∀ conversation, restore M snapshot = .ok conversation →
      ∃ metadata payload, parseSnapshotMetadata M snapshot = .ok metadata ∧
        snapshot = metadata.layout ++ writeBlob payload ∧
        restorePayload M payload = .ok conversation ∧
        metadata.groupId = M.groupId conversation.group ∧
        metadata.epoch = (M.epoch conversation.group).toNat ∧
        metadata.snapshotHash = M.sha256 payload) ∧
    ∀ metadata, parseSnapshotMetadata M snapshot = .ok metadata →
      (∀ conversation, restore M snapshot ≠ .ok conversation) →
      ∃ payload, snapshot = metadata.layout ++ writeBlob payload ∧
        (¬ metadata.Supported ∨ Rejected (restorePayload M payload) ∨
          ∃ conversation, restorePayload M payload = .ok conversation ∧
            (M.groupId conversation.group ≠ metadata.groupId ∨
              (M.epoch conversation.group).toNat ≠ metadata.epoch)) := by
  refine ⟨fun conversation restored => ?_, fun metadata parsed refused => ?_⟩
  · obtain ⟨fields, payload, ran, sum, restored⟩ := openSealed_ok.mp restored
    obtain ⟨middle, taken, blob⟩ := takeSealed_ok.mp ran
    obtain ⟨metadata, read, _, rfl⟩ := takeRestoredFields_ok_iff.mp taken
    have whole := takeSealed_ok.mpr ⟨middle, read, blob⟩
    have layout := takeSealed_metadata whole
    rw [List.append_nil] at layout
    obtain ⟨found, loaded, agreed⟩ := Outcome.andThen_eq_ok.mp restored
    split at agreed
    · cases agreed
    · rename_i same
      cases agreed
      rw [not_or, not_not, not_not] at same
      exact ⟨metadata, payload,
        openSealed_ok.mpr ⟨metadata, payload, whole, sum, rfl⟩, layout,
        loaded, same.1.symm, same.2.symm, sum.symm⟩
  · obtain ⟨found, payload, ran, sum, same⟩ := openSealed_ok.mp parsed
    cases same
    have layout := takeSealed_metadata ran
    rw [List.append_nil] at layout
    refine ⟨payload, layout, ?_⟩
    by_contra others
    simp only [not_or, not_not, not_exists, not_and] at others
    obtain ⟨supported, unrefused, agreeing⟩ := others
    obtain ⟨middle, taken, blob⟩ := takeSealed_ok.mp ran
    rcases loaded : restorePayload M payload with conversation | error | _
    · obtain ⟨group, epoch⟩ := agreeing conversation loaded
      refine refused conversation (openSealed_ok.mpr
        ⟨metadata.fields, payload, takeSealed_ok.mpr ⟨middle, ?_, blob⟩, sum, ?_⟩)
      · exact takeRestoredFields_ok_iff.mpr ⟨metadata, taken, supported, rfl⟩
      · rw [loaded, Outcome.andThen, if_neg]
        exact not_or.mpr ⟨not_not.mpr group, not_not.mpr epoch⟩
    · exact unrefused ⟨error, loaded⟩
    · exact takePayload_careful.calm payload loaded

/-- The payload is at epoch 3. -/
def misdatedMetadata : MlsSnapshotMetadata :=
  ⟨mlsSnapshotAppSchema, mlsSnapshotOpenmlsVersion, suite, [2], 4, none,
    plainMls.sha256 plainConversation.snapshotPayload⟩

def misdatedSnapshot : Bytes :=
  misdatedMetadata.layout ++ writeBlob plainConversation.snapshotPayload

theorem plain_metadata_agrees :
    (∃ metadata,
      parseSnapshotMetadata plainMls (plainConversation.snapshotV2 5) =
        .ok metadata ∧ metadata.groupId = [2] ∧ metadata.epoch = 3) ∧
    parseSnapshotMetadata plainMls misdatedSnapshot = .ok misdatedMetadata ∧
    ∃ payload, misdatedSnapshot = misdatedMetadata.layout ++ writeBlob payload ∧
      (¬ misdatedMetadata.Supported ∨
        Rejected (restorePayload plainMls payload) ∨
        ∃ conversation, restorePayload plainMls payload = .ok conversation ∧
          (plainMls.groupId conversation.group ≠ misdatedMetadata.groupId ∨
            (plainMls.epoch conversation.group).toNat ≠
              misdatedMetadata.epoch)) := by
  have agrees := snapshot_metadata_agrees_with_restoration plainMls
  have saved : plainConversation.Saved := ⟨rfl, rfl⟩
  have parsed : parseSnapshotMetadata plainMls misdatedSnapshot =
      .ok misdatedMetadata := by decide +kernel
  have refused : ((restore plainMls misdatedSnapshot).andThen fun _ => .ok ()) =
      .err "MLS snapshot envelope metadata mismatch" := by decide +kernel
  refine ⟨?_, parsed, (agrees _).2 _ parsed fun conversation restored => ?_⟩
  · obtain ⟨metadata, _, parsed, _, _, group, epoch, _⟩ := (agrees _).1 _
      (restoreCurrent_snapshotV2 5 saved plainConversation_fits)
    exact ⟨metadata, parsed, group, epoch⟩
  · rw [restored] at refused
    cases refused

end DirectConversation

end Torchat.Crypto
