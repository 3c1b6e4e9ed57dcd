import MediaSync.Foundation.Faults
import MediaSync.Foundation.Sha256

/-! Robocopy copies the files of a batch into an inbox of its own; each copy is then checked against
the manifest and linked to the staging payload of its operation. -/
namespace MediaSync.Transfers

structure FileFingerprint where
  byteCount : Nat
  contentHash : String
  deriving DecidableEq

structure StreamFingerprint where
  name : String
  byteCount : Nat
  contentHash : String
  deriving DecidableEq

structure FileContent where
  bytes : List Sha256.Byte
  namedStreams : List StreamFingerprint := []
  deriving DecidableEq

def fingerprintFile (content : FileContent) : FileFingerprint where
  byteCount := content.bytes.length
  contentHash := String.ofList ((Sha256.digest content.bytes).flatMap Sha256.hexWord)

inductive Node where
  | file (content : FileContent)
  | directory
  | symlink (target : Option FileContent)
  deriving DecidableEq

structure PayloadPath where
  parent : String
  name : String
  deriving DecidableEq

/-- The fields of `RobocopyBatchManifestEntry` that the publication reads. -/
structure RobocopyBatchManifestEntry where
  sourceFileName : String
  payloadPath : PayloadPath
  expected : FileFingerprint

/-- As `_validate_manifest_entries` lets it be built. -/
structure RobocopyBatchManifest where
  entries : List RobocopyBatchManifestEntry
  nonempty : entries ≠ []
  sourceNames : (entries.map RobocopyBatchManifestEntry.sourceFileName).Nodup
  payloadNames : (entries.map fun entry => entry.payloadPath.name).Nodup

structure StagingDisk where
  inbox : Option (List (String × Node))
  payloads : PayloadPath → Option Node

inductive PublishStep where
  | enumerateInbox
  | readCopy (name : String)
  | ensureParent (path : PayloadPath)
  | readPayload (path : PayloadPath)
  | linkPayload (name : String) (path : PayloadPath)
  | unlinkCopy (name : String)
  | removeInbox
  deriving DecidableEq

inductive PublishRaised where
  | stagingError (validationCode nextAction : String)
  | osError
  deriving DecidableEq

namespace StagingDisk

variable (d : StagingDisk)

def copies : List (String × Node) := d.inbox.getD []

def copy (name : String) : Option Node := d.copies.lookup name

def link (name : String) (path : PayloadPath) : StagingDisk :=
  { d with payloads := fun other => if other = path then d.copy name else d.payloads other }

def unlink (name : String) : StagingDisk :=
  { d with inbox := d.inbox.map fun copies => copies.filter fun copy => copy.1 ≠ name }

/-- `rmdir`, which refuses a directory that is not empty. -/
def removeInbox : StagingDisk := { d with inbox := if d.inbox = some [] then none else d.inbox }

end StagingDisk

def stagingEffects : Effects StagingDisk PublishStep Unit where
  done
    | .linkPayload name path, d => d.link name path
    | .unlinkCopy name, d => d.unlink name
    | .removeInbox, d => d.removeInbox
    | _, d => d
  cut _ _ d := d

abbrev Publication (α : Type) := Faulty StagingDisk PublishStep PublishRaised α

/-- `LocalFileStagingError` raised. -/
def fail {α : Type} (validationCode nextAction : String) : Publication α :=
  .raise (.stagingError validationCode nextAction)

/-- The file that `exists()` and `open()` see at a payload path, when there is one. -/
def readable : Node → Option FileContent
  | .file content => some content
  | .directory => none
  | .symlink target => target

/-- `payload_path.exists()`. -/
def exists? : Option Node → Bool
  | some (.symlink none) => false
  | node => node.isSome

section
variable (manifest : RobocopyBatchManifest)

/-- `expected_by_name[name]`. -/
def expectedByName (name : String) : Option RobocopyBatchManifestEntry :=
  manifest.entries.find? fun entry => entry.sourceFileName = name

/-- `tuple(manifest.staging_inbox.iterdir())`. -/
def enumerateInbox : Publication (List (String × Node)) :=
  .look fun d =>
    let refused := fail "STAGING_MANIFEST_MISMATCH"
      "Retry the transfer because the Robocopy staging inbox cannot be enumerated."
    match d.inbox with
    | none => refused
    | some copies => .act .enumerateInbox (.ret copies) refused

/-- `actual_names != set(expected_by_name)`. -/
def namesMatch (copies : List (String × Node)) : Bool :=
  copies.all (fun copy => (expectedByName manifest copy.1).isSome) &&
    manifest.entries.all fun entry => copies.any fun copy => copy.1 = entry.sourceFileName

def verifyCopy (copy : String × Node) : Publication FileFingerprint :=
  match copy.2, expectedByName manifest copy.1 with
  | .file content, some entry =>
    let observed := fingerprintFile content
    .act (.readCopy copy.1)
      (if observed = entry.expected then .ret observed
        else fail "ROBOCOPY_STAGING_SOURCE_CHANGED"
          "Refresh analysis because source bytes changed during transfer.")
      (.raise .osError)
  | _, _ => fail "STAGING_MANIFEST_MISMATCH"
      "Quarantine the staging inbox because it contains a non-file or reparse entry."

/-- `observed_by_name`. -/
def verifyCopies : List (String × Node) → Publication (List (String × FileFingerprint))
  | [] => .ret []
  | copy :: rest => do
    let observed ← verifyCopy manifest copy
    let others ← verifyCopies rest
    return (copy.1, observed) :: others

def payloadRace {α : Type} : Publication α :=
  fail "ROBOCOPY_STAGING_PAYLOAD_RACE" "Reload staging state before retrying the transfer."

def publishEntry (observedByName : List (String × FileFingerprint))
    (entry : RobocopyBatchManifestEntry) : Publication Unit := do
  .step (.ensureParent entry.payloadPath) .osError
  let unlinkCopy := Faulty.step (.unlinkCopy entry.sourceFileName) .osError
  .look fun d =>
    if exists? (d.payloads entry.payloadPath) then
      .act (.readPayload entry.payloadPath)
        (match (d.payloads entry.payloadPath).bind readable with
        | none => .raise .osError
        | some content =>
          if some (fingerprintFile content) = observedByName.lookup entry.sourceFileName then
            unlinkCopy
          else payloadRace)
        (.raise .osError)
    else if (d.payloads entry.payloadPath).isSome then payloadRace
    else
      .act (.linkPayload entry.sourceFileName entry.payloadPath) unlinkCopy
        (fail "ROBOCOPY_STAGING_PAYLOAD_PUBLISH_FAILED"
          "Retry staging on a filesystem that supports controlled object publication.")

def publishRobocopyBatchInbox : Publication Unit := do
  let copies ← enumerateInbox
  if namesMatch manifest copies then
    let observedByName ← verifyCopies manifest copies
    manifest.entries.forM (publishEntry observedByName)
    .act .removeInbox (.ret ()) (.ret ())
  else
    fail "STAGING_MANIFEST_MISMATCH"
      "Quarantine the staging inbox because it does not match the batch manifest."

end

structure ExpectedFingerprint extends FileFingerprint where
  namedStreams : Option (List StreamFingerprint) := none

/-- `file_object_fingerprints_match`, of a file and what is expected of it. -/
def fingerprintsMatch (content : FileContent) (expected : ExpectedFingerprint) : Bool :=
  fingerprintFile content = expected.toFileFingerprint &&
    expected.namedStreams.all fun streams => content.namedStreams = streams

/-- What `transfer_batch_to_staging` makes of an existing payload; `none` where it has to transfer
the file, `recent` where this process has published it itself. -/
def existingPayload (node : Option Node) (expected : ExpectedFingerprint) (recent : Bool) :
    Except PublishRaised (Option String) :=
  if exists? node then
    match recent, node with
    | true, some (.file content) =>
      if content.bytes.length = expected.byteCount then
        .ok "ROBOCOPY_BATCH_TRANSFERRED_EXISTING"
      else reread node
    | _, _ => reread node
  else .ok none
where
  /-- The payload is read again and compared. -/
  reread (node : Option Node) : Except PublishRaised (Option String) :=
    match node.bind readable with
    | none => .error .osError
    | some content =>
      if fingerprintsMatch content expected then .ok "ROBOCOPY_TRANSFERRED_EXISTING_MATCH"
      else .error (.stagingError "ROBOCOPY_STAGING_EXISTING_PAYLOAD_MISMATCH"
        "Discard the stale staging payload and retry the transfer.")

end MediaSync.Transfers
