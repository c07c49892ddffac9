import Lcm.Migration.Canonical
import Lcm.Text.SqliteText

namespace Lcm.Migration
open Text

def maxEventSequence : Nat := 9223372036854775807

def maxEpochSequence : Nat := 9223372036854775808

def maxEffectWitnessBytes : Nat := 16 * 1024

/-- What the receipts use of their runtime: the migration's, the bytes of a text, and whether
`Date.parse` gives a number for it. -/
structure ReceiptPlatform (Number : Type) extends MigrationPlatform Number where
  utf8 : JsString → List Nat
  isFiniteDate : JsString → Bool

section Portable

variable {Number : Type} (platform : MigrationPlatform Number)

def isPortableNumber (value : Number) : Bool :=
  platform.numbers.isFinite value && !platform.numbers.isNegativeZero value &&
    ((platform.numbers.toInteger value).isNone || (platform.numbers.toSafeInteger value).isSome)

mutual

/-- The values that the portable records encode. -/
def isPortable : Json Number → Bool
  | .null => true
  | .boolean _ => true
  | .number value => isPortableNumber platform value
  | .string text => isPostgreSqlText text
  | .array elements => arePortable elements
  | .object members => arePortableMembers members

def arePortable : List (Json Number) → Bool
  | [] => true
  | element :: rest => isPortable element && arePortable rest

def arePortableMembers : List (JsString × Json Number) → Bool
  | [] => true
  | (key, value) :: rest => isPostgreSqlText key && isPortable value && arePortableMembers rest

end

def portableJson (value : Json Number) : Except String JsString :=
  if isPortable platform value then .ok (canonicalJson platform value) else .error "malformed-record"

def portableSha256 (value : Json Number) : Except String JsString := do
  pure (platform.sha256 (← portableJson platform value)).1

end Portable

section Fields

def nulFree (value : JsString) (field : String) : Except String JsString :=
  if includesNul value then .error (field ++ " contains NUL") else .ok value

/-- A UUID in lower case of one of the versions that have a number. -/
def isCanonicalUuid (value : JsString) : Bool :=
  isUuid value && hasVersion [49, 50, 51, 52, 53, 54, 55, 56] value

def canonicalUuid (value : JsString) (field : String) : Except String JsString := do
  let value ← nulFree value field
  if isCanonicalUuid value then .ok value else .error (field ++ " is not a canonical UUID")

/-- A sequence is a number in nineteen digits. -/
def sequence (value maximum : Nat) (field : String) : Except String Nat :=
  if value ≤ maximum then .ok value else .error (field ++ " is invalid")

def isUtcMicroseconds (value : JsString) : Bool :=
  value.length == 27 && value.zipIdx.all fun (unit, index) =>
    if index ∈ [4, 7] then unit == 45
    else if index = 10 then unit == 84
    else if index ∈ [13, 16] then unit == 58
    else if index = 19 then unit == 46
    else if index = 26 then unit == 90
    else Json.isDigit unit

def timestamp (isFiniteDate : JsString → Bool) (value : JsString) (field : String) :
    Except String JsString := do
  let value ← nulFree value field
  if isUtcMicroseconds value && isFiniteDate value then .ok value
  else .error (field ++ " is not a UTC timestamp with microseconds")

end Fields

inductive MigrationReceiptEffectWitness where
  | applied (promotedMemoryId : JsString)
  | noEffect
  deriving DecidableEq

def MigrationReceiptEffectWitness.outcome : MigrationReceiptEffectWitness → JsString
  | .applied _ => js "applied"
  | .noEffect => js "no-effect"

structure MigrationReceiptEnvelope (Number : Type) where
  eventUuid : JsString
  eventVersion : Nat
  machineId : JsString
  machineSequence : Nat
  sessionId : JsString
  sessionSequence : Nat
  type : JsString
  category : JsString
  data : JsString
  priority : Number
  sourceHook : JsString
  createdAt : JsString

structure MigrationReceiptEpoch where
  projectId : JsString
  machineId : JsString
  epochId : JsString
  firstMachineSequence : Nat
  establishedAt : JsString
  checksumSha256 : JsString
  deriving DecidableEq

structure MigrationReceipt where
  projectId : JsString
  machineId : JsString
  epochId : JsString
  eventUuid : JsString
  machineSequence : Nat
  envelopeSha256 : JsString
  effectWitness : MigrationReceiptEffectWitness
  committedAt : JsString
  checksumSha256 : JsString
  deriving DecidableEq

structure MigrationReceiptEvidence where
  epoch : MigrationReceiptEpoch
  receipts : List MigrationReceipt
  receiptSetSha256 : JsString

/-- A row of the receipt table. -/
structure ReceiptRow where
  projectId : JsString
  machineId : JsString
  epochId : JsString
  eventUuid : JsString
  machineSequence : Nat
  envelopeSha256 : JsString
  outcome : JsString
  effectWitnessJson : JsString
  committedAt : JsString
  checksumSha256 : JsString
  deriving DecidableEq

/-- Two rows share the primary key or the unique columns. -/
def ReceiptRow.conflicts (first second : ReceiptRow) : Prop :=
  first.projectId = second.projectId ∧ first.machineId = second.machineId ∧
    (first.eventUuid = second.eventUuid ∨ first.machineSequence = second.machineSequence)

instance (first second : ReceiptRow) : Decidable (first.conflicts second) :=
  inferInstanceAs (Decidable (_ ∧ _ ∧ (_ ∨ _)))

def MigrationReceiptEpoch.conflicts (first second : MigrationReceiptEpoch) : Prop :=
  first.projectId = second.projectId ∧ first.machineId = second.machineId ∨
    first.epochId = second.epochId

instance (first second : MigrationReceiptEpoch) : Decidable (first.conflicts second) :=
  inferInstanceAs (Decidable (_ ∧ _ ∨ _))

/-- The two tables of receipts with their unique columns. -/
structure ReceiptTables where
  epochs : List MigrationReceiptEpoch
  events : List ReceiptRow
  distinctEpochs : epochs.Pairwise fun first second => ¬ first.conflicts second
  distinctEvents : events.Pairwise fun first second => ¬ first.conflicts second

namespace ReceiptTables

def empty : ReceiptTables := ⟨[], [], .nil, .nil⟩

def insertEpoch? (epoch : MigrationReceiptEpoch) (tables : ReceiptTables) : Option ReceiptTables :=
  if free : ∀ stored ∈ tables.epochs, ¬ stored.conflicts epoch then
    some { tables with
      epochs := tables.epochs ++ [epoch]
      distinctEpochs := by
        refine List.pairwise_append.mpr ⟨tables.distinctEpochs, List.pairwise_singleton .., ?_⟩
        intro stored inside other last
        rw [List.mem_singleton.mp last]
        exact free stored inside }
  else none

def insertEvent? (row : ReceiptRow) (tables : ReceiptTables) : Option ReceiptTables :=
  if free : ∀ stored ∈ tables.events, ¬ stored.conflicts row then
    some { tables with
      events := tables.events ++ [row]
      distinctEvents := by
        refine List.pairwise_append.mpr ⟨tables.distinctEvents, List.pairwise_singleton .., ?_⟩
        intro stored inside other last
        rw [List.mem_singleton.mp last]
        exact free stored inside }
  else none

theorem insertEvent?_eq_some {row : ReceiptRow} {tables after : ReceiptTables}
    (inserted : tables.insertEvent? row = some after) :
    after.epochs = tables.epochs ∧ after.events = tables.events ++ [row] := by
  rw [insertEvent?] at inserted
  split at inserted
  · cases inserted
    exact ⟨rfl, rfl⟩
  · cases inserted

/-- The epoch of a machine in a project. -/
def epochOf (projectId machineId : JsString) (tables : ReceiptTables) : Option MigrationReceiptEpoch :=
  tables.epochs.find? fun epoch => epoch.projectId = projectId ∧ epoch.machineId = machineId

/-- The receipts of a machine in a project. -/
def receiptsOf (projectId machineId : JsString) (tables : ReceiptTables) : List ReceiptRow :=
  tables.events.filter fun row => row.projectId = projectId ∧ row.machineId = machineId

end ReceiptTables

section Json

variable {Number : Type} (platform : ReceiptPlatform Number)

def textMember (name : String) (value : JsString) : JsString × Json Number := (js name, .string value)

def numberMember (name : String) (value : Nat) : JsString × Json Number :=
  (js name, writeNatural platform.toMigrationPlatform value)

/-- A sequence in its nineteen digits. -/
def sequenceMember (name : String) (value : Nat) : JsString × Json Number :=
  textMember name (padded 19 value)

def MigrationReceiptEffectWitness.toJson : MigrationReceiptEffectWitness → Json Number
  | .applied promotedMemoryId => .object [textMember "outcome" (js "applied"),
      textMember "promotedMemoryId" promotedMemoryId, numberMember platform "version" 1]
  | .noEffect => .object [textMember "outcome" (js "no-effect"),
      textMember "reason" (js "unreinforced-pattern"), numberMember platform "version" 1]

def epochBody (epoch : MigrationReceiptEpoch) : Json Number :=
  .object [numberMember platform "version" 1, textMember "projectId" epoch.projectId,
    textMember "machineId" epoch.machineId, textMember "epochId" epoch.epochId,
    sequenceMember "firstMachineSequence" epoch.firstMachineSequence,
    textMember "establishedAt" epoch.establishedAt]

/-- The members of a receipt that its checksum covers. -/
def MigrationReceipt.body (receipt : MigrationReceipt) : RecordValue Number :=
  [numberMember platform "version" 1, textMember "projectId" receipt.projectId,
    textMember "machineId" receipt.machineId, textMember "epochId" receipt.epochId,
    textMember "eventUuid" receipt.eventUuid, sequenceMember "machineSequence" receipt.machineSequence,
    textMember "envelopeSha256" receipt.envelopeSha256,
    textMember "outcome" receipt.effectWitness.outcome,
    (js "effectWitness", receipt.effectWitness.toJson platform),
    textMember "committedAt" receipt.committedAt]

def MigrationReceipt.toJson (receipt : MigrationReceipt) : Json Number :=
  .object (receipt.body platform ++ [textMember "checksumSha256" receipt.checksumSha256])

def MigrationReceiptEnvelope.toJson (envelope : MigrationReceiptEnvelope Number) : Json Number :=
  .object [numberMember platform "version" 1, textMember "eventUuid" envelope.eventUuid,
    numberMember platform "eventVersion" envelope.eventVersion,
    textMember "machineId" envelope.machineId,
    sequenceMember "machineSequence" envelope.machineSequence,
    textMember "sessionId" envelope.sessionId,
    numberMember platform "sessionSequence" envelope.sessionSequence,
    textMember "type" envelope.type, textMember "category" envelope.category,
    textMember "data" envelope.data, (js "priority", .number envelope.priority),
    textMember "sourceHook" envelope.sourceHook, textMember "createdAt" envelope.createdAt]

end Json

section Epochs

variable {Number : Type} (platform : ReceiptPlatform Number)

def validateEpochInput (input : MigrationReceiptEpoch) : Except String Unit := do
  let _ ← nulFree input.projectId "projectId"
  let _ ← canonicalUuid input.machineId "machineId"
  let _ ← canonicalUuid input.epochId "epochId"
  let _ ← sequence input.firstMachineSequence maxEpochSequence "firstMachineSequence"
  let _ ← timestamp platform.isFiniteDate input.establishedAt "establishedAt"

def parseEpochRow (row : MigrationReceiptEpoch) : Except String MigrationReceiptEpoch := do
  let _ ← nulFree row.projectId "project_id"
  let _ ← canonicalUuid row.machineId "machine_id"
  let _ ← canonicalUuid row.epochId "epoch_id"
  let _ ← sequence row.firstMachineSequence maxEpochSequence "first_machine_sequence"
  let _ ← timestamp platform.isFiniteDate row.establishedAt "established_at"
  let checksum ← portableSha256 platform.toMigrationPlatform (epochBody platform row)
  if isHash row.checksumSha256 && checksum == row.checksumSha256 then .ok row
  else .error "migration receipt epoch checksum is invalid"

/-- The checksum of the input is not read. -/
def adoptMigrationReceiptEpoch (input : MigrationReceiptEpoch) (tables : ReceiptTables) :
    Except String (MigrationReceiptEpoch × ReceiptTables) := do
  validateEpochInput platform input
  match tables.epochOf input.projectId input.machineId with
  | some existing => pure (← parseEpochRow platform existing, tables)
  | none =>
      let checksumSha256 ← portableSha256 platform.toMigrationPlatform (epochBody platform input)
      let epoch := { input with checksumSha256 }
      match tables.insertEpoch? epoch with
      | some after => pure (epoch, after)
      | none => .error "constraint"

def getMigrationReceiptEpoch (projectId machineId : JsString) (tables : ReceiptTables) :
    Except String (Option MigrationReceiptEpoch) := do
  let _ ← nulFree projectId "projectId"
  let _ ← canonicalUuid machineId "machineId"
  match tables.epochOf projectId machineId with
  | none => pure none
  | some row => some <$> parseEpochRow platform row

end Epochs

section Receipts

variable {Number : Type} (platform : ReceiptPlatform Number)

def isSafeInteger (value : Number) : Bool := (platform.numbers.toSafeInteger value).isSome

/-- An integer of the event tables is not negative, so the lower bounds are those of the types. -/
def validateEnvelope (envelope : MigrationReceiptEnvelope Number) : Except String Unit := do
  let _ ← canonicalUuid envelope.eventUuid "eventUuid"
  let _ ← canonicalUuid envelope.machineId "machineId"
  let _ ← sequence envelope.machineSequence maxEventSequence "machineSequence"
  let _ ← nulFree envelope.sessionId "sessionId"
  let _ ← nulFree envelope.type "type"
  let _ ← nulFree envelope.category "category"
  let _ ← nulFree envelope.data "data"
  let _ ← nulFree envelope.sourceHook "sourceHook"
  let _ ← nulFree envelope.createdAt "createdAt"
  if 0 < envelope.eventVersion ∧ envelope.eventVersion ≤ maxSafeNatural ∧
      envelope.sessionSequence ≤ maxSafeNatural ∧ isSafeInteger platform envelope.priority then .ok ()
  else .error "migration receipt envelope integer is invalid"

def migrationReceiptEnvelopeSha256 (envelope : MigrationReceiptEnvelope Number) :
    Except String JsString := do
  validateEnvelope platform envelope
  portableSha256 platform.toMigrationPlatform (envelope.toJson platform)

def validateEffectWitness (witness : MigrationReceiptEffectWitness) :
    Except String MigrationReceiptEffectWitness :=
  match witness with
  | .applied promotedMemoryId => do
      let _ ← nulFree promotedMemoryId "promotedMemoryId"
      if promotedMemoryId.isEmpty then .error "promotedMemoryId is blank" else .ok witness
  | .noEffect => .ok witness

/-- The witness that a JSON value is. -/
def readEffectWitness (value : Json Number) : Except String MigrationReceiptEffectWitness :=
  match value with
  | .object members =>
      let outcome : Option JsString := readName [(js "applied", js "applied"),
        (js "no-effect", js "no-effect")] (own members "outcome")
      let keys := if outcome = some (js "applied") then ["outcome", "promotedMemoryId", "version"]
        else ["outcome", "reason", "version"]
      if isVersionOne platform.toMigrationPlatform (own members "version") = false then
        .error "migration receipt effect witness version is invalid"
      else if exactKeys members keys = false then
        .error "migration receipt effect witness shape is invalid"
      else if outcome = some (js "applied") then
        match own members "promotedMemoryId" with
        | some (.string promotedMemoryId) => validateEffectWitness (.applied promotedMemoryId)
        | _ => .error "migration receipt effect witness is invalid"
      else if outcome = some (js "no-effect") ∧
          (readName [((), js "unreinforced-pattern")] (own members "reason")).isSome then .ok .noEffect
      else .error "migration receipt effect witness is invalid"
  | _ => .error "migration receipt effect witness version is invalid"

/-- The JSON text of a witness, and the witness that it holds. -/
def parseEffectWitness (effectWitnessJson : JsString) : Except String MigrationReceiptEffectWitness := do
  match Json.parse platform.numbers.format effectWitnessJson with
  | none => .error "migration receipt effect witness JSON is invalid"
  | some value =>
      let effectWitness ← readEffectWitness platform value
      let text ← portableJson platform.toMigrationPlatform value
      if text = effectWitnessJson then pure effectWitness
      else .error "migration receipt effect witness JSON is not canonical"

def parseReceiptRow (row : ReceiptRow) : Except String MigrationReceipt := do
  let _ ← nulFree row.projectId "project_id"
  let _ ← nulFree row.outcome "outcome"
  let _ ← nulFree row.effectWitnessJson "effect_witness_json"
  let _ ← nulFree row.envelopeSha256 "envelope_sha256"
  let _ ← nulFree row.checksumSha256 "checksum_sha256"
  let effectWitness ← parseEffectWitness platform row.effectWitnessJson
  let _ ← canonicalUuid row.machineId "machine_id"
  let _ ← canonicalUuid row.epochId "epoch_id"
  let _ ← canonicalUuid row.eventUuid "event_uuid"
  let _ ← sequence row.machineSequence maxEventSequence "machine_sequence"
  let _ ← timestamp platform.isFiniteDate row.committedAt "committed_at"
  let receipt : MigrationReceipt := ⟨row.projectId, row.machineId, row.epochId, row.eventUuid,
    row.machineSequence, row.envelopeSha256, effectWitness, row.committedAt, row.checksumSha256⟩
  let checksum ← portableSha256 platform.toMigrationPlatform (.object (receipt.body platform))
  if isHash row.envelopeSha256 && row.outcome == effectWitness.outcome && isHash row.checksumSha256 &&
      checksum == row.checksumSha256 then pure receipt
  else .error "migration receipt checksum is invalid"

/-- The row of a receipt with the JSON text of its witness. -/
def MigrationReceipt.row (receipt : MigrationReceipt) (effectWitnessJson : JsString) : ReceiptRow :=
  ⟨receipt.projectId, receipt.machineId, receipt.epochId, receipt.eventUuid, receipt.machineSequence,
    receipt.envelopeSha256, receipt.effectWitness.outcome, effectWitnessJson, receipt.committedAt,
    receipt.checksumSha256⟩

def readReceiptRow (projectId machineId eventUuid : JsString) (tables : ReceiptTables) :
    Except String (Option MigrationReceipt) :=
  match (tables.receiptsOf projectId machineId).find? fun row => row.eventUuid = eventUuid with
  | none => .ok none
  | some row => some <$> parseReceiptRow platform row

/-- A row that is there already is the receipt when it says the same. -/
def storeReceipt (receipt : MigrationReceipt) (effectWitnessJson : JsString) (tables : ReceiptTables) :
    Except String (MigrationReceipt × ReceiptTables) := do
  match tables.insertEvent? (receipt.row effectWitnessJson) with
  | some after => pure (receipt, after)
  | none =>
      match ← readReceiptRow platform receipt.projectId receipt.machineId receipt.eventUuid tables with
      | none => .error "migration receipt conflict"
      | some existing =>
          let first ← portableJson platform.toMigrationPlatform (existing.toJson platform)
          let second ← portableJson platform.toMigrationPlatform (receipt.toJson platform)
          if first = second then pure (existing, tables) else .error "migration receipt conflict"

def recordMigrationReceipt (projectId epochId : JsString) (envelope : MigrationReceiptEnvelope Number)
    (effectWitness : MigrationReceiptEffectWitness) (committedAt : JsString) (tables : ReceiptTables) :
    Except String (MigrationReceipt × ReceiptTables) := do
  let _ ← nulFree projectId "projectId"
  let _ ← canonicalUuid epochId "epochId"
  validateEnvelope platform envelope
  let _ ← validateEffectWitness effectWitness
  let _ ← timestamp platform.isFiniteDate committedAt "committedAt"
  match (tables.epochOf projectId envelope.machineId).filter fun epoch => epoch.epochId = epochId with
  | none => .error "migration receipt epoch is missing"
  | some epochRow =>
      let epoch ← parseEpochRow platform epochRow
      if envelope.machineSequence < epoch.firstMachineSequence then
        .error "migration receipt event predates its enforced epoch"
      else
        let envelopeSha256 ← migrationReceiptEnvelopeSha256 platform envelope
        let effectWitnessJson ← portableJson platform.toMigrationPlatform (effectWitness.toJson platform)
        if maxEffectWitnessBytes < (platform.utf8 effectWitnessJson).length then
          .error "migration receipt effect witness is too large"
        else
          let receipt : MigrationReceipt := ⟨projectId, envelope.machineId, epochId, envelope.eventUuid,
            envelope.machineSequence, envelopeSha256, effectWitness, committedAt, []⟩
          let checksumSha256 ← portableSha256 platform.toMigrationPlatform (.object (receipt.body platform))
          storeReceipt platform { receipt with checksumSha256 } effectWitnessJson tables

def findMatchingMigrationReceipt (projectId epochId : JsString)
    (envelope : MigrationReceiptEnvelope Number) (tables : ReceiptTables) :
    Except String (Option MigrationReceipt) := do
  let _ ← canonicalUuid epochId "epochId"
  let envelopeDigest ← migrationReceiptEnvelopeSha256 platform envelope
  match ← getMigrationReceiptEpoch platform projectId envelope.machineId tables with
  | none => .error "migration receipt epoch conflict"
  | some epoch =>
      if epoch.epochId ≠ epochId ∨ envelope.machineSequence < epoch.firstMachineSequence then
        .error "migration receipt epoch conflict"
      else
        let rows := (tables.receiptsOf projectId envelope.machineId).filter fun row =>
          row.eventUuid = envelope.eventUuid ∨ row.machineSequence = envelope.machineSequence
        match rows with
        | [] => pure none
        | [row] => do
            let receipt ← parseReceiptRow platform row
            if receipt.epochId = epoch.epochId ∧ receipt.eventUuid = envelope.eventUuid ∧
                receipt.machineSequence = envelope.machineSequence ∧
                  receipt.envelopeSha256 = envelopeDigest then pure (some receipt)
            else .error "migration receipt envelope conflict"
        | _ => .error "migration receipt identity conflict"

/-- The texts of a table row that a NUL would spoil. -/
def ReceiptTables.containsNul (tables : ReceiptTables) : Bool :=
  (tables.epochs.any fun epoch => [epoch.projectId, epoch.machineId, epoch.epochId,
    epoch.establishedAt, epoch.checksumSha256].any includesNul) ||
  tables.events.any fun row => [row.projectId, row.machineId, row.epochId, row.eventUuid,
    row.envelopeSha256, row.outcome, row.effectWitnessJson, row.committedAt,
    row.checksumSha256].any includesNul

def readMigrationReceiptEvidence (projectId machineId : JsString) (tables : ReceiptTables) :
    Except String MigrationReceiptEvidence := do
  let _ ← nulFree projectId "projectId"
  let _ ← canonicalUuid machineId "machineId"
  if tables.containsNul then .error "migration receipt table contains NUL text"
  else match tables.epochOf projectId machineId with
    | none => .error "migration receipt epoch is missing"
    | some epochRow =>
        let epoch ← parseEpochRow platform epochRow
        let rows := sortedBy (fun row : ReceiptRow => toLex (row.machineSequence, platform.utf8 row.eventUuid))
          (tables.receiptsOf projectId machineId)
        let receipts ← rows.mapM (parseReceiptRow platform)
        if receipts.any fun receipt => receipt.epochId ≠ epoch.epochId then
          .error "migration receipt epoch identity is inconsistent"
        else
          let receiptSetSha256 ← portableSha256 platform.toMigrationPlatform
            (.array (receipts.map fun receipt => .string receipt.checksumSha256))
          pure ⟨epoch, receipts, receiptSetSha256⟩

end Receipts

end Lcm.Migration
