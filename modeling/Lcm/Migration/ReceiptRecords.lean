import Lcm.Migration.Receipts
import Lcm.Migration.RoundTrip

namespace Lcm.Migration
open Text

section Checks

theorem nulFree_eq_ok {value result : JsString} {field : String} :
    nulFree value field = .ok result ↔ includesNul value = false ∧ value = result := by
  rw [nulFree]
  split
  · next spoiled => simp [spoiled]
  · next clean => simp [clean]

theorem canonicalUuid_eq_ok {value result : JsString} {field : String} :
    canonicalUuid value field = .ok result ↔
      (includesNul value = false ∧ isCanonicalUuid value = true) ∧ value = result := by
  rw [canonicalUuid, Except.bind_eq_ok]
  constructor
  · intro ⟨same, clean, checked⟩
    obtain ⟨free, rfl⟩ := nulFree_eq_ok.mp clean
    split at checked
    · next canonical => exact ⟨⟨free, canonical⟩, Except.ok.inj checked⟩
    · cases checked
  · intro ⟨⟨free, canonical⟩, same⟩
    exact ⟨value, nulFree_eq_ok.mpr ⟨free, rfl⟩, by rw [if_pos canonical, same]⟩

theorem sequence_eq_ok {value maximum result : Nat} {field : String} :
    sequence value maximum field = .ok result ↔ value ≤ maximum ∧ value = result := by
  rw [sequence]
  split
  · next within => simp [within]
  · next above => simp [above]

theorem timestamp_eq_ok {isFiniteDate : JsString → Bool} {value result : JsString} {field : String} :
    timestamp isFiniteDate value field = .ok result ↔
      (includesNul value = false ∧ (isUtcMicroseconds value && isFiniteDate value) = true) ∧
        value = result := by
  rw [timestamp, Except.bind_eq_ok]
  constructor
  · intro ⟨same, clean, checked⟩
    obtain ⟨free, rfl⟩ := nulFree_eq_ok.mp clean
    split at checked
    · next valid => exact ⟨⟨free, valid⟩, Except.ok.inj checked⟩
    · cases checked
  · intro ⟨⟨free, valid⟩, same⟩
    exact ⟨value, nulFree_eq_ok.mpr ⟨free, rfl⟩, by rw [if_pos valid, same]⟩

/-- The name of the field is only told in an error. -/
theorem canonicalUuid_field {value result : JsString} {field : String}
    (checked : canonicalUuid value field = .ok result) (other : String) :
    canonicalUuid value other = .ok result :=
  canonicalUuid_eq_ok.mpr (canonicalUuid_eq_ok.mp checked)

theorem hash_clean (hash : Hash) : includesNul hash.1 = false := by
  have digits := hash.2
  simp only [isHash, Bool.and_eq_true, List.all_eq_true] at digits
  rw [includesNul, List.contains_eq_mem, decide_eq_false_iff_not]
  exact fun inside => absurd (digits.2 0 inside) (by decide)

end Checks

section Portable

variable {Number : Type} {platform : MigrationPlatform Number}

theorem portableJson_eq_ok {value : Json Number} {text : JsString} :
    portableJson platform value = .ok text ↔
      isPortable platform value = true ∧ canonicalJson platform value = text := by
  rw [portableJson]
  split
  · next portable => simp [portable]
  · next foreign => simp [foreign]

theorem portableSha256_eq_ok {value : Json Number} {digest : JsString} :
    portableSha256 platform value = .ok digest ↔ isPortable platform value = true ∧
      (platform.sha256 (canonicalJson platform value)).1 = digest := by
  rw [portableSha256, Except.bind_eq_ok]
  constructor
  · intro ⟨text, written, same⟩
    obtain ⟨portable, rfl⟩ := portableJson_eq_ok.mp written
    exact ⟨portable, Except.ok.inj same⟩
  · intro ⟨portable, same⟩
    exact ⟨_, portableJson_eq_ok.mpr ⟨portable, rfl⟩, congrArg _ same⟩

/-- The digest of a value is a hash. -/
theorem portableSha256_hash {value : Json Number} {digest : JsString}
    (made : portableSha256 platform value = .ok digest) :
    isHash digest = true ∧ includesNul digest = false := by
  obtain ⟨_, rfl⟩ := portableSha256_eq_ok.mp made
  exact ⟨(platform.sha256 _).2, hash_clean _⟩

theorem isPortable_natural {value : Nat} (safe : value ≤ maxSafeNatural) :
    isPortable platform (writeNatural platform value) = true := by
  have small : value < 2 ^ 53 := lt_of_le_of_lt safe (by decide)
  have integer := platform.numbers.toInteger_ofNat value small
  have bound : value ≤ 9007199254740991 := safe
  rw [writeNatural, isPortable, isPortableNumber, platform.numbers.finite_integer _ _ integer,
    platform.numbers.plain_ofNat, JsNumbers.toSafeInteger, integer]
  simp only [JsNumbers.maxSafe, Option.filter_some]
  rw [if_pos (by apply decide_eq_true; omega)]
  rfl

/-- A safe integer is written as it is; no integer of a table is a negative zero. -/
theorem isPortable_safe {value : Number} (safe : (platform.numbers.toSafeInteger value).isSome = true)
    (plain : platform.numbers.isNegativeZero value = false) :
    isPortable platform (.number value) = true := by
  obtain ⟨integer, found⟩ := Option.isSome_iff_exists.mp safe
  have whole : platform.numbers.toInteger value = some integer := by
    rw [JsNumbers.toSafeInteger, Option.filter_eq_some_iff] at found
    exact found.1
  rw [isPortable, isPortableNumber, platform.numbers.finite_integer _ _ whole, plain, safe]
  simp

theorem arePortable_iff {values : List (Json Number)} :
    arePortable platform values = true ↔ ∀ value ∈ values, isPortable platform value = true := by
  induction values with
  | nil => simp [arePortable]
  | cons value values ih => rw [arePortable, Bool.and_eq_true, ih, List.forall_mem_cons]

theorem arePortable_texts (texts : List JsString) (each : ∀ text ∈ texts, isPostgreSqlText text = true) :
    arePortable platform (texts.map .string) = true := by
  rw [arePortable_iff]
  intro value inside
  obtain ⟨text, member, rfl⟩ := List.mem_map.mp inside
  rw [isPortable, each text member]

theorem arePortableMembers_iff {members : RecordValue Number} :
    arePortableMembers platform members = true ↔
      ∀ member ∈ members, isPostgreSqlText member.1 = true ∧ isPortable platform member.2 = true := by
  induction members with
  | nil => simp [arePortableMembers]
  | cons member members ih =>
      rw [arePortableMembers, Bool.and_eq_true, Bool.and_eq_true, ih, List.forall_mem_cons]

theorem isPostgreSqlText_ascii {text : JsString} (ascii : ∀ unit ∈ text, unit ≠ 0 ∧ unit < 128) :
    isPostgreSqlText text = true := by
  rw [← readText_ascii ascii]
  exact isPostgreSqlText_readText text

theorem hexDigit_ascii {unit : UInt16} (digit : isHexDigit unit = true) : unit ≠ 0 ∧ unit < 128 := by
  simp only [isHexDigit] at digit
  grind

theorem isPostgreSqlText_hash (hash : Hash) : isPostgreSqlText hash.1 = true := by
  apply isPostgreSqlText_ascii
  intro unit inside
  have digits := hash.2
  simp only [isHash, Bool.and_eq_true, List.all_eq_true] at digits
  exact hexDigit_ascii (digits.2 unit inside)

theorem uuid_ascii {value : JsString} (canonical : isCanonicalUuid value = true) :
    ∀ unit ∈ value, unit ≠ 0 ∧ unit < 128 := by
  simp only [isCanonicalUuid, isUuid, Bool.and_eq_true, List.all_eq_true] at canonical
  intro unit inside
  obtain ⟨index, within, same⟩ := List.mem_iff_getElem.mp inside
  have placed := canonical.1.2 (unit, index) (by
    rw [List.mem_zipIdx_iff_getElem?]
    exact List.getElem?_eq_some_iff.mpr ⟨within, same⟩)
  dsimp only at placed
  split at placed
  · rw [beq_iff_eq.mp placed]
    decide
  · exact hexDigit_ascii placed

/-- The text of a sequence has digits only. -/
theorem isPostgreSqlText_padded (width value : Nat) : isPostgreSqlText (padded width value) = true := by
  have ascii : ∀ scalar : Char, scalar.isDigit = true →
      ∀ unit ∈ encodeUtf16 scalar, unit ≠ 0 ∧ unit < 128 := by
    intro scalar digit unit inside
    simp only [Char.isDigit, Bool.and_eq_true, decide_eq_true_eq, UInt32.le_iff_toNat_le] at digit
    have low : 48 ≤ scalar.toNat := digit.1
    have high : scalar.toNat ≤ 57 := digit.2
    rw [encodeUtf16, if_pos (by omega), List.mem_singleton] at inside
    have value : unit.toNat = scalar.toNat := by
      rw [inside]
      exact Nat.mod_eq_of_lt (show scalar.toNat < 65536 by omega)
    constructor
    · intro zero
      rw [zero] at value
      have : (0 : UInt16).toNat = 0 := rfl
      omega
    · rw [UInt16.lt_iff_toNat_lt]
      have : (128 : UInt16).toNat = 128 := rfl
      omega
  apply isPostgreSqlText_ascii
  intro unit inside
  rcases List.mem_append.mp inside with zero | digits
  · rw [List.eq_of_mem_replicate zero]
    decide
  · obtain ⟨scalar, found, here⟩ := List.mem_flatMap.mp digits
    exact ascii scalar (Nat.isDigit_of_mem_toDigits (by decide) (by decide) found) unit here

end Portable

section Witnesses

variable {Number : Type} {platform : ReceiptPlatform Number}

theorem MigrationReceiptEffectWitness.plain (witness : MigrationReceiptEffectWitness) :
    Plain platform.toMigrationPlatform (witness.toJson platform) := by
  cases witness with
  | applied promotedMemoryId =>
      apply plain_object
      · show (List.map _ (List.map js ["outcome", "promotedMemoryId", "version"])).Pairwise _
        decide
      · intro member inside
        simp only [List.mem_cons, List.not_mem_nil, or_false] at inside
        rcases inside with rfl | rfl | rfl
        · exact plain_string _
        · exact plain_string _
        · exact plain_natural ⟨1, by decide⟩
  | noEffect =>
      apply plain_object
      · show (List.map _ (List.map js ["outcome", "reason", "version"])).Pairwise _
        decide
      · intro member inside
        simp only [List.mem_cons, List.not_mem_nil, or_false] at inside
        rcases inside with rfl | rfl | rfl
        · exact plain_string _
        · exact plain_string _
        · exact plain_natural ⟨1, by decide⟩

theorem readEffectWitness_toJson {witness : MigrationReceiptEffectWitness}
    (valid : validateEffectWitness witness = .ok witness) :
    readEffectWitness platform (witness.toJson platform) = .ok witness := by
  cases witness with
  | applied promotedMemoryId =>
      have distinct : (["outcome", "promotedMemoryId", "version"].map js).Nodup := by decide
      have names : [textMember "outcome" (js "applied"), textMember "promotedMemoryId" promotedMemoryId,
        numberMember platform "version" 1].map Prod.fst =
          ["outcome", "promotedMemoryId", "version"].map js := rfl
      rw [← names] at distinct
      have outcome : readName [(js "applied", js "applied"), (js "no-effect", js "no-effect")]
          (some (.string (js "applied") : Json Number)) = some (js "applied") := by
        rw [readName]
        decide
      rw [MigrationReceiptEffectWitness.toJson, readEffectWitness]
      rw [own_at distinct 0 rfl, own_at distinct 1 rfl, own_at distinct 2 rfl, outcome,
        isVersionOne_writeNatural]
      simp [exactKeys_eq names rfl, valid]
  | noEffect =>
      have distinct : (["outcome", "reason", "version"].map js).Nodup := by decide
      have names : [textMember "outcome" (js "no-effect"),
        textMember "reason" (js "unreinforced-pattern"),
          numberMember platform "version" 1].map Prod.fst = ["outcome", "reason", "version"].map js := rfl
      rw [← names] at distinct
      have outcome : readName [(js "applied", js "applied"), (js "no-effect", js "no-effect")]
          (some (.string (js "no-effect") : Json Number)) = some (js "no-effect") := by
        rw [readName]
        decide
      have reason : (readName [((), js "unreinforced-pattern")]
          (some (.string (js "unreinforced-pattern") : Json Number))).isSome = true := by
        rw [readName]
        decide
      have other : js "no-effect" ≠ js "applied" := by decide
      rw [MigrationReceiptEffectWitness.toJson, readEffectWitness]
      rw [own_at distinct 0 rfl, own_at distinct 1 rfl, own_at distinct 2 rfl, outcome,
        isVersionOne_writeNatural]
      simp [other, reason, exactKeys_eq names rfl]

/-- A witness reads back from its text, which has no NUL. -/
theorem parseEffectWitness_portableJson {witness : MigrationReceiptEffectWitness} {text : JsString}
    (valid : validateEffectWitness witness = .ok witness)
    (written : portableJson platform.toMigrationPlatform (witness.toJson platform) = .ok text) :
    parseEffectWitness platform text = .ok witness ∧ includesNul text = false := by
  have plain : Plain platform.toMigrationPlatform (witness.toJson platform) := witness.plain
  have text' := (portableJson_eq_ok.mp written).2
  rw [canonicalJson, plain.canonical] at text'
  constructor
  · rw [parseEffectWitness, ← text', Json.parse_print plain.printable]
    simp only [readEffectWitness_toJson valid]
    rw [text', written]
    simp [Bind.bind, Except.bind, Pure.pure, Except.pure]
  · rw [includesNul, List.contains_eq_mem, decide_eq_false_iff_not, ← text']
    exact fun inside => absurd (plain.printable.visible 0 inside) (by decide)

theorem validateEffectWitness_eq_ok {witness result : MigrationReceiptEffectWitness}
    (valid : validateEffectWitness witness = .ok result) : result = witness := by
  cases witness with
  | noEffect => exact (Except.ok.inj valid).symm
  | applied promotedMemoryId =>
      obtain ⟨_, _, rest⟩ := Except.bind_eq_ok.mp valid
      split at rest
      · cases rest
      · exact (Except.ok.inj rest).symm

end Witnesses

section Rows

variable {Number : Type} {platform : ReceiptPlatform Number} {row : ReceiptRow}
  {receipt : MigrationReceipt}

/-- A receipt has the columns of its row. -/
theorem parseReceiptRow_eq_ok (parsed : parseReceiptRow platform row = .ok receipt) :
    isHash row.checksumSha256 = true ∧ ∃ effectWitness, receipt = ⟨row.projectId, row.machineId,
      row.epochId, row.eventUuid, row.machineSequence, row.envelopeSha256, effectWitness,
        row.committedAt, row.checksumSha256⟩ := by
  simp only [parseReceiptRow, Except.bind_eq_ok] at parsed
  obtain ⟨_, _, _, _, _, _, _, _, _, _, effectWitness, _, _, _, _, _, _, _, _, _, _, _, checksum, _,
    rest⟩ := parsed
  split at rest
  · next valid =>
      simp only [Bool.and_eq_true] at valid
      exact ⟨valid.1.2, effectWitness, (Except.ok.inj rest).symm⟩
  · cases rest

/-- A row that reads back and has no NUL. -/
structure ReceiptRow.Sound (platform : ReceiptPlatform Number) (row : ReceiptRow) : Prop where
  parsed : ∃ receipt, parseReceiptRow platform row = .ok receipt
  clean : [row.projectId, row.machineId, row.epochId, row.eventUuid, row.envelopeSha256, row.outcome,
    row.effectWitnessJson, row.committedAt, row.checksumSha256].any includesNul = false

/-- The row that records the outcome of an event. -/
structure Recorded (platform : ReceiptPlatform Number) (projectId epochId : JsString)
    (envelope : MigrationReceiptEnvelope Number) (row : ReceiptRow) : Prop where
  sound : row.Sound platform
  projectId : row.projectId = projectId
  machineId : row.machineId = envelope.machineId
  epochId : row.epochId = epochId
  eventUuid : row.eventUuid = envelope.eventUuid
  machineSequence : row.machineSequence = envelope.machineSequence
  digest : migrationReceiptEnvelopeSha256 platform envelope = .ok row.envelopeSha256

theorem mem_receiptsOf {projectId machineId : JsString} {tables : ReceiptTables} :
    row ∈ tables.receiptsOf projectId machineId ↔
      row ∈ tables.events ∧ row.projectId = projectId ∧ row.machineId = machineId := by
  simp [ReceiptTables.receiptsOf]

variable {projectId epochId committedAt : JsString} {envelope : MigrationReceiptEnvelope Number}
  {effectWitness : MigrationReceiptEffectWitness} {tables after : ReceiptTables}

theorem canonicalUuid_clean {value : JsString} (canonical : isCanonicalUuid value = true) :
    includesNul value = false := by
  rw [includesNul, List.contains_eq_mem, decide_eq_false_iff_not]
  exact fun inside => (uuid_ascii canonical 0 inside).1 rfl

theorem canonicalUuid_ok {value : JsString} (canonical : isCanonicalUuid value = true)
    (field : String) : canonicalUuid value field = .ok value :=
  canonicalUuid_eq_ok.mpr ⟨⟨canonicalUuid_clean canonical, canonical⟩, rfl⟩

/-- An envelope that a digest can be made of, but for lone surrogates. -/
structure MigrationReceiptEnvelope.Valid (platform : ReceiptPlatform Number)
    (envelope : MigrationReceiptEnvelope Number) : Prop where
  eventUuid : isCanonicalUuid envelope.eventUuid = true
  machineId : isCanonicalUuid envelope.machineId = true
  machineSequence : envelope.machineSequence ≤ maxEventSequence
  texts : ∀ text ∈ [envelope.sessionId, envelope.type, envelope.category, envelope.data,
    envelope.sourceHook, envelope.createdAt], includesNul text = false
  eventVersion : 0 < envelope.eventVersion ∧ envelope.eventVersion ≤ maxSafeNatural
  sessionSequence : envelope.sessionSequence ≤ maxSafeNatural
  priority : isSafeInteger platform envelope.priority = true

theorem validateEnvelope_eq_ok :
    validateEnvelope platform envelope = .ok () ↔ envelope.Valid platform := by
  simp only [validateEnvelope, Except.bind_eq_ok, canonicalUuid_eq_ok, sequence_eq_ok, nulFree_eq_ok]
  constructor
  · intro ⟨_, event, _, machine, _, order, _, session, _, type, _, category, _, data, _, hook, _,
      created, rest⟩
    split at rest
    · next numbers =>
        refine ⟨event.1.2, machine.1.2, order.1, ?_, ⟨numbers.1, numbers.2.1⟩, numbers.2.2.1,
          numbers.2.2.2⟩
        simp [session.1, type.1, category.1, data.1, hook.1, created.1]
    · cases rest
  · intro valid
    have clean := valid.texts
    simp only [List.mem_cons, List.not_mem_nil, or_false, forall_eq_or_imp, forall_eq] at clean
    obtain ⟨session, type, category, data, hook, created⟩ := clean
    refine ⟨_, ⟨⟨canonicalUuid_clean valid.eventUuid, valid.eventUuid⟩, rfl⟩, _,
      ⟨⟨canonicalUuid_clean valid.machineId, valid.machineId⟩, rfl⟩, _, ⟨valid.machineSequence, rfl⟩,
      _, ⟨session, rfl⟩, _, ⟨type, rfl⟩, _, ⟨category, rfl⟩, _, ⟨data, rfl⟩, _, ⟨hook, rfl⟩, _,
      ⟨created, rfl⟩, ?_⟩
    rw [if_pos ⟨valid.eventVersion.1, valid.eventVersion.2, valid.sessionSequence, valid.priority⟩]

theorem migrationReceiptEnvelopeSha256_valid {digest : JsString}
    (made : migrationReceiptEnvelopeSha256 platform envelope = .ok digest) :
    envelope.Valid platform ∧ isHash digest = true ∧ includesNul digest = false := by
  obtain ⟨_, checked, hashed⟩ := Except.bind_eq_ok.mp made
  exact ⟨validateEnvelope_eq_ok.mp checked, portableSha256_hash hashed⟩

/-- A digest exists of a valid envelope whose texts are well formed. -/
theorem migrationReceiptEnvelopeSha256_ok (valid : envelope.Valid platform)
    (texts : ∀ text ∈ [envelope.sessionId, envelope.type, envelope.category, envelope.data,
      envelope.sourceHook, envelope.createdAt], isPostgreSqlText text = true)
    (plain : platform.numbers.isNegativeZero envelope.priority = false) :
    ∃ digest, migrationReceiptEnvelopeSha256 platform envelope = .ok digest := by
  have portable : isPortable platform.toMigrationPlatform (envelope.toJson platform) = true := by
    simp only [List.mem_cons, List.not_mem_nil, or_false, forall_eq_or_imp, forall_eq] at texts
    obtain ⟨session, type, category, data, hook, created⟩ := texts
    have names : ∀ name ∈ ["version", "eventUuid", "eventVersion", "machineId", "machineSequence",
        "sessionId", "sessionSequence", "type", "category", "data", "priority", "sourceHook",
        "createdAt"], isPostgreSqlText (js name) = true := by decide
    simp only [List.mem_cons, List.not_mem_nil, or_false, forall_eq_or_imp, forall_eq] at names
    have text : ∀ value : JsString, isPostgreSqlText value = true →
        isPortable platform.toMigrationPlatform (.string value) = true := by
      intro value portable
      rw [isPortable, portable]
    rw [MigrationReceiptEnvelope.toJson, isPortable, arePortableMembers_iff]
    simp only [List.forall_mem_cons, textMember, numberMember, sequenceMember]
    refine ⟨⟨names.1, isPortable_natural (by decide)⟩,
      ⟨names.2.1, text _ (isPostgreSqlText_ascii (uuid_ascii valid.eventUuid))⟩,
      ⟨names.2.2.1, isPortable_natural valid.eventVersion.2⟩,
      ⟨names.2.2.2.1, text _ (isPostgreSqlText_ascii (uuid_ascii valid.machineId))⟩,
      ⟨names.2.2.2.2.1, text _ (isPostgreSqlText_padded 19 _)⟩,
      ⟨names.2.2.2.2.2.1, text _ session⟩,
      ⟨names.2.2.2.2.2.2.1, isPortable_natural valid.sessionSequence⟩,
      ⟨names.2.2.2.2.2.2.2.1, text _ type⟩, ⟨names.2.2.2.2.2.2.2.2.1, text _ category⟩,
      ⟨names.2.2.2.2.2.2.2.2.2.1, text _ data⟩,
      ⟨names.2.2.2.2.2.2.2.2.2.2.1, isPortable_safe valid.priority plain⟩,
      ⟨names.2.2.2.2.2.2.2.2.2.2.2.1, text _ hook⟩,
      ⟨names.2.2.2.2.2.2.2.2.2.2.2.2, text _ created⟩, List.forall_mem_nil _⟩
  obtain ⟨digest, hashed⟩ : ∃ digest, portableSha256 platform.toMigrationPlatform
      (envelope.toJson platform) = .ok digest := ⟨_, portableSha256_eq_ok.mpr ⟨portable, rfl⟩⟩
  exact ⟨digest, Except.bind_eq_ok.mpr ⟨(), validateEnvelope_eq_ok.mpr valid, hashed⟩⟩

/-- A receipt with checked columns reads back from its row. -/
theorem parseReceiptRow_row {made : MigrationReceipt} {effectWitnessJson : JsString}
    (project : includesNul made.projectId = false) (machine : isCanonicalUuid made.machineId = true)
    (epoch : isCanonicalUuid made.epochId = true) (event : isCanonicalUuid made.eventUuid = true)
    (order : made.machineSequence ≤ maxEventSequence)
    (digest : isHash made.envelopeSha256 = true ∧ includesNul made.envelopeSha256 = false)
    (witness : validateEffectWitness made.effectWitness = .ok made.effectWitness)
    (written : portableJson platform.toMigrationPlatform (made.effectWitness.toJson platform) =
      .ok effectWitnessJson)
    (committed : timestamp platform.isFiniteDate made.committedAt "committedAt" = .ok made.committedAt)
    (checksum : portableSha256 platform.toMigrationPlatform (.object (made.body platform)) =
      .ok made.checksumSha256) : (made.row effectWitnessJson).Sound platform := by
  obtain ⟨hashed, hashClean⟩ := portableSha256_hash checksum
  obtain ⟨read, jsonClean⟩ := parseEffectWitness_portableJson witness written
  obtain ⟨⟨committedClean, committedValid⟩, _⟩ := timestamp_eq_ok.mp committed
  have outcomeClean : includesNul made.effectWitness.outcome = false := by
    cases made.effectWitness
    · rw [MigrationReceiptEffectWitness.outcome]
      decide
    · rw [MigrationReceiptEffectWitness.outcome]
      decide
  constructor
  · refine ⟨made, ?_⟩
    simp only [parseReceiptRow, MigrationReceipt.row, Except.bind_eq_ok]
    refine ⟨_, nulFree_eq_ok.mpr ⟨project, rfl⟩, _, nulFree_eq_ok.mpr ⟨outcomeClean, rfl⟩, _,
      nulFree_eq_ok.mpr ⟨jsonClean, rfl⟩, _, nulFree_eq_ok.mpr ⟨digest.2, rfl⟩, _,
      nulFree_eq_ok.mpr ⟨hashClean, rfl⟩, _, read, _, canonicalUuid_ok machine _, _,
      canonicalUuid_ok epoch _, _, canonicalUuid_ok event _, _, sequence_eq_ok.mpr ⟨order, rfl⟩, _,
      timestamp_eq_ok.mpr ⟨⟨committedClean, committedValid⟩, rfl⟩, _, checksum, ?_⟩
    simp [digest.1, hashed, Pure.pure, Except.pure]
  · simp [MigrationReceipt.row, project, canonicalUuid_clean machine, canonicalUuid_clean epoch,
      canonicalUuid_clean event, digest.2, outcomeClean, jsonClean, committedClean, hashClean]

/-- What is recorded is a sound row. -/
theorem recordMigrationReceipt_row
    (recorded : recordMigrationReceipt platform projectId epochId envelope effectWitness committedAt
      tables = .ok (receipt, after)) :
    ∃ made effectWitnessJson, Recorded platform projectId epochId envelope
        (MigrationReceipt.row made effectWitnessJson) ∧
      storeReceipt platform made effectWitnessJson tables = .ok (receipt, after) := by
  simp only [recordMigrationReceipt, Except.bind_eq_ok] at recorded
  obtain ⟨_, projectClean, _, epochCanonical, _, _, _, witnessValid, _, committed, rest⟩ := recorded
  cases found : (tables.epochOf projectId envelope.machineId).filter fun epoch => epoch.epochId = epochId with
  | none =>
      rw [found] at rest
      cases rest
  | some epochRow =>
      simp only [found, Except.bind_eq_ok] at rest
      obtain ⟨epoch, _, rest⟩ := rest
      by_cases early : envelope.machineSequence < epoch.firstMachineSequence
      · rw [if_pos early] at rest
        cases rest
      · simp only [if_neg early, Except.bind_eq_ok] at rest
        obtain ⟨envelopeSha256, digest, effectWitnessJson, written, rest⟩ := rest
        by_cases large : maxEffectWitnessBytes < (platform.utf8 effectWitnessJson).length
        · rw [if_pos large] at rest
          cases rest
        · simp only [if_neg large, Except.bind_eq_ok] at rest
          obtain ⟨checksumSha256, checksum, stored⟩ := rest
          obtain ⟨valid, hashed⟩ := migrationReceiptEnvelopeSha256_valid digest
          have witness := validateEffectWitness_eq_ok witnessValid
          subst witness
          obtain ⟨committedValid, same⟩ := timestamp_eq_ok.mp committed
          refine ⟨⟨_, _, _, _, _, envelopeSha256, _, _, checksumSha256⟩, effectWitnessJson,
            ⟨?_, rfl, rfl, rfl, rfl, rfl, digest⟩, stored⟩
          exact parseReceiptRow_row (nulFree_eq_ok.mp projectClean).1 valid.machineId
            (canonicalUuid_eq_ok.mp epochCanonical).1.2 valid.eventUuid valid.machineSequence hashed
            witnessValid written (timestamp_eq_ok.mpr ⟨committedValid, rfl⟩) checksum

/-- With no receipt of the event or its sequence, the recorded row is a new one. -/
theorem recordMigrationReceipt_fresh
    (free : ∀ row ∈ tables.receiptsOf projectId envelope.machineId,
      row.eventUuid ≠ envelope.eventUuid ∧ row.machineSequence ≠ envelope.machineSequence)
    (recorded : recordMigrationReceipt platform projectId epochId envelope effectWitness committedAt
      tables = .ok (receipt, after)) :
    ∃ row, Recorded platform projectId epochId envelope row ∧ after.epochs = tables.epochs ∧
      after.events = tables.events ++ [row] := by
  obtain ⟨made, effectWitnessJson, facts, stored⟩ := recordMigrationReceipt_row recorded
  have added : tables.insertEvent? (made.row effectWitnessJson) ≠ none := by
    intro refused
    rw [ReceiptTables.insertEvent?] at refused
    split at refused
    · cases refused
    · next taken =>
        apply taken
        intro row inside conflict
        have other := free row (mem_receiptsOf.mpr ⟨inside, conflict.1.trans facts.projectId,
          conflict.2.1.trans facts.machineId⟩)
        rcases conflict.2.2 with sameEvent | sameOrder
        · exact other.1 (sameEvent.trans facts.eventUuid)
        · exact other.2 (sameOrder.trans facts.machineSequence)
  obtain ⟨next, inserted⟩ := Option.ne_none_iff_exists'.mp added
  rw [storeReceipt, inserted] at stored
  cases stored
  exact ⟨_, facts, ReceiptTables.insertEvent?_eq_some inserted⟩

theorem findMatchingMigrationReceipt_none
    (found : findMatchingMigrationReceipt platform projectId epochId envelope tables = .ok none) :
    ∀ row ∈ tables.receiptsOf projectId envelope.machineId,
      row.eventUuid ≠ envelope.eventUuid ∧ row.machineSequence ≠ envelope.machineSequence := by
  simp only [findMatchingMigrationReceipt, Except.bind_eq_ok] at found
  obtain ⟨_, _, _, _, epoch, _, rest⟩ := found
  cases epoch with
  | none => cases rest
  | some epoch =>
      dsimp only at rest
      split at rest
      · cases rest
      · split at rest
        · next empty =>
            intro row inside
            have out := List.filter_eq_nil_iff.mp empty row inside
            simpa using out
        · obtain ⟨matched, _, rest⟩ := Except.bind_eq_ok.mp rest
          split at rest <;> cases rest
        · cases rest

/-- A receipt that is found is the one of the event. -/
theorem findMatchingMigrationReceipt_some
    (found : findMatchingMigrationReceipt platform projectId epochId envelope tables =
      .ok (some receipt)) :
    ∃ row ∈ tables.receiptsOf projectId envelope.machineId, row.eventUuid = envelope.eventUuid := by
  simp only [findMatchingMigrationReceipt, Except.bind_eq_ok] at found
  obtain ⟨_, _, _, _, epoch, _, rest⟩ := found
  cases epoch with
  | none => cases rest
  | some epoch =>
      dsimp only at rest
      split at rest
      · cases rest
      · split at rest
        · cases rest
        · next row only =>
            obtain ⟨matched, parsed, rest⟩ := Except.bind_eq_ok.mp rest
            split at rest
            · next same =>
                have inside : row ∈ (tables.receiptsOf projectId envelope.machineId).filter fun row =>
                    row.eventUuid = envelope.eventUuid ∨
                      row.machineSequence = envelope.machineSequence := by
                  rw [only]
                  exact List.mem_singleton_self row
                obtain ⟨_, effectWitness, columns⟩ := parseReceiptRow_eq_ok parsed
                rw [columns] at same
                exact ⟨row, (List.mem_filter.mp inside).1, same.2.1⟩
            · cases rest
        · cases rest

/-- The evidence of sound rows holds the receipt of every one of them. -/
theorem readMigrationReceiptEvidence_ok {machineId : JsString} {epoch : MigrationReceiptEpoch}
    (project : includesNul projectId = false) (machine : isCanonicalUuid machineId = true)
    (clean : tables.containsNul = false) (found : tables.epochOf projectId machineId = some epoch)
    (parsed : parseEpochRow platform epoch = .ok epoch)
    (sound : ∀ row ∈ tables.receiptsOf projectId machineId,
      row.Sound platform ∧ row.epochId = epoch.epochId) :
    ∃ evidence, readMigrationReceiptEvidence platform projectId machineId tables = .ok evidence ∧
      evidence.epoch = epoch ∧ ∀ receipt, receipt ∈ evidence.receipts ↔
        ∃ row ∈ tables.receiptsOf projectId machineId, parseReceiptRow platform row = .ok receipt := by
  have rows : ∀ row, row ∈ sortedBy (fun row : ReceiptRow => toLex (row.machineSequence,
      platform.utf8 row.eventUuid)) (tables.receiptsOf projectId machineId) ↔
        row ∈ tables.receiptsOf projectId machineId := fun row => (SortedBy.perm _).mem_iff
  obtain ⟨receipts, read⟩ : ∃ receipts, (sortedBy (fun row : ReceiptRow => toLex (row.machineSequence,
      platform.utf8 row.eventUuid)) (tables.receiptsOf projectId machineId)).mapM
        (parseReceiptRow platform) = .ok receipts :=
    Except.mapM_ok fun row inside => (sound row ((rows row).mp inside)).1.parsed
  have each : ∀ receipt, receipt ∈ receipts ↔
      ∃ row ∈ tables.receiptsOf projectId machineId, parseReceiptRow platform row = .ok receipt := by
    intro receipt
    constructor
    · intro inside
      obtain ⟨row, member, parsed⟩ := Except.mapM_mem read inside
      exact ⟨row, (rows row).mp member, parsed⟩
    · intro ⟨row, member, parsed⟩
      obtain ⟨result, inside, same⟩ := Except.mapM_result read ((rows row).mpr member)
      rw [parsed] at same
      exact Except.ok.inj same ▸ inside
  have consistent : (receipts.any fun receipt => receipt.epochId ≠ epoch.epochId) = false := by
    rw [List.any_eq_false]
    intro receipt inside
    obtain ⟨row, member, parsed⟩ := (each receipt).mp inside
    obtain ⟨_, effectWitness, columns⟩ := parseReceiptRow_eq_ok parsed
    simp [columns, (sound row member).2]
  have portable : isPortable platform.toMigrationPlatform
      (.array (receipts.map fun receipt => .string receipt.checksumSha256)) = true := by
    have texts : arePortable platform.toMigrationPlatform
        ((receipts.map (·.checksumSha256)).map .string) = true := arePortable_texts _ (by
        intro text inside
        obtain ⟨receipt, member, rfl⟩ := List.mem_map.mp inside
        obtain ⟨row, _, parsed⟩ := (each receipt).mp member
        obtain ⟨hashed, effectWitness, columns⟩ := parseReceiptRow_eq_ok parsed
        rw [columns]
        exact isPostgreSqlText_hash ⟨_, hashed⟩)
    rw [List.map_map] at texts
    rw [isPortable]
    exact texts
  obtain ⟨digest, hashed⟩ : ∃ digest, portableSha256 platform.toMigrationPlatform
      (.array (receipts.map fun receipt => .string receipt.checksumSha256)) = .ok digest :=
    ⟨_, portableSha256_eq_ok.mpr ⟨portable, rfl⟩⟩
  refine ⟨⟨epoch, receipts, digest⟩, ?_, rfl, each⟩
  rw [readMigrationReceiptEvidence, Except.bind_eq_ok]
  refine ⟨_, nulFree_eq_ok.mpr ⟨project, rfl⟩, Except.bind_eq_ok.mpr ⟨_, canonicalUuid_ok machine _, ?_⟩⟩
  rw [if_neg (by simp [clean]), found]
  refine Except.bind_eq_ok.mpr ⟨epoch, parsed, Except.bind_eq_ok.mpr ⟨receipts, read, ?_⟩⟩
  rw [if_neg (Bool.not_eq_true _ ▸ consistent)]
  exact Except.bind_eq_ok.mpr ⟨digest, hashed, rfl⟩

end Rows

end Lcm.Migration
