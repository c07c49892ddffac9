import Lcm.PassiveEvents.Claims

namespace Lcm.PassiveEvents
open Text Store PostgreSql PassiveEventInbox

variable {Number : Type}

/-- An event that another row holds under the identifier of an input. -/
def IsCollision (error : PassiveEventError) : Prop :=
  ∃ eventId, error = .data "idempotency_collision" eventId

theorem not_isCollision {field : String} {eventId : Option JsString}
    (other : field ≠ "idempotency_collision") : ¬ IsCollision (.data field eventId) := by
  rintro ⟨_, same⟩
  exact other (PassiveEventError.data.inj same).1

/-- A stored row holds what the insertion of an input writes of its envelope. -/
structure PassiveEventRow.Carries (platform : PayloadPlatform Number) (row : PassiveEventRow Number)
    (input : PassiveEventInput Number) : Prop where
  machineId : row.machineId = lowerAscii input.machineId
  eventId : row.eventId = lowerAscii input.eventId
  eventVersion : (row.eventVersion : Int) = input.eventVersion
  machineSequence : (row.machineSequence : Int) = input.machineSequence
  eventType : row.eventType = input.eventType
  payload : row.payload = platform.jsonb input.payload

namespace PassiveEventRepository

variable {repository : PassiveEventRepository Number} {inbox after : PassiveEventInbox Number}

section Errors

variable {field : String} {eventId : Option JsString}

theorem eventUuid_avoids (other : field ≠ "idempotency_collision") (value : JsString) :
    (eventUuid field eventId value).Avoids IsCollision := by
  rw [eventUuid]
  split
  · exact .ok _
  · exact .error (not_isCollision other)

theorem eventUuidV7_avoids (other : field ≠ "idempotency_collision") (value : JsString) :
    (eventUuidV7 field eventId value).Avoids IsCollision := by
  apply (eventUuid_avoids other value).bind
  intro _ _
  split
  · exact .ok _
  · exact .error (not_isCollision other)

theorem nonblank_avoids (other : field ≠ "idempotency_collision") (value : JsString) :
    (nonblank field eventId value).Avoids IsCollision := by
  rw [nonblank]
  split
  · exact .ok _
  · exact .error (not_isCollision other)

theorem exactInboxBigInt_avoids (other : field ≠ "idempotency_collision") (minimum : Nat)
    (value : Int) : (exactInboxBigInt field eventId minimum value).Avoids IsCollision := by
  rw [exactInboxBigInt]
  split
  · exact .ok _
  · exact .error (not_isCollision other)

theorem postgresqlInteger_avoids (other : field ≠ "idempotency_collision") (minimum : Nat)
    (value : Int) : (postgresqlInteger field eventId minimum value).Avoids IsCollision := by
  rw [postgresqlInteger]
  split
  · exact .ok _
  · exact .error (not_isCollision other)

theorem timestamp_avoids (other : field ≠ "idempotency_collision") (value : Instant) :
    (repository.timestamp field eventId value).Avoids IsCollision := by
  rw [timestamp]
  split
  · exact .ok _
  · exact .error (not_isCollision other)

theorem jsonObject_avoids (value : JsonObject Number) :
    (repository.jsonObject eventId value).Avoids IsCollision := by
  rw [jsonObject]
  split
  · exact .ok _
  · exact .error (not_isCollision (by decide))

theorem batchSize_avoids (length : Nat) : (batchSize length).Avoids IsCollision := by
  rw [batchSize]
  split
  · exact .ok _
  · exact .error (by rintro ⟨_, same⟩; cases same)

theorem statusFromRow_avoids (status : PassiveEventStatus Instant) :
    (repository.statusFromRow eventId status).Avoids IsCollision := by
  cases status with
  | pending => exact .ok _
  | retry => exact .ok _
  | claimed time owner =>
      apply (timestamp_avoids (by decide) _).bind
      intro _ _
      apply (nonblank_avoids (by decide) _).bind
      exact fun _ _ => .ok _
  | applied time =>
      apply (timestamp_avoids (by decide) _).bind
      exact fun _ _ => .ok _
  | quarantined time reason =>
      apply (timestamp_avoids (by decide) _).bind
      intro _ _
      apply (nonblank_avoids (by decide) _).bind
      exact fun _ _ => .ok _

end Errors

theorem normalizedInput_avoids (input : PassiveEventInput Number) :
    (repository.normalizedInput input).Avoids IsCollision := by
  apply (eventUuid_avoids (by decide) _).bind
  intro _ _
  apply (eventUuidV7_avoids (by decide) _).bind
  intro _ _
  split
  · exact .error (not_isCollision (by decide))
  apply (postgresqlInteger_avoids (by decide) _ _).bind
  intro _ _
  apply (exactInboxBigInt_avoids (by decide) _ _).bind
  intro _ _
  apply (nonblank_avoids (by decide) _).bind
  intro _ _
  apply (jsonObject_avoids _).bind
  exact fun _ _ => .ok _

theorem passiveEventFromRow_avoids (inboxId : InboxId) (row : PassiveEventRow Number)
    (projectId : JsString) :
    (repository.passiveEventFromRow inboxId row projectId).Avoids IsCollision := by
  apply (eventUuid_avoids (by decide) _).bind
  intro _ _
  apply (eventUuidV7_avoids (by decide) _).bind
  intro _ _
  split
  · exact .error (not_isCollision (by decide))
  apply (eventUuidV7_avoids (by decide) _).bind
  intro _ _
  apply (statusFromRow_avoids _).bind
  intro _ _
  apply (exactInboxBigInt_avoids (by decide) _ _).bind
  intro _ _
  apply (postgresqlInteger_avoids (by decide) _ _).bind
  intro _ _
  apply (exactInboxBigInt_avoids (by decide) _ _).bind
  intro _ _
  apply (nonblank_avoids (by decide) _).bind
  intro _ _
  apply (jsonObject_avoids _).bind
  intro _ _
  apply (postgresqlInteger_avoids (by decide) _ _).bind
  intro _ _
  apply (timestamp_avoids (by decide) _).bind
  intro _ _
  apply (timestamp_avoids (by decide) _).bind
  exact fun _ _ => .ok _

theorem readEvents_avoids (keys : List PassiveEventKey) (inbox : PassiveEventInbox Number) :
    (repository.readEvents keys inbox).Avoids IsCollision := by
  apply (batchSize_avoids _).bind
  intro _ _
  apply (Except.Avoids.mapM _).bind
  · intro _ _
    apply Except.Avoids.mapM
    exact fun _ _ => passiveEventFromRow_avoids _ _ _
  · intro key _
    apply (eventUuid_avoids (by decide) _).bind
    intro _ _
    apply (eventUuidV7_avoids (by decide) _).bind
    exact fun _ _ => .ok _

theorem eventUuid_ok {field : String} {eventId : Option JsString} {value normal : JsString}
    (read : eventUuid field eventId value = .ok normal) : normal = lowerAscii value := by
  rw [eventUuid] at read
  split at read
  · cases read
    rfl
  · cases read

theorem eventUuidV7_ok {field : String} {eventId : Option JsString} {value normal : JsString}
    (read : eventUuidV7 field eventId value = .ok normal) : normal = lowerAscii value := by
  rw [eventUuidV7, Except.bind_eq_ok] at read
  obtain ⟨lower, checked, rest⟩ := read
  split at rest
  · cases rest
    exact eventUuid_ok checked
  · cases rest

theorem jsonObject_ok {eventId : Option JsString} {value checked : JsonObject Number}
    (read : repository.jsonObject eventId value = .ok checked) :
    checked = value ∧ arePostgreSqlMembers repository.platform value = true := by
  rw [jsonObject] at read
  split at read
  · next storable =>
      cases read
      exact ⟨rfl, storable⟩
  · cases read

/-- What a checked input keeps of the given one. -/
theorem normalizedInput_ok {input normal : PassiveEventInput Number}
    (read : repository.normalizedInput input = .ok normal) :
    normal = { input with
      machineId := lowerAscii input.machineId, eventId := lowerAscii input.eventId } ∧
      0 ≤ input.eventVersion ∧ 0 ≤ input.machineSequence ∧
        arePostgreSqlMembers repository.platform input.payload = true ∧
          lowerAscii input.machineId = repository.machineId := by
  simp only [normalizedInput, Except.bind_eq_ok] at read
  obtain ⟨_, eventRead, _, machineRead, rest⟩ := read
  split at rest
  · cases rest
  · next own =>
    rw [eventUuidV7_ok machineRead, not_not] at own
    simp only [Except.bind_eq_ok, Except.pure_eq_ok] at rest
    obtain ⟨_, versionRead, _, placeRead, _, typeRead, _, payloadRead, rfl⟩ := rest
    obtain ⟨rfl, storable⟩ := jsonObject_ok payloadRead
    have version := postgresqlInteger_ok versionRead
    have place := exactInboxBigInt_ok placeRead
    rw [eventUuid_ok eventRead, eventUuidV7_ok machineRead, version, place, nonblank_ok typeRead]
    exact ⟨rfl, by omega, by omega, storable, own⟩

theorem passiveEventFromRow_fields {inboxId : InboxId} {row : PassiveEventRow Number}
    {projectId : JsString} {record : PassiveEventRecord Number}
    (read : repository.passiveEventFromRow inboxId row projectId = .ok record) :
    record.inboxId = inboxId ∧ record.machineId = row.machineId ∧ record.eventId = row.eventId ∧
      record.eventVersion = row.eventVersion ∧ record.machineSequence = row.machineSequence ∧
        record.eventType = row.eventType ∧ record.payload = row.payload := by
  simp only [passiveEventFromRow, Except.bind_eq_ok] at read
  obtain ⟨_, eventRead, _, _, rest⟩ := read
  split at rest
  · cases rest
  · simp only [Except.bind_eq_ok, Except.pure_eq_ok] at rest
    obtain ⟨_, machineRead, _, _, _, idRead, _, versionRead, _, placeRead, _, typeRead, _,
      payloadRead, _, _, _, _, _, _, rfl⟩ := rest
    refine ⟨Int.ofNat.inj (exactInboxBigInt_ok idRead), ?_, ?_,
      Int.ofNat.inj (postgresqlInteger_ok versionRead),
      Int.ofNat.inj (exactInboxBigInt_ok placeRead), nonblank_ok typeRead,
      (jsonObject_ok payloadRead).1⟩
    · rw [eventUuidV7_ok machineRead, row.machineCanonical]
    · rw [eventUuid_ok eventRead, row.eventCanonical]

/-- A record that a read returns is the row of one of the keys. -/
theorem readEvents_mem {keys : List PassiveEventKey} {records : List (PassiveEventRecord Number)}
    (read : repository.readEvents keys inbox = .ok records) {record : PassiveEventRecord Number}
    (inside : record ∈ records) :
    ∃ inboxId row, inbox.get? inboxId = some row ∧
      repository.passiveEventFromRow inboxId row repository.projectId = .ok record ∧
        ∃ key ∈ keys, row.machineId = lowerAscii key.machineId := by
  simp only [readEvents, Except.bind_eq_ok] at read
  obtain ⟨_, _, normalized, keysRead, rows⟩ := read
  obtain ⟨⟨inboxId, row⟩, source, made⟩ := Except.mapM_mem rows inside
  obtain ⟨key, keyIn, located⟩ := List.mem_filterMap.mp source
  replace located := (Option.filter_eq_some_iff.mp located).1
  have matched := List.find?_some located
  simp only [Bool.decide_and, Bool.and_eq_true, decide_eq_true_eq] at matched
  obtain ⟨given, givenIn, checked⟩ := Except.mapM_mem keysRead keyIn
  simp only [Except.bind_eq_ok, Except.pure_eq_ok] at checked
  obtain ⟨_, _, _, machineRead, rfl⟩ := checked
  exact ⟨inboxId, row, KeyedTable.get?_eq_some.mpr (List.mem_of_find?_eq_some located), made, given,
    givenIn, matched.1.trans (eventUuidV7_ok machineRead)⟩

/-- A row after the insertion of a batch is an old row or one of the batch. -/
theorem insertRows_row {gap : Nat → Nat} {now : Nat → Instant}
    {inputs : List (PassiveEventInput Number)} {inboxId : InboxId} {row : PassiveEventRow Number}
    (found : (repository.insertRows gap now inputs inbox).get? inboxId = some row) :
    inbox.get? inboxId = some row ∨
      ∃ input ∈ inputs, ∃ time, row = repository.insertedRow input time := by
  rw [insertRows] at found
  have indexed : ∀ entry ∈ inputs.zipIdx, entry.1 ∈ inputs := fun entry inside =>
    List.fst_mem_of_mem_zipIdx inside
  generalize inputs.zipIdx = entries at found indexed
  induction entries generalizing inbox with
  | nil => exact .inl found
  | cons entry entries ih =>
      rcases ih found fun other inside => indexed other (List.mem_cons_of_mem _ inside) with old | new
      · rcases get?_insertOrIgnore old with stored | ⟨_, rfl⟩
        · exact .inl stored
        · exact .inr ⟨entry.1, indexed entry List.mem_cons_self, now entry.2, rfl⟩
      · exact .inr new

/-- A stored row stays under its identifier. -/
theorem insertRows_keeps {gap : Nat → Nat} {now : Nat → Instant}
    {inputs : List (PassiveEventInput Number)} {inboxId : InboxId} {row : PassiveEventRow Number}
    (found : inbox.get? inboxId = some row) :
    (repository.insertRows gap now inputs inbox).get? inboxId = some row := by
  rw [insertRows]
  generalize inputs.zipIdx = entries
  induction entries generalizing inbox with
  | nil => exact found
  | cons entry entries ih => exact ih (get?_insertOrIgnore_of_some found)

theorem insertedRow_carries {input : PassiveEventInput Number} (time : Instant)
    (version : 0 ≤ input.eventVersion) (place : 0 ≤ input.machineSequence) :
    (repository.insertedRow input time).Carries repository.platform input where
  machineId := rfl
  eventId := rfl
  eventVersion := Int.toNat_of_nonneg version
  machineSequence := Int.toNat_of_nonneg place
  eventType := rfl
  payload := rfl

/-- A stored row that carries an input is the same event as the input. -/
theorem sameEvent_of_carries (lawful : repository.platform.Lawful) {inboxId : InboxId}
    {row : PassiveEventRow Number} {record : PassiveEventRecord Number}
    {projectId : JsString} {input normal : PassiveEventInput Number}
    (read : repository.passiveEventFromRow inboxId row projectId = .ok record)
    (normalized : repository.normalizedInput input = .ok normal)
    (carries : row.Carries repository.platform input)
    (printable : arePostgreSqlMembers repository.platform input.payload = true →
      Json.Printable repository.platform.numbers.format (.object input.payload))
    (letters : ∀ member ∈ input.payload, member.1.all isAsciiLetter = true) :
    repository.sameEvent normal record = true := by
  obtain ⟨rfl, _, _, storable, _⟩ := normalizedInput_ok normalized
  obtain ⟨_, machineId, eventId, eventVersion, machineSequence, eventType, payload⟩ :=
    passiveEventFromRow_fields read
  have distinct : (input.payload.map Prod.fst).Nodup := by
    cases printable storable with
    | object distinct => exact distinct
  have order := lawful.jsonb input.payload storable (printable storable)
  have same : samePassiveEventPayload repository.platform (repository.platform.jsonb input.payload)
      input.payload = true := by
    apply samePassiveEventPayload_perm lawful order
    · exact (order.map Prod.fst).nodup_iff.mpr distinct
    · exact fun member inside => letters member (order.mem_iff.mp inside)
  simp only [sameEvent, machineId, eventId, eventVersion, machineSequence, eventType, payload,
    carries.machineId, carries.eventId, carries.eventVersion, carries.machineSequence,
    carries.eventType, carries.payload, same, beq_self_eq_true, Bool.and_self]

/-- A batch never collides with stored rows that carry its inputs. -/
theorem insertEvents_avoids (lawful : repository.platform.Lawful)
    {inputs : List (PassiveEventInput Number)} {gap : Nat → Nat} {now : Nat → Instant}
    (printable : ∀ input ∈ inputs, arePostgreSqlMembers repository.platform input.payload = true →
      Json.Printable repository.platform.numbers.format (.object input.payload))
    (letters : ∀ input ∈ inputs, ∀ member ∈ input.payload, member.1.all isAsciiLetter = true)
    (uploaded : ∀ input ∈ inputs, ∀ inboxId row, inbox.get? inboxId = some row →
      row.machineId = lowerAscii input.machineId → row.eventId = lowerAscii input.eventId →
        row.Carries repository.platform input) :
    (repository.insertEvents inputs gap now inbox).Avoids IsCollision := by
  apply (batchSize_avoids _).bind
  intro _ _
  apply (Except.Avoids.mapM fun input _ => normalizedInput_avoids input).bind
  intro normalized checked
  split
  · exact .error (not_isCollision (by decide))
  next distinct =>
  rw [not_not] at distinct
  apply Except.Avoids.bind
  · rw [transactionExecutor]
    split
    · exact .ok _
    · exact .ok _
    · exact .error (by rintro ⟨_, same⟩; cases same)
  intro _ _
  apply (readEvents_avoids _ _).bind
  intro records read
  split
  · exact .error (not_isCollision (by decide))
  apply Except.Avoids.bind
  · apply Except.Avoids.mapM
    intro normal inside
    split
    · exact .error (not_isCollision (by decide))
    next record found =>
    obtain ⟨inboxId, row, stored, made, key, keyIn, keyMachine⟩ :=
      readEvents_mem read (List.mem_of_find?_eq_some found)
    obtain ⟨input, member, normalizedTo⟩ := Except.mapM_mem checked inside
    have fields := normalizedInput_ok normalizedTo
    have own : ∀ other ∈ normalized, other.machineId = repository.machineId := by
      intro other otherIn
      obtain ⟨source, _, sourceTo⟩ := Except.mapM_mem checked otherIn
      obtain ⟨rfl, _, _, _, machine⟩ := normalizedInput_ok sourceTo
      exact machine
    have sameMachine : row.machineId = lowerAscii input.machineId := by
      obtain ⟨other, otherIn, rfl⟩ := List.mem_map.mp keyIn
      rw [keyMachine, own other otherIn, ← own normal inside, fields.1]
      exact lowerAscii_idempotent _
    have sameEventId : row.eventId = lowerAscii input.eventId := by
      have matched : record.eventId = normal.eventId := by simpa using List.find?_some found
      rw [← (passiveEventFromRow_fields made).2.2.1, matched, fields.1]
    -- The row is an old one, which carries the input, or the one that this input inserts.
    have carries : row.Carries repository.platform input := by
      rcases insertRows_row stored with old | ⟨other, otherIn, time, rfl⟩
      · exact uploaded input member inboxId row old sameMachine sameEventId
      · obtain ⟨source, sourceIn, sourceTo⟩ := Except.mapM_mem checked otherIn
        have same : other = normal := by
          apply List.inj_on_of_nodup_map distinct otherIn inside
          have canonical : lowerAscii other.eventId = other.eventId := by
            rw [(normalizedInput_ok sourceTo).1]
            exact lowerAscii_idempotent _
          rw [← canonical, fields.1]
          exact sameEventId
        subst same
        rw [fields.1]
        obtain ⟨machineId, eventId, version, place, type, payload⟩ :
            (repository.insertedRow { input with
              machineId := lowerAscii input.machineId, eventId := lowerAscii input.eventId }
                time).Carries repository.platform _ := insertedRow_carries time fields.2.1 fields.2.2.1
        exact ⟨machineId.trans (lowerAscii_idempotent _), eventId.trans (lowerAscii_idempotent _),
          version, place, type, payload⟩
    have same := sameEvent_of_carries lawful made normalizedTo carries (printable input member)
      (letters input member)
    rw [assertSameEvent, if_pos same]
    exact .ok _
  · exact fun _ _ => .ok _

/-- A batch that succeeds leaves the stored row of an input as it is and returns its record. -/
theorem insertEvents_replays {inputs : List (PassiveEventInput Number)} {gap : Nat → Nat}
    {now : Nat → Instant} {records : List (PassiveEventRecord Number)}
    (inserted : repository.insertEvents inputs gap now inbox = .ok (records, after))
    {input : PassiveEventInput Number} (inside : input ∈ inputs) {inboxId : InboxId}
    {row : PassiveEventRow Number} (stored : inbox.get? inboxId = some row)
    (machine : row.machineId = lowerAscii input.machineId)
    (event : row.eventId = lowerAscii input.eventId) :
    after.get? inboxId = some row ∧ ∃ record ∈ records, record.inboxId = inboxId ∧
      record.payload = row.payload := by
  simp only [insertEvents, Except.bind_eq_ok] at inserted
  obtain ⟨_, _, normalized, checked, rest⟩ := inserted
  split at rest
  · cases rest
  simp only [Except.bind_eq_ok] at rest
  obtain ⟨_, _, read, readEvents, rest⟩ := rest
  split at rest
  · cases rest
  simp only [Except.bind_eq_ok, Except.pure_eq_ok] at rest
  obtain ⟨found, results, same⟩ := rest
  cases same
  have kept : (repository.insertRows gap now normalized inbox).get? inboxId = some row :=
    insertRows_keeps stored
  obtain ⟨normal, normalIn, normalizedTo⟩ := Except.mapM_result checked inside
  obtain ⟨record, recordIn, made⟩ := Except.mapM_result results normalIn
  split at made
  · cases made
  next listed matched =>
  simp only [Except.bind_eq_ok, Except.pure_eq_ok] at made
  obtain ⟨_, asserted, rfl⟩ := made
  obtain ⟨otherId, other, otherStored, read, _⟩ :=
    readEvents_mem readEvents (List.mem_of_find?_eq_some matched)
  obtain ⟨sameId, sameMachine, sameEvent, _, _, _, samePayload⟩ := passiveEventFromRow_fields read
  have equal : repository.sameEvent normal listed = true := by
    rw [assertSameEvent] at asserted
    split at asserted
    · next same => exact same
    · cases asserted
  simp only [PassiveEventRepository.sameEvent, Bool.and_eq_true, beq_iff_eq] at equal
  obtain ⟨⟨⟨⟨⟨equalMachine, equalEvent⟩, _⟩, _⟩, _⟩, _⟩ := equal
  have fields := (normalizedInput_ok normalizedTo).1
  have one : otherId = inboxId := by
    apply unique _ _ _ other row otherStored kept
    refine ⟨?_, .inl ?_⟩
    · rw [machine, ← sameMachine, equalMachine, fields]
    · rw [event, ← sameEvent, equalEvent, fields]
  subst one
  rw [kept] at otherStored
  cases otherStored
  exact ⟨kept, listed, recordIn, sameId, samePayload⟩

end PassiveEventRepository

end Lcm.PassiveEvents
