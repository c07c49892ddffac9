import Lcm.Portable.Index

namespace Lcm.Portable
open Text Migration OrderCodes

namespace PortableIndex

/-- The calls that write the records of an index. -/
inductive RecordCall where
  | add (locator : JsString) (record : PortableRecord) (byteLength : Option Nat)
  | finalizeDomain (domain : PortableDomain)

def RecordCall.call : RecordCall → IndexCall Unit
  | .add locator record byteLength => PortableIndex.add locator record byteLength
  | .finalizeDomain domain => PortableIndex.finalizeDomain domain

/-- A new index after some calls, whether they failed or not. -/
def recorded (maxMetadataBytes : Nat) (calls : List RecordCall) : PortableIndex :=
  calls.foldl (fun index call => (call.call index).2) (create maxMetadataBytes)

/-- The place of a record in its domain. -/
def recordKey (entry : (PortableDomain × JsString) × IndexRecord) : List Nat :=
  entry.2.sortKey.map UInt8.toNat

theorem numberRecords_eq (domain : PortableDomain)
    (records : KeyedTable (PortableDomain × JsString) IndexRecord) (ordinal : Nat)
    (locators : List JsString) : numberRecords domain records ordinal locators =
      records.updateAll ((locators.zipIdx ordinal).map fun place =>
        ((domain, place.1), fun row => { row with ordinal := place.2 })) := by
  induction locators generalizing records ordinal with
  | nil => rfl
  | cons locator locators ih =>
      rw [numberRecords, ih, List.zipIdx_cons, List.map_cons, KeyedTable.updateAll, KeyedTable.updateAll,
        List.foldl_cons]

/-- What holds of the records of an index: they are encoded, no two of a domain have one sort key, and a
finalized domain is numbered in the order of the keys. -/
structure Indexed (index : PortableIndex) : Prop where
  encoded : ∀ {entry}, entry ∈ index.records.entries →
    encodePortableIndexOrder entry.2.order = some entry.2.sortKey
  distinct : ∀ {first second}, first ∈ index.records.entries → second ∈ index.records.entries →
    first.1.1 = second.1.1 → recordKey first = recordKey second → first = second
  numbered : ∀ {domain}, index.domains.get? domain = some true →
    ∀ {first second}, first ∈ index.records.entries → second ∈ index.records.entries →
      first.1.1 = domain → second.1.1 = domain →
        (first.2.ordinal < second.2.ordinal ↔ recordKey first < recordKey second)

theorem indexed_create (maxMetadataBytes : Nat) : (create maxMetadataBytes).Indexed :=
  ⟨nofun, nofun, nofun⟩

/-- The records of an index do not depend on its flag. -/
theorem Indexed.poison {index : PortableIndex} (indexed : index.Indexed) :
    Indexed { index with failed := true } := ⟨indexed.encoded, indexed.distinct, indexed.numbered⟩

/-- The entries of one domain. -/
def domainEntries (index : PortableIndex) (domain : PortableDomain) :
    List ((PortableDomain × JsString) × IndexRecord) :=
  index.records.entries.filter fun entry => entry.1.1 = domain

/-- The locators of a domain are distinct. -/
theorem sortedLocators_nodup (index : PortableIndex) (domain : PortableDomain) :
    (index.sortedLocators domain).Nodup := by
  have filtered : ((index.domainEntries domain).map Prod.fst).Nodup :=
    index.records.distinct.sublist (List.filter_sublist.map _)
  have reordered : (sortedBy recordKey (index.domainEntries domain)).Perm (index.domainEntries domain) :=
    SortedBy.perm _
  have keys := (reordered.map Prod.fst).nodup_iff.mpr filtered
  have inDomain : ∀ entry ∈ sortedBy recordKey (index.domainEntries domain), entry.1.1 = domain := by
    intro entry inside
    have member := (SortedBy.perm _).mem_iff.mp inside
    simpa using (List.mem_filter.mp member).2
  rw [List.nodup_map_iff_inj_on (List.Nodup.of_map _ keys)] at keys
  show ((sortedBy recordKey (index.domainEntries domain)).map fun entry => entry.1.2).Nodup
  rw [List.nodup_map_iff_inj_on]
  · intro first firstIn second secondIn same
    apply keys first firstIn second secondIn
    exact Prod.ext ((inDomain first firstIn).trans (inDomain second secondIn).symm) same
  · exact (SortedBy.perm _).nodup_iff.mpr (index.records.entries_nodup.filter _)

/-- A finalization changes only ordinals, and those of its domain into places in the order of the keys. -/
theorem numbered_entry {index : PortableIndex} {domain : PortableDomain}
    {entry : (PortableDomain × JsString) × IndexRecord}
    (inside : entry ∈ (numberRecords domain index.records 0 (index.sortedLocators domain)).entries) :
    ∃ old ∈ index.records.entries, old.1 = entry.1 ∧
      entry.2 = { old.2 with ordinal := entry.2.ordinal } ∧ (entry.1.1 ≠ domain → entry = old) ∧
      (entry.1.1 = domain → ∃ place : Nat, entry.2.ordinal = place ∧
        (sortedBy recordKey (index.domainEntries domain))[place]? = some old) := by
  obtain ⟨⟨name, locator⟩, row⟩ := entry
  have found := KeyedTable.get?_eq_some.mpr inside
  rw [numberRecords_eq] at found
  have names : ((index.sortedLocators domain).zipIdx.map fun place =>
      ((domain, place.1), fun row : IndexRecord => { row with ordinal := place.2 })).map Prod.fst =
        (index.sortedLocators domain).map fun locator => (domain, locator) := by
    have places := congrArg (List.map fun locator => (domain, locator))
      (List.zipIdx_map_fst 0 (index.sortedLocators domain))
    rw [List.map_map] at places
    rw [List.map_map]
    exact places
  by_cases here : name = domain
  · subst here
    have known : (name, locator) ∈ index.records.keys := by
      rw [← KeyedTable.keys_updateAll index.records]
      exact KeyedTable.mem_keys.mpr ⟨row, KeyedTable.get?_eq_some.mp found⟩
    obtain ⟨old, stored⟩ := KeyedTable.mem_keys.mp known
    have member : ((name, locator), old) ∈ sortedBy recordKey (index.domainEntries name) :=
      (SortedBy.perm _).mem_iff.mpr (List.mem_filter.mpr ⟨stored, by simp⟩)
    obtain ⟨place, placed⟩ := List.mem_iff_getElem?.mp member
    have listed : (index.sortedLocators name)[place]? = some locator := by
      have mapped := congrArg (Option.map fun entry : (PortableDomain × JsString) × IndexRecord =>
        entry.1.2) placed
      rwa [← List.getElem?_map] at mapped
    have change := List.mem_map_of_mem (f := fun place : JsString × Nat =>
      ((name, place.1), fun row : IndexRecord => { row with ordinal := place.2 }))
      (List.mk_mem_zipIdx_iff_getElem?.mpr listed)
    rw [KeyedTable.get?_updateAll _ change, KeyedTable.get?_eq_some.mpr stored, Option.map_some] at found
    · cases found
      exact ⟨_, stored, rfl, rfl, fun other => absurd rfl other, fun _ => ⟨place, rfl, placed⟩⟩
    · rw [names]
      exact (index.sortedLocators_nodup name).map fun _ _ same => (Prod.mk.inj same).2
  · rw [KeyedTable.get?_updateAll_of_notMem] at found
    · exact ⟨_, KeyedTable.get?_eq_some.mp found, rfl, rfl, fun _ => rfl, fun same => absurd same here⟩
    · rw [names]
      intro member
      obtain ⟨_, _, same⟩ := List.mem_map.mp member
      exact here (Prod.mk.inj same).1.symm

/-- A record that is inserted has a fresh sort key in its domain. -/
theorem insertRecord_eq_some {index : PortableIndex} {domain : PortableDomain} {locator : JsString}
    {row : IndexRecord} {records : KeyedTable (PortableDomain × JsString) IndexRecord}
    (inserted : index.insertRecord domain locator row = some records) :
    records.entries = index.records.entries ++ [((domain, locator), row)] ∧
      ∀ entry ∈ index.records.entries, entry.1.1 = domain → entry.2.sortKey ≠ row.sortKey := by
  rw [insertRecord] at inserted
  split at inserted
  · cases inserted
  · next free =>
      refine ⟨(KeyedTable.insert?_eq_some.mp inserted).2, fun entry inside sameDomain same => free ?_⟩
      rw [List.any_eq_true]
      refine ⟨entry.2, List.mem_map.mpr ⟨entry, List.mem_filter.mpr ⟨inside, by simpa using sameDomain⟩, rfl⟩, ?_⟩
      simp [same]

/-- A record that an index accepts was encoded, in a domain that was open. -/
theorem add_after (index : PortableIndex) (locator : JsString) (record : PortableRecord)
    (byteLength : Option Nat) :
    (∃ sortKey records, encodePortableIndexOrder record.order = some sortKey ∧
        index.domains.get? record.domain ≠ some true ∧
        index.insertRecord record.domain locator ⟨-1, sortKey, record.order, record.identitySha256,
          record.recordSha256, byteLength.elim (-1) Int.ofNat⟩ = some records ∧
        (add locator record byteLength index).2 = { index with
          domains := index.domains.insertOrIgnore record.domain false
          records := records
          dependencies := index.dependencies ++ record.dependencies }) ∨
      (add locator record byteLength index).1 ≠ .ok () ∧ ((add locator record byteLength index).2 = index ∨
        (add locator record byteLength index).2 = { index with failed := true }) := by
  rw [add, checked]
  split
  · exact .inr ⟨nofun, .inl rfl⟩
  · next sortKey passed =>
      simp only [Except.bind_eq_ok, refuseWhen_eq_ok, sortKeyOf_eq_ok] at passed
      obtain ⟨_, _, _, _, _, _, encoded⟩ := passed
      rcases sql_after index _ with ⟨value, after, acted, ran⟩ | ⟨failed, left⟩
      · rw [ran]
        simp only [Except.bind_eq_ok, Except.pure_eq_ok, refuseWhen_eq_ok, constraint_eq_ok] at acted
        obtain ⟨_, unsealed, records, inserted, result⟩ := acted
        cases result
        exact .inl ⟨sortKey, records, encoded, unsealed, inserted, rfl⟩
      · exact .inr ⟨failed (), left⟩

namespace Indexed

variable {index : PortableIndex}

theorem add (indexed : index.Indexed) (locator : JsString) (record : PortableRecord)
    (byteLength : Option Nat) : (PortableIndex.add locator record byteLength index).2.Indexed := by
  rcases add_after index locator record byteLength with
    ⟨sortKey, records, encoded, unsealed, inserted, after⟩ | ⟨_, unchanged | poisoned⟩
  · rw [after]
    obtain ⟨entries, fresh⟩ := insertRecord_eq_some inserted
    refine ⟨?_, ?_, ?_⟩
    · intro entry inside
      rw [show records.entries = _ from entries] at inside
      rcases List.mem_append.mp inside with old | new
      · exact indexed.encoded old
      · rw [List.mem_singleton.mp new]
        exact encoded
    · intro first second firstIn secondIn sameDomain sameKey
      rw [show records.entries = _ from entries] at firstIn secondIn
      have apart : ∀ entry ∈ index.records.entries, entry.1.1 = record.domain →
          entry.2.sortKey.map UInt8.toNat ≠ sortKey.map UInt8.toNat :=
        fun entry inside here same => fresh entry inside here (map_toNat_inj same)
      rcases List.mem_append.mp firstIn with firstOld | firstNew
      · rcases List.mem_append.mp secondIn with secondOld | secondNew
        · exact indexed.distinct firstOld secondOld sameDomain sameKey
        · rw [List.mem_singleton.mp secondNew] at sameDomain sameKey
          exact absurd sameKey (apart first firstOld sameDomain)
      · rw [List.mem_singleton.mp firstNew] at sameDomain sameKey ⊢
        rcases List.mem_append.mp secondIn with secondOld | secondNew
        · exact absurd sameKey.symm (apart second secondOld sameDomain.symm)
        · exact (List.mem_singleton.mp secondNew).symm
    · intro domain sealed first second firstIn secondIn firstDomain secondDomain
      have sealedBefore : index.domains.get? domain = some true := by
        rcases KeyedTable.get?_insertOrIgnore_eq_some.mp sealed with before | ⟨_, _, new⟩
        · exact before
        · cases new
      have other : record.domain ≠ domain := fun same => unsealed (same ▸ sealedBefore)
      have old : ∀ {entry}, entry ∈ records.entries → entry.1.1 = domain → entry ∈ index.records.entries := by
        intro entry inside here
        rw [entries] at inside
        rcases List.mem_append.mp inside with old | new
        · exact old
        · rw [List.mem_singleton.mp new] at here
          exact absurd here other
      exact indexed.numbered sealedBefore (old firstIn firstDomain) (old secondIn secondDomain) firstDomain
        secondDomain
  · rw [unchanged]
    exact indexed
  · rw [poisoned]
    exact indexed.poison

theorem finalizeDomain (indexed : index.Indexed) (domain : PortableDomain) :
    (PortableIndex.finalizeDomain domain index).2.Indexed := by
  rw [PortableIndex.finalizeDomain]
  rcases sql_after index _ with ⟨value, after, acted, ran⟩ | ⟨_, unchanged | poisoned⟩
  · rw [ran]
    cases acted
    refine ⟨?_, ?_, ?_⟩
    · intro entry inside
      obtain ⟨old, stored, _, row, _, _⟩ := numbered_entry inside
      rw [row]
      exact indexed.encoded stored
    · intro first second firstIn secondIn sameDomain sameKey
      obtain ⟨oldFirst, firstStored, firstName, firstRow, _, _⟩ := numbered_entry firstIn
      obtain ⟨oldSecond, secondStored, secondName, secondRow, _, _⟩ := numbered_entry secondIn
      rw [recordKey, recordKey, firstRow, secondRow] at sameKey
      have same := indexed.distinct firstStored secondStored
        (by rw [firstName, secondName]; exact sameDomain) sameKey
      subst same
      have names : first.1 = second.1 := firstName.symm.trans secondName
      have moved : (first.1, second.2) ∈
          (numberRecords domain index.records 0 (index.sortedLocators domain)).entries := names ▸ secondIn
      exact Prod.ext names (KeyedTable.entry_unique firstIn moved)
    · intro other sealed first second firstIn secondIn firstDomain secondDomain
      obtain ⟨oldFirst, firstStored, firstName, firstRow, firstKept, firstPlaced⟩ := numbered_entry firstIn
      obtain ⟨oldSecond, secondStored, secondName, secondRow, secondKept, secondPlaced⟩ :=
        numbered_entry secondIn
      by_cases here : other = domain
      · subst here
        obtain ⟨firstPlace, firstOrdinal, firstAt⟩ := firstPlaced firstDomain
        obtain ⟨secondPlace, secondOrdinal, secondAt⟩ := secondPlaced secondDomain
        have inDomain : ∀ entry ∈ index.domainEntries other, entry ∈ index.records.entries ∧
            entry.1.1 = other := fun entry inside => by simpa [domainEntries] using inside
        have places := SortedBy.place_lt_iff (fun one oneIn two twoIn sameKey =>
          indexed.distinct (inDomain one oneIn).1 (inDomain two twoIn).1
            ((inDomain one oneIn).2.trans (inDomain two twoIn).2.symm) sameKey)
          (index.records.entries_nodup.filter _) firstAt secondAt
        rw [firstOrdinal, secondOrdinal, Int.ofNat_lt, places, recordKey, recordKey, recordKey, recordKey,
          firstRow, secondRow]
      · have before : index.domains.get? other = some true := by
          rw [KeyedTable.get?_put, if_neg here] at sealed
          exact sealed
        obtain rfl := firstKept (firstDomain ▸ here)
        obtain rfl := secondKept (secondDomain ▸ here)
        exact indexed.numbered before firstStored secondStored firstDomain secondDomain
  · rw [unchanged]
    exact indexed
  · rw [poisoned]
    exact indexed.poison

theorem run {index : PortableIndex} (indexed : index.Indexed) (calls : List RecordCall) :
    (calls.foldl (fun index call => (call.call index).2) index).Indexed := by
  induction calls generalizing index with
  | nil => exact indexed
  | cons call calls ih =>
      apply ih
      cases call with
      | add locator record byteLength => exact indexed.add locator record byteLength
      | finalizeDomain domain => exact indexed.finalizeDomain domain

end Indexed

/-- The codec's comparison and the sort keys agree on stored records of one domain with orders of one
length. -/
theorem Indexed.compare_orders {index : PortableIndex} (indexed : index.Indexed)
    {first second : (PortableDomain × JsString) × IndexRecord} (firstIn : first ∈ index.records.entries)
    (secondIn : second ∈ index.records.entries)
    (sameLength : first.2.order.length = second.2.order.length) :
    recordKey first < recordKey second ↔
      comparePortableOrder encodeUtf8 first.2.order second.2.order = .ok .lt := by
  have keys := compareBytes_encode sameLength (indexed.encoded firstIn) (indexed.encoded secondIn)
  rw [comparePortableOrder, if_neg (not_not_intro sameLength), Except.ok.injEq, ← keys, compareBytes,
    compare_numbers]
  exact Iff.rfl

/-- The sort key is an exact order embedding: sort keys compare as the codec compares the tuples, and only
equal tuples have equal keys. In every run, the ordinals of a finalized domain follow the codec's order, and
a record whose order equals a stored one is refused. -/
theorem sortKey_exact :
    (∀ left right : List PortableOrderScalar, left.length = right.length →
      (∀ scalar ∈ left, validateOrderScalar scalar = true) →
      (∀ scalar ∈ right, validateOrderScalar scalar = true) →
        ∃ leftKey rightKey, encodePortableIndexOrder left = some leftKey ∧
          encodePortableIndexOrder right = some rightKey ∧
          comparePortableOrder encodeUtf8 left right = .ok (compareBytes leftKey rightKey) ∧
          (leftKey = rightKey ↔ left = right)) ∧
    ∀ maxMetadataBytes calls domain,
      (∀ first ∈ (recorded maxMetadataBytes calls).records.entries,
        ∀ second ∈ (recorded maxMetadataBytes calls).records.entries, first.1.1 = domain →
          second.1.1 = domain → first.2.order.length = second.2.order.length →
            (recorded maxMetadataBytes calls).domains.get? domain = some true →
              (first.2.ordinal < second.2.ordinal ↔
                comparePortableOrder encodeUtf8 first.2.order second.2.order = .ok .lt)) ∧
      ∀ locator record byteLength, record.domain = domain →
        (∃ stored ∈ (recorded maxMetadataBytes calls).records.entries, stored.1.1 = domain ∧
          comparePortableOrder encodeUtf8 stored.2.order record.order = .ok .eq) →
            (add locator record byteLength (recorded maxMetadataBytes calls)).1 ≠ .ok () := by
  refine ⟨?_, fun maxMetadataBytes calls domain => ?_⟩
  · intro left right sameLength leftValid rightValid
    have leftEncoded := encodePortableIndexOrder_eq_some.mpr ⟨leftValid, rfl⟩
    have rightEncoded := encodePortableIndexOrder_eq_some.mpr ⟨rightValid, rfl⟩
    refine ⟨_, _, leftEncoded, rightEncoded, ?_, ?_, ?_⟩
    · rw [compareBytes_encode sameLength leftEncoded rightEncoded, comparePortableOrder,
        if_neg (not_not_intro sameLength)]
    · intro same
      exact encodePortableIndexOrder_inj sameLength leftEncoded (same ▸ rightEncoded)
    · intro same
      rw [same]
  · have indexed : (recorded maxMetadataBytes calls).Indexed := (indexed_create maxMetadataBytes).run calls
    refine ⟨?_, ?_⟩
    · intro first firstIn second secondIn firstDomain secondDomain sameLength sealed
      rw [indexed.numbered sealed firstIn secondIn firstDomain secondDomain]
      exact indexed.compare_orders firstIn secondIn sameLength
    · rintro locator record byteLength rfl ⟨stored, inside, sameDomain, equal⟩ accepted
      rcases add_after (recorded maxMetadataBytes calls) locator record byteLength with
        ⟨sortKey, records, encoded, _, inserted, _⟩ | ⟨refused, _⟩
      · rw [comparePortableOrder] at equal
        split at equal
        · cases equal
        · next sameLength =>
            rw [Except.ok.injEq, ← compareBytes_encode (not_not.mp sameLength) (indexed.encoded inside) encoded]
              at equal
            exact (insertRecord_eq_some inserted).2 stored inside sameDomain (compareBytes_eq equal)
      · exact refused accepted

end PortableIndex

end Lcm.Portable
