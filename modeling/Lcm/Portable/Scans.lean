import Lcm.Portable.Source

namespace Lcm.Portable
open Text Migration

section Scanned

variable {Number : Type} (platform : PortablePlatform Number) (domain : PortableDomain)

/-- Two neighbours are of different records, and in order. -/
def Follows (previous record : PortableRecord) : Prop :=
  previous.identitySha256 ≠ record.identitySha256 ∧
    comparePortableOrder platform.utf8 previous.order record.order = .ok .lt

/-- A sequence of records as a scan accepts it. -/
structure Scanned (records : List PortableRecord) : Prop where
  domain_eq : ∀ record ∈ records, record.domain = domain
  contract : ∀ record ∈ records, validateDependencyContract record domain = .ok ()
  placed : ∀ (index : Nat) record, records[index]? = some record → record.ordinal = index
  follows : ∀ (index : Nat) previous record, records[index]? = some previous →
    records[index + 1]? = some record → Follows platform previous record

variable {platform domain} {records : List PortableRecord} {record : PortableRecord}

theorem scanned_nil : Scanned platform domain [] := by
  constructor <;> simp

theorem Scanned.concat (scanned : Scanned platform domain records) (inside : record.domain = domain)
    (contract : validateDependencyContract record domain = .ok ()) (placed : record.ordinal = records.length)
    (next : ∀ previous ∈ records.getLast?, Follows platform previous record) :
    Scanned platform domain (records ++ [record]) := by
  constructor
  · intro other found
    rcases List.mem_append.mp found with old | new
    · exact scanned.domain_eq other old
    · rw [List.mem_singleton.mp new, inside]
  · intro other found
    rcases List.mem_append.mp found with old | new
    · exact scanned.contract other old
    · rw [List.mem_singleton.mp new, contract]
  · intro index other found
    rcases lt_trichotomy index records.length with before | same | after
    · rw [List.getElem?_append_left before] at found
      exact scanned.placed index other found
    · subst same
      rw [List.getElem?_concat_length] at found
      cases found
      exact placed
    · rw [List.getElem?_eq_none (by simp; omega)] at found
      cases found
  · intro index previous other first second
    have inside : index + 1 < (records ++ [record]).length := (List.getElem?_eq_some_iff.mp second).1
    rw [List.length_append, List.length_singleton] at inside
    rw [List.getElem?_append_left (by omega)] at first
    rcases Nat.lt_or_ge (index + 1) records.length with before | last
    · rw [List.getElem?_append_left before] at second
      exact scanned.follows index previous other first second
    · have ends : records.length = index + 1 := by omega
      rw [← ends, List.getElem?_concat_length] at second
      cases second
      apply next
      rw [List.getLast?_eq_getElem?, ends]
      exact first

theorem Scanned.prefix (scanned : Scanned platform domain records) {part : List PortableRecord}
    (first : part <+: records) : Scanned platform domain part := by
  have at' : ∀ {index : Nat} {record : PortableRecord}, part[index]? = some record →
      records[index]? = some record := by
    intro index record found
    obtain ⟨rest, rfl⟩ := first
    rw [List.getElem?_append_left (List.getElem?_eq_some_iff.mp found).1]
    exact found
  constructor
  · exact fun record inside => scanned.domain_eq record (first.subset inside)
  · exact fun record inside => scanned.contract record (first.subset inside)
  · exact fun index record found => scanned.placed index record (at' found)
  · exact fun index previous record before found =>
      scanned.follows index previous record (at' before) (at' found)

end Scanned

section Prefixes

variable {records : List PortableRecord}

/-- The last record before an ordinal. -/
theorem take_getLast? {index : Nat} (inside : index ≤ records.length) :
    (records.take index).getLast? = if 0 < index then records[index - 1]? else none := by
  rw [List.getLast?_eq_getElem?, List.length_take_of_le inside]
  by_cases positive : 0 < index
  · rw [if_pos positive, List.getElem?_take_of_lt (by omega)]
  · have zero : index = 0 := by omega
    simp [zero]

/-- A page of the records goes on where the records before it end. -/
theorem take_append_page {first count : Nat} :
    records.take first ++ (records.drop first).take count = records.take (first + count) :=
  List.take_add.symm

theorem page_item {first count : Nat} {done rest : List PortableRecord} {record : PortableRecord}
    (page : (records.drop first).take count = done ++ record :: rest) :
    records[first + done.length]? = some record := by
  have found : ((records.drop first).take count)[done.length]? = some record := by
    rw [page, List.getElem?_append_right (Nat.le_refl _), Nat.sub_self]
    rfl
  rw [List.getElem?_take] at found
  split at found
  · rw [List.getElem?_drop] at found
    exact found
  · cases found

end Prefixes

section Pages

variable {Number : Type} {platform : PortablePlatform Number} {domain : PortableDomain}
  {source : FaithfulSource}

theorem orInvalid_eq_ok {result : Except PortableStreamError Unit} (ok : orInvalid result = .ok ()) :
    result = .ok () := by
  cases result with
  | ok value => rfl
  | error error => cases ok

theorem checkNeighbour_follows {prior : Option PortableRecord} {record : PortableRecord}
    (ok : checkNeighbour platform prior record = .ok ()) :
    ∀ previous ∈ prior, Follows platform previous record := by
  intro previous given
  cases given
  rw [checkNeighbour] at ok
  simp only [Except.bind_eq_ok, failWhen_eq_ok] at ok
  obtain ⟨_, different, comparison, compared, less⟩ := ok
  rw [not_not.mp less] at compared
  exact ⟨different, compared⟩

/-- A record that a scan accepts is the next one of its domain. -/
theorem scanSourceRecord_ok {project : Option Hash} {scan next : PageScan} {record : PortableRecord}
    (ok : scanSourceRecord platform domain project scan record = .ok next) :
    validateDependencyContract record domain = .ok () ∧ record.domain = domain ∧
      record.ordinal = scan.nextOrdinal ∧ (∀ previous ∈ scan.prior, Follows platform previous record) ∧
      next.nextOrdinal = scan.nextOrdinal + 1 ∧ next.prior = some record ∧
      next.prefixSha256 = appendLengthPrefixed platform scan.prefixSha256 record.bytes := by
  rw [scanSourceRecord] at ok
  simp only [Except.bind_eq_ok, failWhen_eq_ok, Except.pure_eq_ok] at ok
  obtain ⟨_, contract, _, placed, _, neighbour, _, _, _, _, rfl⟩ := ok
  rw [not_or, not_or, not_not, not_not] at placed
  exact ⟨orInvalid_eq_ok contract, placed.2.1, placed.2.2, checkNeighbour_follows neighbour, rfl, rfl, rfl⟩

variable (platform domain) in
/-- A scan has come to an ordinal of the sequence. -/
structure DomainScan.At (records : List PortableRecord) (scan : DomainScan) : Prop where
  inside : scan.nextOrdinal ≤ records.length
  scanned : Scanned platform domain (records.take scan.nextOrdinal)
  prefix_eq : scan.prefixSha256 = Portable.prefixSha256 platform domain (records.take scan.nextOrdinal)

theorem readDomainPage_predecessor {after : Nat} (inside : after ≤ (source.records domain).length) :
    (source.readDomainPage domain after (0 < after)).predecessor =
      ((source.records domain).take after).getLast? := by
  rw [take_getLast? inside]
  simp [FaithfulSource.readDomainPage]

/-- A page that a scan accepts takes it on by the records of the page. -/
theorem scanSourcePage_at {project : Option Hash} {scan next : DomainScan}
    (reached : scan.At platform domain (source.records domain))
    (ok : scanSourcePage platform domain project
      (source.readDomainPage domain scan.nextOrdinal (0 < scan.nextOrdinal)) scan = .ok next) :
    next.At platform domain (source.records domain) ∧ next.nextOrdinal = min (source.records domain).length
      (scan.nextOrdinal + source.pageLength domain scan.nextOrdinal) := by
  have inside := reached.inside
  rw [scanSourcePage] at ok
  simp only [Except.bind_eq_ok, Except.pure_eq_ok] at ok
  obtain ⟨_, _, _, _, _, _, scanned, ran, _, _, rfl⟩ := ok
  rw [readDomainPage_predecessor inside] at ran
  have run := Except.foldlM_ok
    (fun done (page : PageScan) =>
      page.nextOrdinal = scan.nextOrdinal + done.length ∧
        Scanned platform domain ((source.records domain).take scan.nextOrdinal ++ done) ∧
        page.prefixSha256 =
          prefixSha256 platform domain ((source.records domain).take scan.nextOrdinal ++ done) ∧
        page.prior = ((source.records domain).take scan.nextOrdinal ++ done).getLast?)
    (by simp [reached.scanned, reached.prefix_eq]) ?_ ran
  · obtain ⟨ordinal, kept, digest, _⟩ := run
    have page : (source.records domain).take scan.nextOrdinal ++
        (source.readDomainPage domain scan.nextOrdinal (0 < scan.nextOrdinal)).records =
          (source.records domain).take scanned.nextOrdinal := by
      rw [ordinal]
      simp only [FaithfulSource.readDomainPage, List.length_take, List.length_drop]
      rw [take_append_page]
      rw [List.take_eq_take_iff]
      omega
    have length : scanned.nextOrdinal = min (source.records domain).length
        (scan.nextOrdinal + source.pageLength domain scan.nextOrdinal) := by
      rw [ordinal]
      simp only [FaithfulSource.readDomainPage, List.length_take, List.length_drop]
      omega
    rw [page] at kept digest
    exact ⟨⟨length ▸ Nat.min_le_left .., kept, digest⟩, length⟩
  · intro done record rest before after page ⟨ordinal, kept, digest, prior⟩ step
    obtain ⟨contract, same, placed, next, counted, last, appended⟩ := scanSourceRecord_ok step
    rw [← List.append_assoc]
    refine ⟨?_, kept.concat same contract ?_ (prior ▸ next), ?_, ?_⟩
    · rw [counted, ordinal, List.length_append, List.length_singleton, Nat.add_assoc]
    · rw [placed, ordinal, List.length_append, List.length_take_of_le inside]
    · rw [appended, digest, prefixSha256_append]
    · rw [last, List.getLast?_concat]

/-- The pages of a domain end with its last record. -/
theorem scanPages_at {project : Option Hash} {pages : Nat} {scan last : DomainScan}
    (reached : scan.At platform domain (source.records domain))
    (ok : scanPages platform source domain project pages scan = .ok last) :
    last.At platform domain (source.records domain) ∧
      last.nextOrdinal = (source.records domain).length := by
  induction pages generalizing scan with
  | zero => cases ok
  | succ pages ih =>
      rw [scanPages] at ok
      obtain ⟨next, page, rest⟩ := Except.bind_eq_ok.mp ok
      obtain ⟨moved, counted⟩ := scanSourcePage_at reached page
      by_cases complete :
          (source.readDomainPage domain scan.nextOrdinal (0 < scan.nextOrdinal)).complete = true
      · rw [if_pos complete] at rest
        cases rest
        have ends : (source.records domain).length ≤
            scan.nextOrdinal + source.pageLength domain scan.nextOrdinal := of_decide_eq_true complete
        exact ⟨moved, by omega⟩
      · rw [if_neg complete] at rest
        exact ih moved rest

theorem scanDomain_at {project : Option Hash} {pages : Nat} {last : DomainScan}
    (ok : scanDomain platform pages source domain project = .ok last) :
    last.At platform domain (source.records domain) ∧
      last.nextOrdinal = (source.records domain).length := by
  have start : DomainScan.At platform domain (source.records domain)
      ⟨0, initialDomainPrefix platform domain, none, none⟩ := ⟨Nat.zero_le _, scanned_nil, rfl⟩
  rw [scanDomain] at ok
  split at ok
  · next evidence covered =>
      cases ok
      refine ⟨start, ?_⟩
      rw [source.empty domain evidence covered]
      rfl
  · exact scanPages_at start ok

end Pages

section Manifests

variable {Number : Type} {platform : PortablePlatform Number} {source : FaithfulSource}

theorem mem_portableRecordDomainOrder (domain : PortableDomain) : domain ∈ portableRecordDomainOrder := by
  cases domain <;> decide

theorem portableRecordDomainOrder_nodup : portableRecordDomainOrder.Nodup := by decide

/-- What a manifest says of a domain whose records a scan accepted. -/
structure Described (platform : PortablePlatform Number) (domain : PortableDomain)
    (records : List PortableRecord) (manifest : PortableDomainManifest) : Prop where
  scanned : Scanned platform domain records
  recordCount : manifest.recordCount = records.length
  prefix_eq : manifest.prefixSha256 = prefixSha256 platform domain records

theorem scanNext_domains {pages : Nat} {scan next : ManifestScan} {domain : PortableDomain}
    (ok : scanNext platform pages source scan domain = .ok next) :
    Described platform domain (source.records domain) (next.domains domain) ∧
      ∀ other, other ≠ domain → next.domains other = scan.domains other := by
  rw [scanNext] at ok
  simp only [Except.bind_eq_ok, Except.pure_eq_ok] at ok
  obtain ⟨entry, made, _, _, rfl⟩ := ok
  obtain ⟨reached, counted⟩ := scanDomain_at made
  have scanned := reached.scanned
  have digest := reached.prefix_eq
  rw [counted, List.take_length] at scanned digest
  constructor
  · show Described platform domain _ (Function.update scan.domains domain _ domain)
    rw [Function.update_self]
    exact ⟨scanned, counted, digest⟩
  · exact fun other different => Function.update_of_ne different _ _

/-- The manifest of a source describes the sequence of every domain. -/
theorem buildManifest_described {pages : Nat} {manifest : PortableManifest}
    (ok : buildManifest platform pages source = .ok manifest) :
    manifest.source = source.description ∧ ∀ domain,
      Described platform domain (source.records domain) (manifest.domains domain) ∧
        (source.records domain).length ≤ maxSafeNatural := by
  rw [buildManifest] at ok
  obtain ⟨scan, ran, made⟩ := Except.bind_eq_ok.mp ok
  have described := Except.foldlM_ok
    (fun done (scan : ManifestScan) => ∀ domain ∈ done,
      Described platform domain (source.records domain) (scan.domains domain))
    (fun _ outside => (List.not_mem_nil outside).elim) ?_ ran
  · rw [createPortableManifest] at made
    simp only [Except.bind_eq_ok, failWhen_eq_ok, Except.pure_eq_ok] at made
    obtain ⟨_, safe, rfl⟩ := made
    refine ⟨rfl, fun domain => ⟨described domain (mem_portableRecordDomainOrder domain), ?_⟩⟩
    rw [← (described domain (mem_portableRecordDomainOrder domain)).recordCount]
    by_contra unsafe'
    exact safe ⟨domain, mem_portableRecordDomainOrder domain, Nat.lt_of_not_le unsafe'⟩
  · intro done domain rest before after whole kept step other inside
    obtain ⟨described, others⟩ := scanNext_domains step
    rcases List.mem_append.mp inside with old | new
    · have nodup := portableRecordDomainOrder_nodup
      rw [whole] at nodup
      have different : other ≠ domain := by
        intro same
        subst same
        exact List.disjoint_of_nodup_append nodup old (List.mem_cons_self ..)
      rw [others other different]
      exact kept other old
    · rw [List.mem_singleton.mp new]
      exact described

end Manifests

namespace PortableRecordStream

variable {Number : Type} {platform : PortablePlatform Number} (stream : PortableRecordStream platform)

theorem source_eq : stream.manifest.source = stream.source.description := by
  obtain ⟨pages, built⟩ := stream.created
  exact (buildManifest_described built).1

theorem described (domain : PortableDomain) : Described platform domain (stream.source.records domain)
    (stream.manifest.domains domain) := by
  obtain ⟨pages, built⟩ := stream.created
  exact ((buildManifest_described built).2 domain).1

theorem length_safe (domain : PortableDomain) :
    (stream.source.records domain).length ≤ maxSafeNatural := by
  obtain ⟨pages, built⟩ := stream.created
  exact ((buildManifest_described built).2 domain).2

end PortableRecordStream

end Lcm.Portable
