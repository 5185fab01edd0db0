import KeyCustody.Google.Key
import KeyCustody.Proofs.Timestamp

namespace KeyCustody.Google

section Kept
variable (key : Key)

theorem isMultisigKey_iff :
    key.isMultisigKey = true ↔ key.purpose = "ASYMMETRIC_SIGN" ∧
      key.versionTemplate = some (.object
        [("algorithm", .text "EC_SIGN_SECP256K1_SHA256"), ("protectionLevel", .text "HSM")]) := by
  rw [Key.isMultisigKey, Bool.and_eq_true, beq_iff_eq]
  refine and_congr_right fun _ => ?_
  unfold isSigningTemplate
  constructor
  · intro template
    split at template
    · next form =>
      simp only [Bool.and_eq_true, beq_iff_eq] at template
      obtain ⟨⟨⟨rfl, rfl⟩, rfl⟩, rfl⟩ := template
      exact form
    · cases template
  · intro form
    rw [form]
    decide

def instant? (text : String) : Option Time.Instant :=
  (Time.parse (Text.encode text)).toOption

theorem dated_ok_iff (dated : Time.Instant × KeyRecord) :
    key.dated = .ok dated ↔ instant? key.createTime = some dated.1 ∧ dated.2 = .ofKey key := by
  obtain ⟨instant, record⟩ := dated
  unfold Key.dated Key.created instant?
  cases Time.parse (Text.encode key.createTime) with
  | error fault => simp [error_bind, Except.toOption]
  | ok found => simp [ok_bind, Except.toOption, eq_comm]

theorem dated_error_iff (failure : Failure) :
    key.dated = .error failure ↔ ∃ fault, Time.parse (Text.encode key.createTime) = .error fault ∧
      failure = .timestamp key.name key.createTime fault := by
  unfold Key.dated Key.created
  cases Time.parse (Text.encode key.createTime) with
  | error fault => simp [error_bind, eq_comm]
  | ok found => simp [ok_bind]

theorem exists_dated_iff :
    (∃ dated, key.dated = .ok dated) ↔ ∃ instant, instant? key.createTime = some instant := by
  constructor
  · rintro ⟨dated, found⟩
    exact ⟨dated.1, ((dated_ok_iff key dated).mp found).1⟩
  · rintro ⟨instant, found⟩
    exact ⟨(instant, .ofKey key), (dated_ok_iff key _).mpr ⟨found, rfl⟩⟩

end Kept

section Dated

def IsDated (key : Key) (dated : Time.Instant × KeyRecord) : Prop :=
  instant? key.createTime = some dated.1 ∧ dated.2 = .ofKey key

def earlier (a b : Time.Instant × KeyRecord) : Bool :=
  a.1.le b.1

variable {kept : List Key} {dated : List (Time.Instant × KeyRecord)}

theorem records_dated (each : List.Forall₂ IsDated kept dated) :
    dated.map (·.2) = kept.map KeyRecord.ofKey := by
  induction each with
  | nil => rfl
  | cons first rest ih => rw [List.map_cons, List.map_cons, ih, first.2]

theorem instant?_dated (each : List.Forall₂ IsDated kept dated) {d : Time.Instant × KeyRecord}
    (member : d ∈ dated) : instant? d.2.createTime = some d.1 := by
  induction each with
  | nil => cases member
  | cons first rest ih =>
    rcases List.mem_cons.mp member with rfl | later
    · rw [first.2]
      exact first.1
    · exact ih later

-- Seen from its record, a dated key has the instant that it was given.
theorem filter_dated (each : List.Forall₂ IsDated kept dated) (i : Time.Instant)
    {some : List (Time.Instant × KeyRecord)} (among : ∀ d ∈ some, d ∈ dated) :
    (some.map (·.2)).filter (fun r => instant? r.createTime = .some i) =
      (some.filter (fun d => d.1 = i)).map (·.2) := by
  rw [List.filter_map]
  congr 1
  apply List.filter_congr
  intro d member
  simp [instant?_dated each (among d member)]

end Dated

/-- The records of the kept keys and nothing else, by age; those of one age as they were listed. -/
structure Chronology (keys : List Key) (records : List KeyRecord) : Prop where
  perm : records.Perm ((keys.filter Key.isMultisigKey).map KeyRecord.ofKey)
  ordered : records.Pairwise fun a b => ∃ i j, instant? a.createTime = some i ∧
    instant? b.createTime = some j ∧ (i.second < j.second ∨ (i.second = j.second ∧ i.nano ≤ j.nano))
  stable : ∀ i, records.filter (fun r => instant? r.createTime = some i) =
    ((keys.filter Key.isMultisigKey).filter
      fun key => instant? key.createTime = some i).map KeyRecord.ofKey

section Sorted
variable {keys : List Key} {dated : List (Time.Instant × KeyRecord)}

theorem chronology_dated (each : List.Forall₂ IsDated (keys.filter Key.isMultisigKey) dated) :
    Chronology keys ((dated.mergeSort earlier).map (·.2)) := by
  have trans : ∀ a b c, earlier a b → earlier b c → earlier a c :=
    fun _ _ _ first second => Time.le_trans first second
  have total : ∀ a b, earlier a b || earlier b a :=
    fun a b => Time.le_total a.1 b.1
  have among : ∀ d ∈ dated.mergeSort earlier, d ∈ dated :=
    fun _ member => List.mem_mergeSort.mp member
  refine ⟨?_, ?_, ?_⟩
  · rw [← records_dated each]
    exact (List.mergeSort_perm dated earlier).map _
  · rw [List.pairwise_map]
    refine (List.pairwise_mergeSort trans total dated).imp_of_mem ?_
    intro a b left right before
    exact ⟨a.1, b.1, instant?_dated each (among a left), instant?_dated each (among b right),
      Time.le_iff.mp before⟩
  · intro i
    have alike : ∀ a b : Time.Instant × KeyRecord,
        decide (a.1 = i) = true → decide (b.1 = i) = true → earlier a b = true := by
      intro a b left right
      rw [earlier, of_decide_eq_true left, of_decide_eq_true right]
      exact Time.le_refl i
    -- The choice by instant is moved from the records to the dated keys and back.
    rw [filter_dated each i among, filter_mergeSort earlier trans total _ alike,
      ← filter_dated each i fun _ member => member, records_dated each, List.filter_map]
    rfl

end Sorted

section Filtering
variable (keys : List Key)

theorem filterKeys_of_sorted {keys : List Key} {dated : List (Time.Instant × KeyRecord)}
    (read : (keys.filter Key.isMultisigKey).mapM Key.dated = .ok dated)
    (sorted : dated.Pairwise fun a b => a.1.le b.1) :
    filterKeys keys = .ok (dated.map (·.2)) := by
  rw [filterKeys, read, ok_bind, List.mergeSort_of_pairwise sorted]

theorem filterKeys_ok_iff (records : List KeyRecord) :
    filterKeys keys = .ok records ↔
      ∃ dated, List.Forall₂ IsDated (keys.filter Key.isMultisigKey) dated ∧
        records = (dated.mergeSort earlier).map (·.2) := by
  simp only [filterKeys, bind_ok_iff, walk_ok_iff, dated_ok_iff, Except.ok.injEq]
  refine exists_congr fun dated => and_congr_right fun _ => ?_
  exact eq_comm

theorem chronology_filterKeys {records : List KeyRecord} (done : filterKeys keys = .ok records) :
    Chronology keys records := by
  obtain ⟨dated, each, rfl⟩ := (filterKeys_ok_iff keys records).mp done
  exact chronology_dated each

theorem exists_filterKeys_iff :
    (∃ records, filterKeys keys = .ok records) ↔
      ∀ key ∈ keys, key.isMultisigKey = true → ∃ i, instant? key.createTime = some i := by
  have walked := exists_walk_ok_iff Key.dated (keys.filter Key.isMultisigKey)
  simp only [exists_dated_iff, List.mem_filter, and_imp] at walked
  rw [← walked]
  simp only [filterKeys, bind_ok_iff]
  constructor
  · rintro ⟨_, dated, found, -⟩
    exact ⟨dated, found⟩
  · rintro ⟨dated, found⟩
    exact ⟨_, dated, found, rfl⟩

theorem filterKeys_error_iff (failure : Failure) :
    filterKeys keys = .error failure ↔ ∃ before key after fault, keys = before ++ key :: after ∧
      key.isMultisigKey = true ∧ Time.parse (Text.encode key.createTime) = .error fault ∧
      failure = .timestamp key.name key.createTime fault ∧
      ∀ other ∈ before, other.isMultisigKey = true → ∃ i, instant? other.createTime = some i := by
  have walked : filterKeys keys = .error failure ↔
      (keys.filter Key.isMultisigKey).mapM Key.dated = .error failure := by
    unfold filterKeys
    cases (keys.filter Key.isMultisigKey).mapM Key.dated with
    | error found => simp [error_bind]
    | ok dated => simp [ok_bind]
  rw [walked, walk_error_iff]
  simp only [exists_dated_iff, dated_error_iff]
  constructor
  · rintro ⟨before, key, after, split, ⟨fault, unread, rfl⟩, fine⟩
    obtain ⟨front, back, whole, kept, good⟩ :=
      (filter_first_iff Key.isMultisigKey _ keys key).mp ⟨before, after, split, fine⟩
    exact ⟨front, key, back, fault, whole, kept, unread, rfl, good⟩
  · rintro ⟨front, key, back, fault, whole, kept, unread, rfl, good⟩
    obtain ⟨before, after, split, fine⟩ :=
      (filter_first_iff Key.isMultisigKey _ keys key).mpr ⟨front, back, whole, kept, good⟩
    exact ⟨before, key, after, split, ⟨fault, unread, rfl⟩, fine⟩

theorem filterKeys_kept : filterKeys (keys.filter Key.isMultisigKey) = filterKeys keys := by
  simp only [filterKeys, List.filter_filter, Bool.and_self]

end Filtering

/-- Which keys are kept, when a listing of them is taken, in which order it then is, at which key
it is refused else, and that no other key matters. A second 60 comes last in its minute. -/
theorem filterKeys_exact (keys : List Key) :
    (∀ key : Key, key.isMultisigKey = true ↔ key.purpose = "ASYMMETRIC_SIGN" ∧
      key.versionTemplate = some (.object
        [("algorithm", .text "EC_SIGN_SECP256K1_SHA256"), ("protectionLevel", .text "HSM")])) ∧
    ((∃ records, filterKeys keys = .ok records) ↔
      ∀ key ∈ keys, key.isMultisigKey = true → ∃ i, instant? key.createTime = some i) ∧
    (∀ records, filterKeys keys = .ok records → Chronology keys records) ∧
    (∀ failure, filterKeys keys = .error failure ↔
      ∃ before key after fault, keys = before ++ key :: after ∧
        key.isMultisigKey = true ∧ Time.parse (Text.encode key.createTime) = .error fault ∧
        failure = .timestamp key.name key.createTime fault ∧
        ∀ other ∈ before, other.isMultisigKey = true → ∃ i, instant? other.createTime = some i) ∧
    (∀ others : List Key, others.filter Key.isMultisigKey = keys.filter Key.isMultisigKey →
      filterKeys others = filterKeys keys) ∧
    ∀ front rest : Bytes, front.length = 17 →
      Time.parse (front ++ 0x36 :: 0x30 :: rest) =
        (Time.parse (front ++ 0x35 :: 0x39 :: rest)).map fun i => ⟨i.second, i.nano + 1000000000⟩ := by
  refine ⟨isMultisigKey_iff, exists_filterKeys_iff keys, ?_, filterKeys_error_iff keys, ?_, ?_⟩
  · intro records done
    exact chronology_filterKeys keys done
  · intro others same
    rw [← filterKeys_kept others, same, filterKeys_kept]
  · intro front rest place
    exact Time.parse_leap front rest place

end KeyCustody.Google
