import KeyCustody.Proofs.Google.Inventory
import KeyCustody.Proofs.TimestampOrder

namespace KeyCustody.Google

section Reading

theorem instant?_iff (text : String) (i : Time.Instant) :
    instant? text = some i ↔ ∃ s : Time.Spelling, s.IsValid ∧ text = s.text ∧ i = s.instant := by
  rw [← Time.parse_iff, instant?]
  cases Time.parse (Text.encode text) <;> simp [Except.toOption]

theorem exists_instant?_iff (text : String) :
    (∃ i, instant? text = some i) ↔ ∃ s : Time.Spelling, s.IsValid ∧ text = s.text := by
  simp only [instant?_iff]
  constructor
  · rintro ⟨_, s, valid, form, -⟩
    exact ⟨s, valid, form⟩
  · rintro ⟨s, valid, form⟩
    exact ⟨s.instant, s, valid, form, rfl⟩

theorem created_ok_iff (key : Key) (i : Time.Instant) :
    key.created = .ok i ↔ instant? key.createTime = some i := by
  unfold Key.created instant?
  cases Time.parse (Text.encode key.createTime) <;> simp [Except.toOption]

theorem created_spelled {key : Key} {s : Time.Spelling} (valid : s.IsValid)
    (form : key.createTime = s.text) : key.created = .ok s.instant := by
  rw [created_ok_iff, instant?_iff]
  exact ⟨s, valid, form, rfl⟩

end Reading

/-- A creation time is read exactly if it is spelled as a timestamp, and as the instant that it
spells; kept keys are ordered by these instants, and those of one instant compare as equal and stay
as they were listed. Days count from 1970-01-01. -/
theorem created_exact :
    (∀ (key : Key) (i : Time.Instant), key.created = .ok i ↔
      ∃ s : Time.Spelling, s.IsValid ∧ key.createTime = s.text ∧ i = s.instant) ∧
    (∀ keys : List Key, (∃ records, filterKeys keys = .ok records) ↔
      ∀ key ∈ keys, key.isMultisigKey = true →
        ∃ s : Time.Spelling, s.IsValid ∧ key.createTime = s.text) ∧
    (∀ (keys : List Key) (records : List KeyRecord), filterKeys keys = .ok records →
      (records.Pairwise fun a b => ∃ s t : Time.Spelling, s.IsValid ∧ t.IsValid ∧
        a.createTime = s.text ∧ b.createTime = t.text ∧
        (s.instant.second < t.instant.second ∨
          s.instant.second = t.instant.second ∧ s.instant.nano ≤ t.instant.nano)) ∧
      ∀ i, records.filter (fun r => instant? r.createTime = some i) =
        ((keys.filter Key.isMultisigKey).filter
          fun key => instant? key.createTime = some i).map KeyRecord.ofKey) ∧
    (∀ (key other : Key) (s t : Time.Spelling), s.IsValid → t.IsValid →
      key.createTime = s.text → other.createTime = t.text →
      ∃ i j, key.created = .ok i ∧ other.created = .ok j ∧
        (i.le j = true ∧ j.le i = true ↔ s.instant = t.instant)) ∧
    Time.Date.dayNumber ⟨1970, 1, 1⟩ = 0 ∧
    ∀ d : Time.Date, d.isValid = true →
      d.next.isValid = true ∧ d.next.dayNumber = d.dayNumber + 1 := by
  refine ⟨?_, ?_, ?_, ?_, rfl, fun d valid => ⟨Time.isValid_next valid, Time.dayNumber_next valid⟩⟩
  · intro key i
    rw [created_ok_iff, instant?_iff]
  · intro keys
    simp only [exists_filterKeys_iff, exists_instant?_iff]
  · intro keys records done
    have order := chronology_filterKeys keys done
    refine ⟨order.ordered.imp ?_, order.stable⟩
    rintro a b ⟨i, j, left, right, before⟩
    obtain ⟨s, valid, form, rfl⟩ := (instant?_iff a.createTime i).mp left
    obtain ⟨t, otherValid, otherForm, rfl⟩ := (instant?_iff b.createTime j).mp right
    exact ⟨s, t, valid, otherValid, form, otherForm, before⟩
  · intro key other s t valid otherValid form otherForm
    exact ⟨s.instant, t.instant, created_spelled valid form, created_spelled otherValid otherForm,
      Time.le_antisymm_iff⟩

/-- The last hour of a year, seen from the east and from Greenwich. -/
example : instant? "2024-01-01T00:30:00+01:00" = instant? "2023-12-31t23:30:00.0z" := by
  decide +kernel

section TextOrder

/-- Creation times of one shape, which are in UTC and have so many digits in the fraction. -/
def IsUniform (places : Nat) (keys : List Key) : Prop :=
  ∀ key ∈ keys, key.isMultisigKey = true →
    ∃ s : Time.Spelling, s.IsValid ∧ s.IsUniform places ∧ key.createTime = s.text

def textLe (a b : KeyRecord) : Bool :=
  Text.encode a.createTime ≤ Text.encode b.createTime

variable {keys : List Key} {dated : List (Time.Instant × KeyRecord)} {places : Nat}

theorem uniform_dated (each : List.Forall₂ IsDated (keys.filter Key.isMultisigKey) dated)
    (uniform : IsUniform places keys) {d : Time.Instant × KeyRecord} (member : d ∈ dated) :
    ∃ s : Time.Spelling, s.IsValid ∧ s.IsUniform places ∧ d.2.createTime = s.text ∧
      d.1 = s.instant := by
  have among : d.2 ∈ (keys.filter Key.isMultisigKey).map KeyRecord.ofKey := by
    rw [← records_dated each]
    exact List.mem_map_of_mem member
  obtain ⟨key, kept, same⟩ := List.mem_map.mp among
  obtain ⟨listed, multisig⟩ := List.mem_filter.mp kept
  obtain ⟨s, valid, shape, form⟩ := uniform key listed multisig
  have text : d.2.createTime = s.text := by
    rw [← same]
    exact form
  have own := instant?_dated each member
  rw [text, (instant?_iff s.text s.instant).mpr ⟨s, valid, rfl, rfl⟩, Option.some.injEq] at own
  exact ⟨s, valid, shape, text, own.symm⟩

theorem earlier_dated (few : places ≤ 9) (uniform : IsUniform places keys)
    (each : List.Forall₂ IsDated (keys.filter Key.isMultisigKey) dated)
    {a b : Time.Instant × KeyRecord} (member : a ∈ dated) (otherMember : b ∈ dated) :
    earlier a b = textLe a.2 b.2 := by
  obtain ⟨s, valid, shape, form, instant⟩ := uniform_dated each uniform member
  obtain ⟨t, otherValid, otherShape, otherForm, otherInstant⟩ :=
    uniform_dated each uniform otherMember
  rw [earlier, textLe, form, otherForm, instant, otherInstant, Bool.eq_iff_iff,
    decide_eq_true_eq, Time.text_le_iff valid otherValid shape otherShape few]

end TextOrder

/-- Keys with creation times of one shape come out, and in the order of these texts; a second 60
needs no exception. Keys of one text stay as they were listed. -/
theorem filterKeys_byText (keys : List Key) (places : Nat) (few : places ≤ 9)
    (uniform : IsUniform places keys) :
    filterKeys keys =
      .ok (((keys.filter Key.isMultisigKey).map KeyRecord.ofKey).mergeSort textLe) := by
  have dates : ∀ key ∈ keys, key.isMultisigKey = true → ∃ i, instant? key.createTime = some i := by
    intro key listed kept
    obtain ⟨s, valid, -, form⟩ := uniform key listed kept
    exact (exists_instant?_iff key.createTime).mpr ⟨s, valid, form⟩
  obtain ⟨records, done⟩ := (exists_filterKeys_iff keys).mpr dates
  obtain ⟨dated, each, rfl⟩ := (filterKeys_ok_iff keys records).mp done
  have sorted : (dated.mergeSort earlier).map (·.2) = (dated.map (·.2)).mergeSort textLe :=
    List.map_mergeSort fun _ member _ other => earlier_dated few uniform each member other
  rw [done, sorted, records_dated each]

section LeapSecond

def endOfYear (second : Nat) (digit : Nat) : Time.Spelling :=
  ⟨⟨2016, 12, 31⟩, 'T', ⟨23, 59, second⟩, [digit], .utc 'Z'⟩

def newYear : Time.Spelling :=
  ⟨⟨2017, 1, 1⟩, 'T', ⟨0, 0, 0⟩, [0], .utc 'Z'⟩

def signingKey (name createTime : String) : Key :=
  ⟨name, createTime, "ASYMMETRIC_SIGN", some signingTemplate⟩

def leapKeys : List Key :=
  [signingKey "a" "2017-01-01T00:00:00.0Z", signingKey "b" "2016-12-31T23:59:60.5Z",
    signingKey "c" "2016-12-31T23:59:59.9Z", signingKey "d" "2016-12-31T23:59:60.5Z",
    ⟨"e", "", "ENCRYPT_DECRYPT", none⟩]

theorem uniform_leapKeys : IsUniform 1 leapKeys := by
  have starting : newYear.IsValid :=
    ⟨by decide, rfl, .inl rfl, by decide, by decide, by decide, by decide, .utc (.inl rfl)⟩
  have leap : (endOfYear 60 5).IsValid :=
    ⟨by decide, rfl, .inl rfl, by decide, by decide, by decide, by decide, .utc (.inl rfl)⟩
  have late : (endOfYear 59 9).IsValid :=
    ⟨by decide, rfl, .inl rfl, by decide, by decide, by decide, by decide, .utc (.inl rfl)⟩
  unfold IsUniform leapKeys
  simp only [List.forall_mem_cons]
  refine ⟨fun _ => ⟨_, starting, ⟨rfl, rfl, rfl⟩, rfl⟩, fun _ => ⟨_, leap, ⟨rfl, rfl, rfl⟩, rfl⟩,
    fun _ => ⟨_, late, ⟨rfl, rfl, rfl⟩, rfl⟩, fun _ => ⟨_, leap, ⟨rfl, rfl, rfl⟩, rfl⟩, ?_, ?_⟩
  · intro kept
    cases kept
  · simp

theorem sorted_leapKeys :
    ((leapKeys.filter Key.isMultisigKey).map KeyRecord.ofKey).mergeSort textLe =
      [leapKeys[2], leapKeys[1], leapKeys[3], leapKeys[0]].map KeyRecord.ofKey := by
  have kept : (leapKeys.filter Key.isMultisigKey).map KeyRecord.ofKey =
      [leapKeys[0], leapKeys[1], leapKeys[2], leapKeys[3]].map KeyRecord.ofKey := by
    decide +kernel
  have le₀₁ : textLe (.ofKey leapKeys[0]) (.ofKey leapKeys[1]) = false := by decide +kernel
  have le₂₃ : textLe (.ofKey leapKeys[2]) (.ofKey leapKeys[3]) = true := by decide +kernel
  have le₁₂ : textLe (.ofKey leapKeys[1]) (.ofKey leapKeys[2]) = false := by decide +kernel
  have le₁₃ : textLe (.ofKey leapKeys[1]) (.ofKey leapKeys[3]) = true := by decide +kernel
  have le₀₃ : textLe (.ofKey leapKeys[0]) (.ofKey leapKeys[3]) = false := by decide +kernel
  rw [kept]
  simp only [List.map_cons, List.map_nil]
  generalize KeyRecord.ofKey leapKeys[0] = a, KeyRecord.ofKey leapKeys[1] = b,
    KeyRecord.ofKey leapKeys[2] = c, KeyRecord.ofKey leapKeys[3] = d at *
  simp [List.mergeSort, List.MergeSort.Internal.splitInTwo, le₀₁, le₂₃, le₁₂, le₁₃, le₀₃]

theorem filterKeys_byText_leapKeys :
    IsUniform 1 leapKeys ∧ filterKeys leapKeys =
      .ok ([leapKeys[2], leapKeys[1], leapKeys[3], leapKeys[0]].map KeyRecord.ofKey) := by
  have done := filterKeys_byText leapKeys 1 (by decide) uniform_leapKeys
  rw [sorted_leapKeys] at done
  exact ⟨uniform_leapKeys, done⟩

end LeapSecond

end KeyCustody.Google
