import SsoGateway.ReplayCache

/-!
# The expiry of a delegation on the wire

A date-time goes out as seconds and nanoseconds and comes in the same way. On the way in the seconds are
checked against the range of date-times; the nanoseconds are then added, and the addition panics where it
leaves the range.

* `TimeLibrary`, `Documented` — what is used of the `time` library, and what it says of that.
* `timestamp`, `fromProtoTimestamp` — both directions.
* `fromProtoTimestamp_cases` — what comes in: nothing, a date-time, or a panic.
* `expiry_exact_iff` — where nothing panics and every date-time comes back.
* `expiry_panics` — the last second of the range with a whole second of nanoseconds.

Source: `services/agent.rs`.
-/

namespace SsoGateway

/-! ## The library -/

/-- `Add` panics: "resulting value is out of range". -/
inductive TimePanic where
  | outOfRange
deriving DecidableEq, Repr

/-- What is used of the `time` library. -/
structure TimeLibrary (T : Type) where
  /-- `OffsetDateTime::from_unix_timestamp`. -/
  fromUnixTimestamp : Int64 → Option T
  /-- `OffsetDateTime::unix_timestamp`. -/
  unixTimestamp : T → Int64
  /-- `OffsetDateTime::nanosecond`. -/
  nanosecond : T → UInt32
  /-- The sum with a `Duration::nanoseconds`. -/
  addNanoseconds : T → Int64 → Except TimePanic T

/-- The instants of date-times in UTC, in nanoseconds since the epoch. -/
def UtcInstant (i : ℤ) : Prop :=
  minUnixTimestamp * nanosPerSecond ≤ i ∧ i < (maxUnixTimestamp + 1) * nanosPerSecond

instance (i : ℤ) : Decidable (UtcInstant i) := inferInstanceAs (Decidable (_ ∧ _))

/-- What the library documents, by the instant that a date-time denotes; two are equal if they denote the same
one. A second is read off an instant by rounding down, also before the epoch. -/
structure Documented {T : Type} (lib : TimeLibrary T) (instant : T → ℤ) : Prop where
  unixTimestamp : ∀ t, (lib.unixTimestamp t).toInt = instant t / nanosPerSecond
  nanosecond : ∀ t, ((lib.nanosecond t).toNat : ℤ) = instant t % nanosPerSecond
  /-- The whole seconds of the range are date-times in UTC. -/
  fromUnixTimestamp : ∀ s : Int64, minUnixTimestamp ≤ s.toInt → s.toInt ≤ maxUnixTimestamp →
    ∃ t, lib.fromUnixTimestamp s = some t ∧ instant t = s.toInt * nanosPerSecond
  outOfRange : ∀ s : Int64, ¬ (minUnixTimestamp ≤ s.toInt ∧ s.toInt ≤ maxUnixTimestamp) →
    lib.fromUnixTimestamp s = none
  /-- Something is added to a date-time in UTC. -/
  add : ∀ s t n, lib.fromUnixTimestamp s = some t → UtcInstant (instant t + n.toInt) →
    ∃ t', lib.addNanoseconds t n = .ok t' ∧ instant t' = instant t + n.toInt
  addOutOfRange : ∀ s t n, lib.fromUnixTimestamp s = some t → ¬ UtcInstant (instant t + n.toInt) →
    lib.addNanoseconds t n = .error .outOfRange

/-! ## The conversion -/

/-- Source: `google.protobuf.Timestamp`. -/
structure Timestamp where
  seconds : Int64
  nanos : Int32
deriving DecidableEq

section conversion

variable {T : Type}

/-- Source: `opt_timestamp`. -/
def optTimestamp (lib : TimeLibrary T) (t : Option T) : Option Timestamp :=
  t.map fun t => ⟨lib.unixTimestamp t, (lib.nanosecond t).toInt32⟩

/-- Source: `timestamp`. -/
def timestamp (lib : TimeLibrary T) (t : T) : Option Timestamp := optTimestamp lib (some t)

/-- Source: `from_proto_timestamp`. -/
def fromProtoTimestamp (lib : TimeLibrary T) (field : Option Timestamp) : Except TimePanic (Option T) :=
  match field with
  | none => .ok none
  | some ts =>
      match lib.fromUnixTimestamp ts.seconds with
      | none => .ok none
      | some t => (lib.addNanoseconds t ts.nanos.toInt64).map some

/-! ## What comes in -/

/-- The instant of a timestamp. -/
def Timestamp.instant (ts : Timestamp) : ℤ := ts.seconds.toInt * nanosPerSecond + ts.nanos.toInt

/-- The seconds are out of the range, or the nanoseconds do not lead out of it. -/
def SafeField (field : Option Timestamp) : Prop :=
  ∀ ts, field = some ts → minUnixTimestamp ≤ ts.seconds.toInt → ts.seconds.toInt ≤ maxUnixTimestamp →
    UtcInstant ts.instant

variable {lib : TimeLibrary T} {instant : T → ℤ}

/-- **What comes in is nothing, a date-time of the same instant, or a panic.** -/
theorem fromProtoTimestamp_cases (h : Documented lib instant) (ts : Timestamp) :
    (¬ (minUnixTimestamp ≤ ts.seconds.toInt ∧ ts.seconds.toInt ≤ maxUnixTimestamp) ∧
        fromProtoTimestamp lib (some ts) = .ok none) ∨
      ((minUnixTimestamp ≤ ts.seconds.toInt ∧ ts.seconds.toInt ≤ maxUnixTimestamp) ∧
        UtcInstant ts.instant ∧ ∃ t, fromProtoTimestamp lib (some ts) = .ok (some t) ∧ instant t = ts.instant) ∨
      ((minUnixTimestamp ≤ ts.seconds.toInt ∧ ts.seconds.toInt ≤ maxUnixTimestamp) ∧
        ¬ UtcInstant ts.instant ∧ fromProtoTimestamp lib (some ts) = .error .outOfRange) := by
  by_cases hrange : minUnixTimestamp ≤ ts.seconds.toInt ∧ ts.seconds.toInt ≤ maxUnixTimestamp
  · obtain ⟨t, ht, hinstant⟩ := h.fromUnixTimestamp ts.seconds hrange.1 hrange.2
    have hsum : instant t + ts.nanos.toInt64.toInt = ts.instant := by
      rw [Int32.toInt_toInt64, hinstant, Timestamp.instant]
    by_cases hutc : UtcInstant ts.instant
    · obtain ⟨t', hadd, ht'⟩ := h.add _ t ts.nanos.toInt64 ht (hsum ▸ hutc)
      refine .inr (.inl ⟨hrange, hutc, t', ?_, ht'.trans hsum⟩)
      simp only [fromProtoTimestamp, ht, hadd, Except.map]
    · have hadd := h.addOutOfRange _ t ts.nanos.toInt64 ht (hsum ▸ hutc)
      refine .inr (.inr ⟨hrange, hutc, ?_⟩)
      simp only [fromProtoTimestamp, ht, hadd, Except.map]
  · refine .inl ⟨hrange, ?_⟩
    simp only [fromProtoTimestamp, h.outOfRange ts.seconds hrange]

/-- Nothing panics just if the field is safe. -/
theorem fromProtoTimestamp_ok_iff (h : Documented lib instant) (field : Option Timestamp) :
    (∃ r, fromProtoTimestamp lib field = .ok r) ↔ SafeField field := by
  rcases field with _ | ts
  · simp [fromProtoTimestamp, SafeField]
  have hsafe : SafeField (some ts) ↔
      (minUnixTimestamp ≤ ts.seconds.toInt ∧ ts.seconds.toInt ≤ maxUnixTimestamp → UtcInstant ts.instant) := by
    simp [SafeField, and_imp]
  rw [hsafe]
  rcases fromProtoTimestamp_cases h ts with ⟨hout, hnone⟩ | ⟨-, hutc, t, ht, -⟩ | ⟨hrange, hutc, herror⟩
  · simp [hnone, hout]
  · simp [ht, hutc]
  · simp [herror, hutc, hrange]

/-! ## There and back -/

/-- A date-time goes out as its instant. -/
theorem instant_timestamp (h : Documented lib instant) (t : T) :
    ∃ ts, timestamp lib t = some ts ∧ ts.seconds.toInt = instant t / nanosPerSecond ∧
      ts.instant = instant t := by
  refine ⟨_, rfl, h.unixTimestamp t, ?_⟩
  have hnano := h.nanosecond t
  have hbound : (lib.nanosecond t).toNat < 1000000000 := by
    have hlt := Int.emod_lt_of_pos (instant t) (show 0 < nanosPerSecond by decide)
    rw [← hnano, nanosPerSecond] at hlt
    omega
  have hsigned : ((lib.nanosecond t).toInt32).toInt = ((lib.nanosecond t).toNat : ℤ) := by
    have hmod : ((lib.nanosecond t).toInt32).toInt = (lib.nanosecond t).toBitVec.toInt := rfl
    have hnat : (lib.nanosecond t).toBitVec.toNat = (lib.nanosecond t).toNat := rfl
    rw [hmod, BitVec.toInt_eq_toNat_cond, hnat, if_pos (by omega)]
  simp only [Timestamp.instant]
  rw [hsigned, hnano, h.unixTimestamp t]
  exact Int.ediv_mul_add_emod _ _

/-- **A date-time comes back just if its instant is one of UTC.** -/
theorem fromProtoTimestamp_timestamp_iff (h : Documented lib instant) (t : T) :
    (∃ t', fromProtoTimestamp lib (timestamp lib t) = .ok (some t') ∧ instant t' = instant t) ↔
      UtcInstant (instant t) := by
  obtain ⟨ts, hts, hseconds, hinstant⟩ := instant_timestamp h t
  have hrange : (minUnixTimestamp ≤ ts.seconds.toInt ∧ ts.seconds.toInt ≤ maxUnixTimestamp) ↔
      UtcInstant (instant t) := by
    rw [hseconds]
    simp only [UtcInstant, minUnixTimestamp, maxUnixTimestamp, nanosPerSecond]
    omega
  rw [hts, ← hrange]
  rcases fromProtoTimestamp_cases h ts with ⟨hout, hnone⟩ | ⟨hin, -, t', ht', hsame⟩ | ⟨hin, hutc, -⟩
  · simp [hnone, hout]
  · simp [ht', hin, hsame.trans hinstant]
  · rw [hinstant] at hutc
    exact absurd (hrange.mp hin) hutc

/-- **The conversion neither crashes nor changes an instant just if** the nanoseconds of the field do not lead
out of the range and the date-time's instant is in it. -/
theorem expiry_exact_iff (h : Documented lib instant) (field : Option Timestamp) (t : T) :
    ((∃ r, fromProtoTimestamp lib field = .ok r) ∧
        ∃ t', fromProtoTimestamp lib (timestamp lib t) = .ok (some t') ∧ instant t' = instant t) ↔
      SafeField field ∧ UtcInstant (instant t) := by
  rw [fromProtoTimestamp_ok_iff h, fromProtoTimestamp_timestamp_iff h]

end conversion

/-! ## Date-times -/

/-- A local date-time of the years -9999 to 9999, in nanoseconds, with its offset from UTC in seconds. -/
structure PlainDateTime where
  localInstant : ℤ
  offset : ℤ
  inRange : UtcInstant localInstant
  offsetRange : -93599 ≤ offset ∧ offset ≤ 93599
deriving DecidableEq

/-- The instant of a date-time. -/
def PlainDateTime.instant (t : PlainDateTime) : ℤ := t.localInstant - t.offset * nanosPerSecond

/-- Date-times as the library has them. -/
def plainTime : TimeLibrary PlainDateTime where
  fromUnixTimestamp s :=
    if h : UtcInstant (s.toInt * nanosPerSecond) then some ⟨s.toInt * nanosPerSecond, 0, h, by decide⟩ else none
  unixTimestamp t := Int64.ofInt (t.instant / nanosPerSecond)
  nanosecond t := UInt32.ofNat (t.instant % nanosPerSecond).toNat
  addNanoseconds t n :=
    if h : UtcInstant (t.localInstant + n.toInt) then .ok ⟨t.localInstant + n.toInt, t.offset, h, t.offsetRange⟩
    else .error .outOfRange

theorem documented_plainTime : Documented plainTime PlainDateTime.instant where
  unixTimestamp t := by
    have hlocal := t.inRange
    have hoffset := t.offsetRange
    apply Int64.toInt_ofInt_of_le
    all_goals
      simp only [UtcInstant, minUnixTimestamp, maxUnixTimestamp, nanosPerSecond] at hlocal
      simp only [PlainDateTime.instant, nanosPerSecond]
      omega
  nanosecond t := by
    have hlow := Int.emod_nonneg t.instant (show nanosPerSecond ≠ 0 by decide)
    have hup := Int.emod_lt_of_pos t.instant (show 0 < nanosPerSecond by decide)
    have hsmall : (t.instant % nanosPerSecond).toNat < 2 ^ 32 := by
      simp only [nanosPerSecond] at hup ⊢
      omega
    simp only [plainTime]
    rw [UInt32.toNat_ofNat', Nat.mod_eq_of_lt hsmall]
    omega
  fromUnixTimestamp s hlow hup := by
    have hutc : UtcInstant (s.toInt * nanosPerSecond) := by
      simp only [UtcInstant, minUnixTimestamp, maxUnixTimestamp, nanosPerSecond] at *
      omega
    refine ⟨_, dif_pos hutc, ?_⟩
    simp [PlainDateTime.instant]
  outOfRange s hout := by
    apply dif_neg
    simp only [UtcInstant, minUnixTimestamp, maxUnixTimestamp, nanosPerSecond] at *
    omega
  add s t n hs hutc := by
    obtain ⟨hrange, hs⟩ := Option.dite_none_right_eq_some.mp hs
    obtain rfl := Option.some.inj hs
    have hlocal : UtcInstant (s.toInt * nanosPerSecond + n.toInt) := by
      simpa [PlainDateTime.instant] using hutc
    refine ⟨_, dif_pos hlocal, ?_⟩
    simp [PlainDateTime.instant]
  addOutOfRange s t n hs hutc := by
    obtain ⟨hrange, hs⟩ := Option.dite_none_right_eq_some.mp hs
    obtain rfl := Option.some.inj hs
    apply dif_neg
    simpa [PlainDateTime.instant] using hutc

/-- A second and a half before the epoch, as a field and as a date-time. -/
theorem expiry_exact_before_epoch :
    (∃ r, fromProtoTimestamp plainTime (some ⟨-2, 500000000⟩) = .ok r) ∧
      ∃ t', fromProtoTimestamp plainTime
          (timestamp plainTime ⟨-1500000000, 0, by decide, by decide⟩) = .ok (some t') ∧
        t'.instant = PlainDateTime.instant ⟨-1500000000, 0, by decide, by decide⟩ := by
  refine (expiry_exact_iff documented_plainTime (some ⟨-2, 500000000⟩)
    ⟨-1500000000, 0, by decide, by decide⟩).mpr ⟨?_, by decide⟩
  rintro ts hts - -
  obtain rfl := Option.some.inj hts
  decide

/-- **A timestamp of the last second with a whole second of nanoseconds panics**; so does one that goes below
the first second. A date-time west of UTC in the last hour of the range does not come back. -/
theorem expiry_panics :
    fromProtoTimestamp plainTime (some ⟨253402300799, 1000000000⟩) = .error .outOfRange ∧
      fromProtoTimestamp plainTime (some ⟨-377705116800, -1⟩) = .error .outOfRange ∧
      fromProtoTimestamp plainTime
        (timestamp plainTime ⟨253402300799000000000, -3600, by decide, by decide⟩) = .ok none := by
  decide +kernel

end SsoGateway
