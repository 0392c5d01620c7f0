import Mathlib.Data.Int.Notation
import SsoGateway.Errors
import SsoGateway.Lib.Machine
import SsoGateway.Lib.Table

/-!
# The replay cache of SAML assertions

An assertion id is inserted into `saml_assertion_ids` with an expiry; the insert says whether the id
is new. A task of every replica deletes the rows whose expiry has passed.

The library hands over an instant of nanoseconds. What is stored is its whole seconds, and Postgres
tells instants apart by microseconds. Between the stored expiry and the one handed over, the cleanup
may take the row away, and the id is new again.

* `storedExpiry`, `checkAndInsert`, `cleanup` — the statements.
* `ReplayCall`, `replayStep` — the calls of any number of replicas, one after the other.
* `CoversWindow` — the expiries without such a gap.
* `replay_protected_iff` — an accepted id is refused until its expiry just for these.
* `accepted_twice` — an assertion that expires on the half second.

Source: `db/saml_replay_cache.rs`.
-/

namespace SsoGateway

open Lib

/-! ## The table -/

/-- The nanoseconds of a second. -/
def nanosPerSecond : ℤ := 1000000000

/-- The nanoseconds of a microsecond, the resolution of Postgres. -/
def nanosPerMicro : ℤ := 1000

/-- Source: `saml_assertion_ids`. The expiry is in microseconds. -/
structure AssertionIdRow where
  id : String
  expiresAt : ℤ
deriving DecidableEq, Repr

/-- Two rows of one id; `saml_assertion_ids.id PRIMARY KEY`. -/
def AssertionIdRow.SameId (r r' : AssertionIdRow) : Prop := r.id = r'.id

instance : DecidableRel AssertionIdRow.SameId := fun r r' => inferInstanceAs (Decidable (r.id = r'.id))

/-- The table of assertion ids. -/
abbrev AssertionIds := Table AssertionIdRow AssertionIdRow.SameId

/-- The last second `OffsetDateTime::from_unix_timestamp` accepts: the end of the year 9999. -/
def maxUnixTimestamp : ℤ := 253402300799

/-- The first second `OffsetDateTime::from_unix_timestamp` accepts: the year -9999. -/
def minUnixTimestamp : ℤ := -377705116800

/-- `expires_at` of `check_and_insert_inner`, in microseconds: the whole seconds of the expiry, or an
hour from now where the date is out of range. -/
def storedExpiry (now expiry : ℤ) : ℤ :=
  if minUnixTimestamp ≤ expiry / nanosPerSecond ∧ expiry / nanosPerSecond ≤ maxUnixTimestamp then
    expiry / nanosPerSecond * (nanosPerSecond / nanosPerMicro)
  else (now + 3600 * nanosPerSecond) / nanosPerMicro

/-- Source: `check_and_insert_inner`. -/
def checkAndInsertInner (fault : Option Fault) (now : ℤ) (id : String) (expiry : ℤ)
    (ids : AssertionIds) : Except DbError Bool × AssertionIds :=
  let r := ids.insertNew ⟨id, storedExpiry now expiry⟩
  Fault.answer Fault.sqlx ids (.ok r.2, r.1) fault

/-- Source: `GamlastanReplayAdapter::check_and_insert`. An error is treated as a replay. -/
def checkAndInsert (fault : Option Fault) (now : ℤ) (id : String) (expiry : ℤ) (ids : AssertionIds) :
    Bool × AssertionIds :=
  let r := checkAndInsertInner fault now id expiry ids
  (match r.1 with
    | .ok inserted => inserted
    | .error _ => false, r.2)

/-- Source: `cleanup_saml_replay_cache`. -/
def cleanup (fault : Option Fault) (now : ℤ) (ids : AssertionIds) : AssertionIds :=
  (Fault.answer Fault.sqlx ids
    (.ok (), ids.deleteWhere fun r => r.expiresAt < now / nanosPerMicro) fault).2

/-! ## The calls of the replicas -/

/-- What a replica asks of the table. -/
inductive ReplayOp where
  | checkAndInsert (id : String) (expiry : ℤ)
  | cleanup
deriving DecidableEq, Repr

/-- One statement: the instant it reads as now, which for the cleanup is `NOW()`, and the instant it
takes effect, both in nanoseconds. -/
structure ReplayCall where
  op : ReplayOp
  fault : Option Fault
  read : ℤ
  now : ℤ
deriving DecidableEq, Repr

/-- The table, and the instant of the last statement. -/
structure ReplayState where
  ids : AssertionIds
  clock : ℤ

namespace ReplayState

/-- An empty table, at the epoch. -/
def start : ReplayState := ⟨.empty, 0⟩

/-- The call is for that id, and says that it is new. -/
def Accepts (s : ReplayState) (call : ReplayCall) (id : String) (expiry : ℤ) : Prop :=
  call.op = .checkAndInsert id expiry ∧
    (checkAndInsert call.fault call.read id expiry s.ids).1 = true

instance (s : ReplayState) (call : ReplayCall) (id : String) (expiry : ℤ) :
    Decidable (s.Accepts call id expiry) := inferInstanceAs (Decidable (_ ∧ _))

end ReplayState

/-- The table after a call. -/
def ReplayCall.table (call : ReplayCall) (ids : AssertionIds) : AssertionIds :=
  match call.op with
  | .checkAndInsert id expiry => (checkAndInsert call.fault call.read id expiry ids).2
  | .cleanup => cleanup call.fault call.read ids

/-- One call. Statements take effect in the order of their instants; what they read as now is past the
epoch and has come. -/
def replayStep (s : ReplayState) (call : ReplayCall) : Option ReplayState :=
  if s.clock ≤ call.now ∧ 0 ≤ call.read ∧ call.read ≤ call.now then
    some ⟨call.table s.ids, call.now⟩
  else none

/-- No call that takes place before the expiry says that the id is new. -/
def RefusedUntil (id : String) (expiry : ℤ) : ReplayState → List ReplayCall → Prop :=
  Machine.Along replayStep fun s call =>
    (replayStep s call).isSome → call.now < expiry → ∀ expiry', ¬ s.Accepts call id expiry'

/-- In every run, once an id has been accepted with that expiry, it is refused until then. -/
def ReplayProtected (expiry : ℤ) : Prop :=
  ∀ (id : String) (before : List ReplayCall) (call : ReplayCall) (later : List ReplayCall)
    (s s' : ReplayState), Machine.run replayStep .start before = some s → s.Accepts call id expiry →
      replayStep s call = some s' → RefusedUntil id expiry s' later

/-! ## Until the stored expiry -/

/-- The expiries that no statement can tell from the stored one: those that lie in the past of every
clock, and those in range without more than a microsecond over whole seconds. -/
def CoversWindow (expiry : ℤ) : Prop :=
  expiry ≤ 0 ∨ (expiry / nanosPerSecond ≤ maxUnixTimestamp ∧ expiry % nanosPerSecond ≤ nanosPerMicro)

instance (expiry : ℤ) : Decidable (CoversWindow expiry) := inferInstanceAs (Decidable (_ ∨ _))

/-- The id has a row that stays until the expiry, or the expiry has come. -/
def HeldUntil (id : String) (expiry : ℤ) (s : ReplayState) : Prop :=
  expiry ≤ s.clock ∨ ∃ r ∈ s.ids.rows, r.id = id ∧ expiry ≤ (r.expiresAt + 1) * nanosPerMicro

/-- What a call for an id says, and the table it leaves. -/
theorem checkAndInsert_cases (fault : Option Fault) (now : ℤ) (id : String) (expiry : ℤ)
    (ids : AssertionIds) :
    ((∀ r ∈ ids.rows, r.id ≠ id) ∧
      (checkAndInsert fault now id expiry ids).2.rows = ⟨id, storedExpiry now expiry⟩ :: ids.rows) ∨
    ((checkAndInsert fault now id expiry ids).1 = false ∧
      (checkAndInsert fault now id expiry ids).2 = ids) := by
  rcases Table.insertNew_cases ids ⟨id, storedExpiry now expiry⟩ with ⟨hnew, hrows, hfree⟩ | ⟨hold, hsame, -⟩
  · have hne : ∀ r ∈ ids.rows, r.id ≠ id := fun r hr h => hfree r hr h.symm
    rcases fault with _ | f
    · left
      exact ⟨hne, by simpa [checkAndInsert, checkAndInsertInner] using hrows⟩
    · by_cases happlied : f.applied
      · left
        exact ⟨hne, by simpa [checkAndInsert, checkAndInsertInner, Fault.answer, happlied] using hrows⟩
      · right
        simp [checkAndInsert, checkAndInsertInner, Fault.answer, happlied]
  · right
    rcases fault with _ | f
    · simp [checkAndInsert, checkAndInsertInner, hold, hsame]
    · by_cases happlied : f.applied <;>
        simp [checkAndInsert, checkAndInsertInner, Fault.answer, happlied, hsame]

/-- An accepted id had no row, and has one with the stored expiry. -/
theorem accepted_row {s : ReplayState} {call : ReplayCall} {id : String} {expiry : ℤ}
    (h : s.Accepts call id expiry) : (∀ r ∈ s.ids.rows, r.id ≠ id) ∧
      (⟨id, storedExpiry call.read expiry⟩ : AssertionIdRow) ∈ (call.table s.ids).rows := by
  obtain ⟨hop, htrue⟩ := h
  rcases checkAndInsert_cases call.fault call.read id expiry s.ids with ⟨hfree, hrows⟩ | ⟨hfalse, -⟩
  · refine ⟨hfree, ?_⟩
    simp [ReplayCall.table, hop, hrows]
  · simp [hfalse] at htrue

/-- The cleanup leaves the rows whose expiry it does not see in the past. -/
theorem mem_cleanup {fault : Option Fault} {now : ℤ} {ids : AssertionIds} {r : AssertionIdRow}
    (hr : r ∈ ids.rows) (hnow : now / nanosPerMicro ≤ r.expiresAt) :
    r ∈ (cleanup fault now ids).rows := by
  have hkept : r ∈ (ids.deleteWhere fun r => r.expiresAt < now / nanosPerMicro).rows := by
    rw [Table.mem_deleteWhere]
    exact ⟨hr, by omega⟩
  rcases fault with _ | f
  · simpa [cleanup] using hkept
  · by_cases happlied : f.applied
    · simpa [cleanup, Fault.answer, happlied] using hkept
    · simpa [cleanup, Fault.answer, happlied] using hr

/-- A call other than the cleanup keeps every row. -/
theorem mem_checkAndInsert {fault : Option Fault} {now expiry : ℤ} {id : String} {ids : AssertionIds}
    {r : AssertionIdRow} (hr : r ∈ ids.rows) : r ∈ (checkAndInsert fault now id expiry ids).2.rows := by
  rcases checkAndInsert_cases fault now id expiry ids with ⟨-, hrows⟩ | ⟨-, hsame⟩
  · simp [hrows, hr]
  · simpa [hsame] using hr

/-- What a step does to the clock and the table. -/
theorem replayStep_eq_some {s s' : ReplayState} {call : ReplayCall}
    (h : replayStep s call = some s') : s.clock ≤ call.now ∧ 0 ≤ call.read ∧ call.read ≤ call.now ∧
      s' = ⟨call.table s.ids, call.now⟩ := by
  unfold replayStep at h
  split at h
  · rename_i hclock
    cases h
    exact ⟨hclock.1, hclock.2.1, hclock.2.2, rfl⟩
  · cases h

/-- A row that stays until the expiry is there after every call, until the expiry has come. -/
theorem heldUntil_step {id : String} {expiry : ℤ} {s s' : ReplayState} {call : ReplayCall}
    (hs : HeldUntil id expiry s) (h : replayStep s call = some s') : HeldUntil id expiry s' := by
  obtain ⟨hclock, -, hread, rfl⟩ := replayStep_eq_some h
  rcases hs with hpast | ⟨r, hr, hid, hstay⟩
  · left
    show expiry ≤ call.now
    omega
  by_cases hlate : expiry ≤ call.now
  · exact .inl hlate
  refine .inr ⟨r, ?_, hid, hstay⟩
  show r ∈ (call.table s.ids).rows
  unfold ReplayCall.table
  split
  · exact mem_checkAndInsert hr
  · apply mem_cleanup hr
    unfold nanosPerMicro at *
    omega

/-- As long as the row stays, the id is refused. -/
theorem refusedUntil_of_heldUntil {id : String} {expiry : ℤ} {s : ReplayState}
    (hs : HeldUntil id expiry s) (calls : List ReplayCall) : RefusedUntil id expiry s calls := by
  induction calls generalizing s with
  | nil => trivial
  | cons call calls ih =>
      unfold RefusedUntil Machine.Along
      refine ⟨fun hsome hearly expiry' haccepts => ?_, ?_⟩
      · obtain ⟨s', hstep⟩ := Option.isSome_iff_exists.mp hsome
        have hclock := (replayStep_eq_some hstep).1
        rcases hs with hpast | ⟨r, hr, hid, -⟩
        · omega
        · exact (accepted_row haccepts).1 r hr hid
      · rcases hstep : replayStep s call with _ | s'
        · trivial
        · exact ih (heldUntil_step hs hstep)

/-- An expiry without a gap: the row of an accepted id stays until then. -/
theorem heldUntil_accepted {id : String} {expiry : ℤ} (hcovers : CoversWindow expiry)
    {s s' : ReplayState} {call : ReplayCall} (haccepts : s.Accepts call id expiry)
    (h : replayStep s call = some s') : HeldUntil id expiry s' := by
  obtain ⟨-, hzero, hread, rfl⟩ := replayStep_eq_some h
  by_cases hpast : expiry ≤ 0
  · left
    show expiry ≤ call.now
    omega
  · refine .inr ⟨_, (accepted_row haccepts).2, rfl, ?_⟩
    unfold CoversWindow at hcovers
    unfold storedExpiry
    unfold minUnixTimestamp maxUnixTimestamp nanosPerSecond nanosPerMicro at *
    split <;> dsimp only <;> omega

/-! ## In the gap -/

/-- The insert of an id, at an instant. -/
def insertAt (id : String) (expiry now : ℤ) : ReplayCall := ⟨.checkAndInsert id expiry, none, now, now⟩

/-- The cleanup, at an instant. -/
def cleanupAt (now : ℤ) : ReplayCall := ⟨.cleanup, none, now, now⟩

/-- The insert of an id without a row accepts it, and leaves a row with the stored expiry. -/
theorem accepts_insertAt (s : ReplayState) (id : String) (hfree : ∀ r ∈ s.ids.rows, r.id ≠ id)
    (expiry now : ℤ) : s.Accepts (insertAt id expiry now) id expiry ∧
      ((insertAt id expiry now).table s.ids).rows = ⟨id, storedExpiry now expiry⟩ :: s.ids.rows := by
  have hnew : ¬ s.ids.Affects (AssertionIdRow.SameId ⟨id, storedExpiry now expiry⟩) := by
    rintro ⟨r, hr, hsame⟩
    exact hfree r hr hsame.symm
  obtain ⟨htrue, hrows⟩ := Table.insertNew_of_free hnew
  refine ⟨⟨rfl, ?_⟩, ?_⟩
  · simpa [checkAndInsert, checkAndInsertInner, insertAt] using htrue
  · simpa [ReplayCall.table, checkAndInsert, checkAndInsertInner, insertAt] using hrows

/-- A statement takes effect once its instants are in order. -/
theorem replayStep_of_le (s : ReplayState) (call : ReplayCall) (hclock : s.clock ≤ call.now)
    (hzero : 0 ≤ call.read) (hread : call.read ≤ call.now) :
    replayStep s call = some ⟨call.table s.ids, call.now⟩ := by
  unfold replayStep
  rw [if_pos ⟨hclock, hzero, hread⟩]

/-- A table of expired rows is empty after the cleanup. -/
theorem rows_cleanupAt {ids : AssertionIds} {gap : ℤ}
    (hlate : ∀ r ∈ ids.rows, r.expiresAt < gap / nanosPerMicro) :
    ((cleanupAt gap).table ids).rows = [] := by
  show (ids.deleteWhere fun r => r.expiresAt < gap / nanosPerMicro).rows = []
  rw [Table.rows_deleteWhere, List.filter_eq_nil_iff]
  intro r hr
  simp [hlate r hr]

/-- Once the stored expiry has passed, a cleanup makes the id new again. -/
theorem not_protected_of_gap {expiry gap : ℤ} (hgap : 0 ≤ gap) (hearly : gap < expiry)
    (hlate : storedExpiry 0 expiry < gap / nanosPerMicro) : ¬ ReplayProtected expiry := by
  intro hprotected
  have hempty : ∀ r ∈ ReplayState.start.ids.rows, r.id ≠ "a" := by simp [ReplayState.start]
  obtain ⟨haccepts, hrows⟩ := accepts_insertAt .start "a" hempty expiry 0
  have hinsert := replayStep_of_le .start (insertAt "a" expiry 0) (by simp [insertAt, ReplayState.start])
    (by simp [insertAt]) (by simp [insertAt])
  have hrefused := hprotected "a" [] _ [cleanupAt gap, insertAt "a" expiry gap] .start _ rfl haccepts
    hinsert
  generalize (insertAt "a" expiry 0).table ReplayState.start.ids = ids at hrows hrefused
  have hgone : ((cleanupAt gap).table ids).rows = [] := by
    apply rows_cleanupAt
    intro r hr
    rw [hrows] at hr
    obtain rfl := List.mem_singleton.mp hr
    exact hlate
  have hcleanup := replayStep_of_le ⟨ids, 0⟩ (cleanupAt gap) hgap hgap (by simp [cleanupAt])
  -- the cleanup is the first call of the rest, the second insert the next one
  obtain ⟨-, hafter⟩ := hrefused
  simp only [insertAt, hcleanup] at hafter
  obtain ⟨hsecond, -⟩ := hafter
  have hagain := replayStep_of_le ⟨(cleanupAt gap).table ids, gap⟩ (insertAt "a" expiry gap) (Int.le_refl gap) hgap
    (Int.le_refl gap)
  refine hsecond (by simp [cleanupAt, insertAt] at hagain ⊢; simp [hagain]) hearly expiry ?_
  exact (accepts_insertAt ⟨(cleanupAt gap).table ids, gap⟩ "a" (by simp [hgone]) expiry gap).1

/-- Every expiry that does not cover the window leaves such a gap. -/
theorem gap_of_not_covers {expiry : ℤ} (h : ¬ CoversWindow expiry) :
    ∃ gap, 0 ≤ gap ∧ gap < expiry ∧ storedExpiry 0 expiry < gap / nanosPerMicro := by
  unfold CoversWindow at h
  push Not at h
  obtain ⟨hpos, hgap⟩ := h
  unfold storedExpiry
  unfold minUnixTimestamp maxUnixTimestamp nanosPerSecond nanosPerMicro at *
  by_cases hrange : expiry / 1000000000 ≤ 253402300799
  · refine ⟨expiry / 1000000000 * 1000000000 + 1000, ?_, ?_, ?_⟩
    · omega
    · omega
    · rw [if_pos (by omega)]
      omega
  · refine ⟨3600000001000, ?_, ?_, ?_⟩
    · omega
    · omega
    · rw [if_neg (by omega)]
      omega

/-- **The window of an assertion is covered just where its expiry has no gap.** In every run of
inserts and cleanups of any number of replicas an id that was accepted is refused until its expiry,
if and only if the expiry is stored as it is. -/
theorem replay_protected_iff (expiry : ℤ) : ReplayProtected expiry ↔ CoversWindow expiry := by
  constructor
  · intro hprotected
    by_contra hcovers
    obtain ⟨gap, hgap, hearly, hlate⟩ := gap_of_not_covers hcovers
    exact not_protected_of_gap hgap hearly hlate hprotected
  · intro hcovers id before call later s s' _ haccepts hstep
    exact refusedUntil_of_heldUntil (heldUntil_accepted hcovers haccepts hstep) later

/-- An assertion that expires half a second after the full second is accepted twice: a cleanup comes a
quarter of a second before the expiry, and then the assertion again. -/
theorem accepted_twice :
    let half := 1500000000
    let first := insertAt "assertion" half 0
    let second := insertAt "assertion" half 1250000001
    (∃ s s', replayStep .start first = some s ∧ ReplayState.start.Accepts first "assertion" half ∧
      replayStep s (cleanupAt 1250000000) = some s' ∧ (replayStep s' second).isSome ∧
      second.now < half ∧ s'.Accepts second "assertion" half) ∧ ¬ ReplayProtected half := by
  refine ⟨⟨_, _, rfl, ?_, rfl, ?_, ?_, ?_⟩, ?_⟩
  · decide
  · decide
  · decide
  · decide
  · exact @not_protected_of_gap 1500000000 1250000000 (by decide) (by decide) (by decide)

end SsoGateway
