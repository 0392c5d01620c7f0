import SsoGateway.Lib.Table
import SsoGateway.Lib.TokenBucket
import Mathlib.Data.List.Nodup
import Mathlib.Data.List.Perm.Subperm
import Mathlib.Data.Rat.Cast.Order

/-!
# The rate limiter

A bucket for each key, in a map that is bounded: a new key that meets a map of `maxRateLimitKeys`
buckets first drops the buckets whose stored count is full, and then, if that was not enough, all of
them. Counts are rational numbers here, and seconds are.

* `RateLimiter.check` — one call.
* `Spared` — no call for another key clears the map while the key's bucket is not full again.
* `rate_limit_isolated` — along such calls the answers for a key depend on its own calls alone.
* `noisy_neighbour` — ten thousand other keys give a key its tokens back.

Source: `middleware.rs` `RateLimiter`.
-/

namespace SsoGateway

open Lib

/-! ## The limiter -/

/-- Source: `RateLimiter`. The rate is a quotient by `per`. -/
structure RateLimiter where
  max : ℕ
  per : ℚ
  perPos : 0 < per

/-- `self.max as f64`. -/
def RateLimiter.cap (lim : RateLimiter) : ℚ := lim.max

/-- Source: `refill_rate`. -/
def RateLimiter.refillRate (lim : RateLimiter) : ℚ := lim.cap / lim.per

/-- Source: `MAX_RATE_LIMIT_KEYS`. -/
def maxRateLimitKeys : ℕ := 10000

/-- Source: `RateLimiterState`, with its key. -/
structure RateLimiterState where
  key : String
  bucket : TokenBucket ℚ
deriving DecidableEq, Repr

/-- One bucket for a key. -/
def RateLimiterState.SameKey (s s' : RateLimiterState) : Prop := s.key = s'.key

instance : DecidableRel RateLimiterState.SameKey := fun s s' => inferInstanceAs (Decidable (s.key = s'.key))

/-- The map of buckets. -/
abbrev Buckets := Table RateLimiterState RateLimiterState.SameKey

/-- A call: its key, the instant a new bucket is opened at, and the instant that is read after it. -/
structure RateCall where
  key : String
  opened : ℚ
  now : ℚ
deriving DecidableEq, Repr

namespace RateLimiter

variable (lim : RateLimiter)

/-- The key is new to a map that has no room. -/
def Overflows (buckets : Buckets) (key : String) : Prop :=
  ¬ (buckets.Affects fun s => s.key = key) ∧ maxRateLimitKeys ≤ buckets.rows.length

instance (buckets : Buckets) (key : String) : Decidable (Overflows buckets key) :=
  inferInstanceAs (Decidable (_ ∧ _))

/-- `buckets.retain(|_, s| s.tokens < max)`. -/
def retained (buckets : Buckets) : Buckets := buckets.deleteWhere fun s => ¬ s.bucket.tokens < lim.cap

/-- The map before a bucket for `key` is looked up. -/
def evict (buckets : Buckets) (key : String) : Buckets :=
  if Overflows buckets key then
    if maxRateLimitKeys ≤ (lim.retained buckets).rows.length then .empty else lim.retained buckets
  else buckets

/-- The bucket of a key after an attempt. -/
def charge (now : ℚ) (key : String) (s : RateLimiterState) : RateLimiterState :=
  if s.key = key then { s with bucket := (s.bucket.take lim.cap lim.refillRate now).2 } else s

theorem charge_key (now : ℚ) (key : String) (s : RateLimiterState) : (lim.charge now key s).key = s.key := by
  unfold charge
  split <;> rfl

theorem charge_sameKey (now : ℚ) (key : String) (s s' : RateLimiterState) :
    (lim.charge now key s).SameKey (lim.charge now key s') ↔ s.SameKey s' := by
  simp [RateLimiterState.SameKey, charge_key]

/-- An attempt on the bucket of a key, which is opened first where there is none. -/
def attempt (call : RateCall) (buckets : Buckets) : Bool × Buckets :=
  match buckets.find? fun s => s.key = call.key with
  | some s => ((s.bucket.take lim.cap lim.refillRate call.now).1,
      buckets.modify (lim.charge call.now call.key) (lim.charge_sameKey call.now call.key))
  | none =>
      let r := (TokenBucket.full lim.cap call.opened).take lim.cap lim.refillRate call.now
      (r.1, (buckets.insertNew ⟨call.key, r.2⟩).1)

/-- Source: `check`. -/
def check (call : RateCall) (buckets : Buckets) : Bool × Buckets :=
  lim.attempt call (lim.evict buckets call.key)

/-- Calls one after another, each with its answer. -/
def checks : Buckets → List RateCall → List (RateCall × Bool)
  | _, [] => []
  | buckets, call :: calls =>
      (call, (lim.check call buckets).1) :: checks (lim.check call buckets).2 calls

/-- The answers for one key, from an empty map. -/
def answersFor (key : String) (calls : List RateCall) : List (RateCall × Bool) :=
  (lim.checks .empty calls).filter fun r => r.1.key = key

/-- A call clears the map. -/
def Clears (buckets : Buckets) (key : String) : Prop :=
  Overflows buckets key ∧ maxRateLimitKeys ≤ (lim.retained buckets).rows.length

/-- The bucket of a key, if it has one, is full again. -/
def Refilled (key : String) (now : ℚ) (buckets : Buckets) : Prop :=
  ∀ s ∈ buckets.rows, s.key = key → lim.cap ≤ s.bucket.level lim.cap lim.refillRate now

/-- No call for another key clears the map while the bucket of `key` is not full again. -/
def Spared (key : String) : Buckets → List RateCall → Prop
  | _, [] => True
  | buckets, call :: calls =>
      (call.key ≠ key → lim.Clears buckets call.key → lim.Refilled key call.opened buckets) ∧
        Spared key (lim.check call buckets).2 calls

end RateLimiter

/-- The clock of the calls does not run backwards. -/
structure Clocked (calls : List RateCall) : Prop where
  opened : ∀ call ∈ calls, call.opened ≤ call.now
  later : calls.Pairwise fun call call' => call.now ≤ call'.opened

/-! ## A key alone -/

namespace RateLimiter

variable {lim : RateLimiter} {key : String}

/-- The answers of a bucket that nothing but its own calls touches. -/
def alone (lim : RateLimiter) : TokenBucket ℚ → List RateCall → List (RateCall × Bool)
  | _, [] => []
  | b, call :: calls =>
      (call, (b.take lim.cap lim.refillRate call.now).1) ::
        lim.alone (b.take lim.cap lim.refillRate call.now).2 calls

theorem cap_nonneg (lim : RateLimiter) : 0 ≤ lim.cap := Nat.cast_nonneg lim.max

theorem refillRate_nonneg (lim : RateLimiter) : 0 ≤ lim.refillRate :=
  div_nonneg lim.cap_nonneg lim.perPos.le

/-- The map keeps `b` as the bucket of the key, or has none while `b` is full at `t`. -/
def Tracks (lim : RateLimiter) (key : String) (t : ℚ) (buckets : Buckets) (b : TokenBucket ℚ) : Prop :=
  (∃ s ∈ buckets.rows, s.key = key ∧ s.bucket = b) ∨
    (¬ (buckets.Affects fun s => s.key = key) ∧ lim.cap ≤ b.level lim.cap lim.refillRate t)

theorem Tracks.mono {t t' : ℚ} {buckets : Buckets} {b : TokenBucket ℚ}
    (h : lim.Tracks key t buckets b) (ht : t ≤ t') : lim.Tracks key t' buckets b := by
  rcases h with h | ⟨hnone, hfull⟩
  · exact .inl h
  · exact .inr ⟨hnone, (TokenBucket.level_of_full lim.refillRate_nonneg ht hfull).ge⟩

/-- The one row of a key is the one that is found. -/
theorem find_of_mem {buckets : Buckets} {s : RateLimiterState} (hs : s ∈ buckets.rows) :
    buckets.find? (fun s' => s'.key = s.key) = some s :=
  Table.find?_eq_of_unique hs rfl fun _ hs' hkey =>
    Table.eq_of_conflicts (fun _ _ h => h.symm) hs' hs hkey

theorem mem_insertNew {buckets : Buckets} {s : RateLimiterState}
    (hnew : ¬ buckets.Affects fun s' => s'.key = s.key) :
    (buckets.insertNew s).1.rows = s :: buckets.rows := by
  refine (Table.insertNew_of_free ?_).2
  rintro ⟨s', hs', hsame⟩
  exact hnew ⟨s', hs', hsame.symm⟩

/-- An attempt on the bucket of the key itself is one on the bucket alone. -/
theorem attempt_own {call : RateCall} {buckets : Buckets} {b : TokenBucket ℚ}
    (h : lim.Tracks call.key call.opened buckets b) (hclock : call.opened ≤ call.now) :
    (lim.attempt call buckets).1 = (b.take lim.cap lim.refillRate call.now).1 ∧
      ∃ s ∈ (lim.attempt call buckets).2.rows, s.key = call.key ∧
        s.bucket = (b.take lim.cap lim.refillRate call.now).2 := by
  unfold attempt
  rcases h with ⟨s, hs, hkey, rfl⟩ | ⟨hnone, hfull⟩
  · have hfind := find_of_mem hs
    rw [hkey] at hfind
    rw [hfind]
    refine ⟨rfl, lim.charge call.now call.key s, List.mem_map_of_mem hs, ?_, ?_⟩
    · rw [charge_key, hkey]
    · simp [charge, hkey]
  · rw [Table.find?_eq_none.mpr hnone]
    have hlevel : b.level lim.cap lim.refillRate call.now = lim.cap :=
      TokenBucket.level_of_full lim.refillRate_nonneg hclock hfull
    have hsame := TokenBucket.take_congr
      ((TokenBucket.level_full (t := call.opened) lim.refillRate_nonneg).trans hlevel.symm)
    have hrows := mem_insertNew (s := ⟨call.key, ((TokenBucket.full lim.cap call.opened).take lim.cap
      lim.refillRate call.now).2⟩) hnone
    refine ⟨by simp only [hsame], ⟨call.key, ((TokenBucket.full lim.cap call.opened).take lim.cap
      lim.refillRate call.now).2⟩, ?_, rfl, congrArg Prod.snd hsame⟩
    simp only [hrows]
    exact List.mem_cons_self

/-- An attempt on another key leaves the key's bucket alone. -/
theorem attempt_other {call : RateCall} {buckets : Buckets} {b : TokenBucket ℚ} {t : ℚ}
    (h : lim.Tracks key t buckets b) (hother : call.key ≠ key) :
    lim.Tracks key t (lim.attempt call buckets).2 b := by
  have hcharge : ∀ s : RateLimiterState, s.key = key → lim.charge call.now call.key s = s := by
    rintro s rfl
    exact if_neg hother.symm
  unfold attempt
  rcases hfind : buckets.find? fun s => s.key = call.key with _ | s₀
  · have hrows := mem_insertNew (s := ⟨call.key, ((TokenBucket.full lim.cap call.opened).take lim.cap
      lim.refillRate call.now).2⟩) (Table.find?_eq_none.mp hfind)
    rcases h with ⟨s, hs, hrest⟩ | ⟨hnone, hfull⟩
    · refine .inl ⟨s, ?_, hrest⟩
      rw [hrows]
      exact List.mem_cons_of_mem _ hs
    · refine .inr ⟨?_, hfull⟩
      rintro ⟨s, hs, hkey⟩
      rw [hrows] at hs
      rcases List.mem_cons.mp hs with rfl | hs
      · exact hother hkey
      · exact hnone ⟨s, hs, hkey⟩
  · rcases h with ⟨s, hs, hkey, hbucket⟩ | ⟨hnone, hfull⟩
    · refine .inl ⟨s, ?_, hkey, hbucket⟩
      rw [← hcharge s hkey]
      exact List.mem_map_of_mem hs
    · refine .inr ⟨?_, hfull⟩
      rintro ⟨s, hs, hkey⟩
      obtain ⟨s', hs', rfl⟩ := List.mem_map.mp hs
      rw [charge_key] at hkey
      exact hnone ⟨s', hs', hkey⟩

theorem evict_subset {buckets : Buckets} {k : String} :
    ∀ s ∈ (lim.evict buckets k).rows, s ∈ buckets.rows := by
  intro s hs
  unfold evict at hs
  split at hs
  · split at hs
    · exact absurd hs List.not_mem_nil
    · exact (Table.mem_deleteWhere.mp hs).1
  · exact hs

/-- What is dropped to make room is full, or the map is cleared. -/
theorem evict_tracks {call : RateCall} {buckets : Buckets} {b : TokenBucket ℚ}
    (h : lim.Tracks key call.opened buckets b)
    (hspared : lim.Clears buckets call.key → lim.Refilled key call.opened buckets) :
    lim.Tracks key call.opened (lim.evict buckets call.key) b := by
  -- A bucket that is dropped was full by its stored count, or the whole map went.
  have hgone : ∀ s ∈ buckets.rows, s.key = key → s ∉ (lim.evict buckets call.key).rows →
      lim.cap ≤ s.bucket.level lim.cap lim.refillRate call.opened := by
    intro s hs hkey hnot
    by_cases hover : Overflows buckets call.key
    · by_cases hclear : maxRateLimitKeys ≤ (lim.retained buckets).rows.length
      · exact hspared ⟨hover, hclear⟩ s hs hkey
      · simp only [evict, hover, hclear, if_true, if_false] at hnot
        have hstored : lim.cap ≤ s.bucket.tokens := by
          by_contra hlow
          exact hnot (Table.mem_deleteWhere.mpr ⟨hs, not_not.mpr (not_le.mp hlow)⟩)
        exact TokenBucket.le_level lim.refillRate_nonneg hstored
    · simp only [evict, hover, if_false] at hnot
      exact absurd hs hnot
  rcases h with ⟨s, hs, hkey, rfl⟩ | ⟨hnone, hfull⟩
  · by_cases hkept : s ∈ (lim.evict buckets call.key).rows
    · exact .inl ⟨s, hkept, hkey, rfl⟩
    · refine .inr ⟨?_, hgone s hs hkey hkept⟩
      rintro ⟨s', hs', hkey'⟩
      obtain rfl : s' = s := Table.eq_of_conflicts (fun _ _ h => h.symm) (evict_subset s' hs') hs
        (hkey'.trans hkey.symm)
      exact hkept hs'
  · refine .inr ⟨?_, hfull⟩
    rintro ⟨s, hs, hkey⟩
    exact hnone ⟨s, evict_subset s hs, hkey⟩

/-! ## Runs -/

/-- The instants of the calls, with the answers. -/
def timed (answers : List (RateCall × Bool)) : List (ℚ × Bool) := answers.map fun r => (r.1.now, r.2)

theorem timed_alone (b : TokenBucket ℚ) (calls : List RateCall) :
    timed (lim.alone b calls) = b.takes lim.cap lim.refillRate (calls.map RateCall.now) := by
  induction calls generalizing b with
  | nil => rfl
  | cons call calls ih => simp [timed, alone, TokenBucket.takes, ← ih]

theorem Clocked.cons {call : RateCall} {calls : List RateCall} (h : Clocked (call :: calls)) :
    call.opened ≤ call.now ∧ (∀ call' ∈ calls, call.now ≤ call'.opened) ∧ Clocked calls := by
  obtain ⟨hlater, hrest⟩ := List.pairwise_cons.mp h.later
  exact ⟨h.opened call List.mem_cons_self, hlater,
    ⟨fun call' hcall' => h.opened call' (List.mem_cons_of_mem call hcall'), hrest⟩⟩

/-- Along spared calls the key is answered as its bucket alone would be. -/
theorem checks_alone (calls : List RateCall) {buckets : Buckets} {b : TokenBucket ℚ}
    (hclock : Clocked calls) (hspared : lim.Spared key buckets calls)
    (htracks : ∀ call ∈ calls, lim.Tracks key call.opened buckets b) :
    ((lim.checks buckets calls).filter fun r => r.1.key = key) =
      lim.alone b (calls.filter fun call => call.key = key) := by
  induction calls generalizing buckets b with
  | nil => rfl
  | cons call calls ih =>
      obtain ⟨hopened, hlater, hclock⟩ := Clocked.cons hclock
      obtain ⟨hclear, hspared⟩ := hspared
      have hnow := htracks call List.mem_cons_self
      by_cases hkey : call.key = key
      · subst hkey
        have hevicted := evict_tracks hnow fun hclears => by
          intro s hs hkey
          exact absurd ⟨s, hs, hkey⟩ hclears.1.1
        obtain ⟨hanswer, s, hs, hkey, hbucket⟩ := attempt_own hevicted hopened
        have hrest := ih (b := (b.take lim.cap lim.refillRate call.now).2) hclock hspared
          fun call' _ => .inl ⟨s, hs, hkey, hbucket⟩
        simp only [checks, List.filter_cons, decide_true, if_true, alone]
        rw [hrest, check, hanswer]
      · have hkept := attempt_other (evict_tracks hnow (hclear hkey)) hkey
        have hrest := ih hclock hspared fun call' hcall' =>
          hkept.mono (hopened.trans (hlater call' hcall'))
        simp only [checks, List.filter_cons, hkey, decide_false, Bool.false_eq_true, if_false]
        exact hrest

/-- **A key's answers are its own.** Where no call for another key clears the map while the key's
bucket is not full again, the answers are those of any other such sequence with the same calls for
the key, and in a window of length `t` at most `max + max * t / per` calls are allowed. -/
theorem rate_limit_isolated {calls calls' : List RateCall} (hclock : Clocked calls)
    (hclock' : Clocked calls') (hspared : lim.Spared key .empty calls)
    (hspared' : lim.Spared key .empty calls')
    (hsame : (calls.filter fun call => call.key = key) = calls'.filter fun call => call.key = key) :
    lim.answersFor key calls = lim.answersFor key calls' ∧
      ∀ a u : ℚ, a ≤ u → (TokenBucket.takenWithin a u (timed (lim.answersFor key calls)) : ℚ) ≤
        lim.max + lim.max * (u - a) / lim.per := by
  have hfull : ∀ t, lim.Tracks key t .empty (TokenBucket.full lim.cap 0) := fun t =>
    .inr ⟨by simp [Table.Affects], (TokenBucket.level_full lim.refillRate_nonneg).ge⟩
  have halone := checks_alone calls hclock hspared fun call _ => hfull call.opened
  have halone' := checks_alone calls' hclock' hspared' fun call _ => hfull call.opened
  refine ⟨?_, fun a u hau => ?_⟩
  · unfold answersFor
    rw [halone, halone', hsame]
  · have hsorted : ((calls.filter fun call => call.key = key).map RateCall.now).Pairwise
        fun t t' => t ≤ t' := by
      rw [List.pairwise_map]
      refine List.Pairwise.filter _ (hclock.later.imp_of_mem ?_)
      intro call call' _ hcall' hle
      exact hle.trans (hclock.opened call' hcall')
    have hbound := TokenBucket.taken_le lim.cap_nonneg lim.refillRate_nonneg hau hsorted
      (b := TokenBucket.full lim.cap 0) lim.cap_nonneg
    unfold answersFor
    rw [halone, timed_alone]
    refine hbound.trans (le_of_eq ?_)
    simp only [cap, refillRate]
    ring

/-! ## Few keys -/

theorem check_keys {call : RateCall} {buckets : Buckets} {s : RateLimiterState}
    (hs : s ∈ (lim.check call buckets).2.rows) :
    s.key = call.key ∨ ∃ s' ∈ buckets.rows, s'.key = s.key := by
  have hsub : ∀ s ∈ (lim.evict buckets call.key).rows, s ∈ buckets.rows := evict_subset
  unfold check attempt at hs
  split at hs
  · obtain ⟨s', hs', rfl⟩ := List.mem_map.mp hs
    exact .inr ⟨s', hsub s' hs', (charge_key ..).symm⟩
  · rename_i hnone
    rw [mem_insertNew (Table.find?_eq_none.mp hnone)] at hs
    rcases List.mem_cons.mp hs with rfl | hs
    · exact .inl rfl
    · exact .inr ⟨s, hsub s hs, rfl⟩

theorem keys_nodup (buckets : Buckets) : (buckets.rows.map RateLimiterState.key).Nodup := by
  unfold List.Nodup
  rw [List.pairwise_map]
  exact buckets.apart

/-- With at most `maxRateLimitKeys` keys, nothing is ever evicted. -/
theorem spared_of_few_keys (keys : List String) (hfew : keys.length ≤ maxRateLimitKeys)
    (calls : List RateCall) {buckets : Buckets} (hin : ∀ call ∈ calls, call.key ∈ keys)
    (hbuckets : ∀ s ∈ buckets.rows, s.key ∈ keys) : lim.Spared key buckets calls := by
  induction calls generalizing buckets with
  | nil => trivial
  | cons call calls ih =>
      have hcall := hin call List.mem_cons_self
      refine ⟨fun _ hclears => ?_, ih (fun call' hcall' => hin call' (List.mem_cons_of_mem call hcall')) ?_⟩
      · obtain ⟨hnew, hroom⟩ := hclears.1
        have hnodup : (call.key :: buckets.rows.map RateLimiterState.key).Nodup := by
          refine List.nodup_cons.mpr ⟨?_, keys_nodup buckets⟩
          intro hmem
          obtain ⟨s, hs, hkey⟩ := List.mem_map.mp hmem
          exact hnew ⟨s, hs, hkey⟩
        have hsubset : call.key :: buckets.rows.map RateLimiterState.key ⊆ keys := by
          intro k hk
          rcases List.mem_cons.mp hk with rfl | hk
          · exact hcall
          · obtain ⟨s, hs, rfl⟩ := List.mem_map.mp hk
            exact hbuckets s hs
        have hle := (hnodup.subperm hsubset).length_le
        simp only [List.length_cons, List.length_map] at hle
        omega
      · intro s hs
        rcases check_keys hs with hkey | ⟨s', hs', hkey⟩
        · exact hkey ▸ hcall
        · exact hkey ▸ hbuckets s' hs'

end RateLimiter

/-- One request a second for each key. -/
def onePerSecond : RateLimiter := ⟨1, 1, one_pos⟩

/-- Two calls of one key, with another key's call between them or without. -/
theorem rate_limit_isolated_two :
    onePerSecond.answersFor "a" [⟨"a", 0, 0⟩, ⟨"b", 0, 0⟩, ⟨"a", 0, 0⟩] =
      onePerSecond.answersFor "a" [⟨"a", 0, 0⟩, ⟨"a", 0, 0⟩] := by
  have hclock : ∀ calls : List RateCall, (∀ call ∈ calls, call.opened = 0 ∧ call.now = 0) →
      Clocked calls := by
    intro calls h
    refine ⟨fun call hcall => by simp [h call hcall], List.pairwise_of_forall_mem_list ?_⟩
    intro call hcall call' hcall'
    simp [h call hcall, h call' hcall']
  have hspared : ∀ calls : List RateCall, (∀ call ∈ calls, call.key ∈ ["a", "b"]) →
      onePerSecond.Spared "a" .empty calls := fun calls hin =>
    RateLimiter.spared_of_few_keys ["a", "b"] (by decide) calls hin (by simp)
  exact (RateLimiter.rate_limit_isolated (hclock _ (by decide)) (hclock _ (by decide))
    (hspared _ (by decide)) (hspared _ (by decide)) (by decide)).1

/-! ## Many keys -/

namespace RateLimiter

variable {lim : RateLimiter}

theorem one_le_cap (hmax : 1 ≤ lim.max) : 1 ≤ lim.cap := Nat.one_le_cast.mpr hmax

/-- An attempt never leaves a bucket full, so none is ever recognised as full. -/
theorem stored_lt (hmax : 1 ≤ lim.max) {call : RateCall} {buckets : Buckets}
    (h : ∀ s ∈ buckets.rows, s.bucket.tokens < lim.cap) :
    ∀ s ∈ (lim.check call buckets).2.rows, s.bucket.tokens < lim.cap := by
  have hone : 1 ≤ lim.cap := one_le_cap hmax
  have hsub : ∀ s ∈ (lim.evict buckets call.key).rows, s ∈ buckets.rows := evict_subset
  intro s hs
  unfold check attempt at hs
  split at hs
  · obtain ⟨s', hs', rfl⟩ := List.mem_map.mp hs
    unfold charge
    split
    · exact TokenBucket.take_lt hone
    · exact h s' (hsub s' hs')
  · rename_i hnone
    rw [mem_insertNew (Table.find?_eq_none.mp hnone)] at hs
    rcases List.mem_cons.mp hs with rfl | hs
    · exact TokenBucket.take_lt hone
    · exact h s (hsub s hs)

theorem retained_rows {buckets : Buckets} (h : ∀ s ∈ buckets.rows, s.bucket.tokens < lim.cap) :
    (lim.retained buckets).rows = buckets.rows := by
  refine List.filter_eq_self.mpr fun s hs => ?_
  simp [h s hs]

/-- The map after a sequence of calls. -/
def after (lim : RateLimiter) : Buckets → List RateCall → Buckets
  | buckets, [] => buckets
  | buckets, call :: calls => lim.after (lim.check call buckets).2 calls

theorem checks_append (buckets : Buckets) (calls calls' : List RateCall) :
    lim.checks buckets (calls ++ calls') =
      lim.checks buckets calls ++ lim.checks (lim.after buckets calls) calls' := by
  induction calls generalizing buckets with
  | nil => rfl
  | cons call calls ih => simp [checks, after, ih]

theorem after_append (buckets : Buckets) (calls calls' : List RateCall) :
    lim.after buckets (calls ++ calls') = lim.after (lim.after buckets calls) calls' := by
  induction calls generalizing buckets with
  | nil => rfl
  | cons call calls ih => simp [after, ih]

theorem checks_calls (lim : RateLimiter) (buckets : Buckets) (calls : List RateCall) :
    (lim.checks buckets calls).map Prod.fst = calls := by
  induction calls generalizing buckets with
  | nil => rfl
  | cons call calls ih => simp [checks, ih]

/-- Calls for other keys have no answer for the key. -/
theorem filter_checks_of_ne {key : String} (buckets : Buckets) {calls : List RateCall}
    (h : key ∉ calls.map RateCall.key) :
    ((lim.checks buckets calls).filter fun r => r.1.key = key) = [] := by
  refine List.filter_eq_nil_iff.mpr fun r hr hkey => h ?_
  have hcall : r.1 ∈ calls := checks_calls lim buckets calls ▸ List.mem_map_of_mem hr
  exact of_decide_eq_true hkey ▸ List.mem_map_of_mem hcall

/-- A new key is answered from a full bucket. -/
theorem check_new (call : RateCall) (buckets : Buckets) (hmax : 1 ≤ lim.max)
    (hnew : ¬ (lim.evict buckets call.key).Affects fun s => s.key = call.key) :
    (lim.check call buckets).1 = true ∧
      ∃ b, (lim.check call buckets).2.rows = ⟨call.key, b⟩ :: (lim.evict buckets call.key).rows := by
  unfold check attempt
  rw [Table.find?_eq_none.mpr hnew]
  refine ⟨?_, _, mem_insertNew hnew⟩
  have hlevel : (TokenBucket.full lim.cap call.opened).level lim.cap lim.refillRate call.now = lim.cap :=
    TokenBucket.level_full lim.refillRate_nonneg
  simp [TokenBucket.take, hlevel, one_le_cap hmax]

/-- New keys fill the map up, one bucket each. -/
theorem after_new_keys (hmax : 1 ≤ lim.max) (calls : List RateCall) (buckets : Buckets)
    (hdistinct : (calls.map RateCall.key).Nodup)
    (hnew : ∀ call ∈ calls, ¬ buckets.Affects fun s => s.key = call.key)
    (hroom : buckets.rows.length + calls.length ≤ maxRateLimitKeys) :
    (lim.after buckets calls).rows.length = buckets.rows.length + calls.length ∧
      ∀ k, (lim.after buckets calls).Affects (fun s => s.key = k) →
        buckets.Affects (fun s => s.key = k) ∨ k ∈ calls.map RateCall.key := by
  induction calls generalizing buckets with
  | nil => exact ⟨rfl, fun k hk => .inl hk⟩
  | cons call calls ih =>
      obtain ⟨hfirst, hdistinct⟩ := List.nodup_cons.mp hdistinct
      simp only [List.length_cons] at hroom
      have hevict : lim.evict buckets call.key = buckets := by
        refine if_neg fun hover => ?_
        have := hover.2
        omega
      obtain ⟨-, b, hrows⟩ := check_new call buckets hmax (hevict.symm ▸ hnew call List.mem_cons_self)
      rw [hevict] at hrows
      have hkeys : ∀ k, (lim.check call buckets).2.Affects (fun s => s.key = k) →
          k = call.key ∨ buckets.Affects fun s => s.key = k := by
        rintro k ⟨s, hs, rfl⟩
        rw [hrows] at hs
        rcases List.mem_cons.mp hs with rfl | hs
        · exact .inl rfl
        · exact .inr ⟨s, hs, rfl⟩
      have hlength : (lim.check call buckets).2.rows.length = buckets.rows.length + 1 := by
        rw [hrows, List.length_cons]
      have hrest := ih (lim.check call buckets).2 hdistinct
        (fun call' hcall' haffects => ?_) (by omega)
      · refine ⟨?_, fun k hk => ?_⟩
        · have := hrest.1
          simp only [after, List.length_cons]
          omega
        · rcases hrest.2 k hk with hk | hk
          · rcases hkeys k hk with rfl | hk
            · exact .inr List.mem_cons_self
            · exact .inl hk
          · exact .inr (List.mem_cons_of_mem _ hk)
      · rcases hkeys _ haffects with heq | haffects
        · exact hfirst (heq ▸ List.mem_map_of_mem hcall')
        · exact hnew call' (List.mem_cons_of_mem _ hcall') haffects

theorem stored_lt_after (hmax : 1 ≤ lim.max) (calls : List RateCall) (buckets : Buckets)
    (h : ∀ s ∈ buckets.rows, s.bucket.tokens < lim.cap) :
    ∀ s ∈ (lim.after buckets calls).rows, s.bucket.tokens < lim.cap := by
  induction calls generalizing buckets with
  | nil => exact h
  | cons call calls ih => exact ih _ (stored_lt hmax h)

/-- A new key that meets a full map clears it. -/
theorem check_clears (hmax : 1 ≤ lim.max) (call : RateCall) {buckets : Buckets}
    (h : ∀ s ∈ buckets.rows, s.bucket.tokens < lim.cap)
    (hnew : ¬ buckets.Affects fun s => s.key = call.key)
    (hfull : maxRateLimitKeys ≤ buckets.rows.length) :
    ∃ b, (lim.check call buckets).2.rows = [⟨call.key, b⟩] := by
  have hevict : lim.evict buckets call.key = .empty := by
    unfold evict
    rw [if_pos ⟨hnew, hfull⟩, retained_rows h, if_pos hfull]
  obtain ⟨-, b, hrows⟩ := check_new call buckets hmax
    (by simp [hevict, Table.Affects])
  rw [hevict] at hrows
  exact ⟨b, hrows⟩

end RateLimiter

/-- Calls at the instant `0`, with `n` different keys. -/
def manyKeys (n : ℕ) : List RateCall :=
  (List.range n).map fun i => ⟨String.ofList (List.replicate i 'x'), 0, 0⟩

theorem manyKeys_succ (n : ℕ) :
    manyKeys (n + 1) = manyKeys n ++ [⟨String.ofList (List.replicate n 'x'), 0, 0⟩] := by
  simp [manyKeys, List.range_succ]

theorem manyKeys_distinct (n : ℕ) : ((manyKeys n).map RateCall.key).Nodup := by
  unfold manyKeys
  rw [List.map_map]
  refine List.Nodup.map (fun i j hij => ?_) List.nodup_range
  have hlength := congrArg String.length hij
  simpa using hlength

theorem key_notMem_manyKeys (n : ℕ) : "k" ∉ (manyKeys n).map RateCall.key := by
  unfold manyKeys
  rw [List.map_map]
  intro hmem
  obtain ⟨i, -, hi⟩ := List.mem_map.mp hmem
  have hlist := congrArg String.toList hi
  simp only [Function.comp_apply, String.toList_ofList] at hlist
  have hmem : 'k' ∈ List.replicate i 'x' := hlist ▸ List.mem_cons_self
  exact absurd (List.eq_of_mem_replicate hmem) (by decide)

theorem clocked_of_zero {calls : List RateCall}
    (h : ∀ call ∈ calls, call.opened = 0 ∧ call.now = 0) : Clocked calls := by
  refine ⟨fun call hcall => by simp [h call hcall], List.pairwise_of_forall_mem_list ?_⟩
  intro call hcall call' hcall'
  simp [h call hcall, h call' hcall']

/-- The two calls of a key. -/
def quiet : List RateCall := [⟨"k", 0, 0⟩, ⟨"k", 0, 0⟩]

/-- The same calls, with those of `n` other keys between them. -/
def noisy (n : ℕ) : List RateCall := [⟨"k", 0, 0⟩] ++ manyKeys n ++ [⟨"k", 0, 0⟩]

/-- After the calls of the other keys, the map holds nothing but the last of them. -/
theorem after_manyKeys {n : ℕ} (hn : maxRateLimitKeys = n + 1) :
    ∃ s, (onePerSecond.after .empty ([⟨"k", 0, 0⟩] ++ manyKeys (n + 1))).rows = [s] ∧ s.key ≠ "k" := by
  have hmax : 1 ≤ onePerSecond.max := le_rfl
  have hlength : (manyKeys n).length = n := by simp [manyKeys]
  have hother := key_notMem_manyKeys (n + 1)
  have hdistinct : ((⟨"k", 0, 0⟩ :: manyKeys n : List RateCall).map RateCall.key ++
      [String.ofList (List.replicate n 'x')]).Nodup := by
    have hlast := manyKeys_distinct (n + 1)
    rw [manyKeys_succ, List.map_append] at hlast hother
    exact List.nodup_cons.mpr ⟨hother, hlast⟩
  obtain ⟨hfull, hkeys⟩ := RateLimiter.after_new_keys hmax (⟨"k", 0, 0⟩ :: manyKeys n) .empty
    (List.nodup_append.mp hdistinct).1 (by simp [Table.Affects])
    (by simp [hlength, hn])
  obtain ⟨b, hrows⟩ := RateLimiter.check_clears hmax
    ⟨String.ofList (List.replicate n 'x'), 0, 0⟩
    (RateLimiter.stored_lt_after hmax (⟨"k", 0, 0⟩ :: manyKeys n) .empty (by simp))
    (fun haffects => by
      rcases hkeys _ haffects with hnone | hmem
      · simp [Table.Affects] at hnone
      · exact (List.nodup_append.mp hdistinct).2.2 _ hmem _ List.mem_cons_self rfl)
    (by simp [hfull, hlength, hn])
  rw [manyKeys_succ, ← List.append_assoc, RateLimiter.after_append]
  refine ⟨_, hrows, fun heq => hother ?_⟩
  rw [manyKeys_succ, List.map_append]
  exact List.mem_append_right _ (heq ▸ List.mem_cons_self)

/-- The second call of the key is allowed. -/
theorem answersFor_noisy {n : ℕ} (hn : maxRateLimitKeys = n + 1) :
    (onePerSecond.answersFor "k" (noisy (n + 1))).map Prod.snd = [true, true] := by
  have hmax : 1 ≤ onePerSecond.max := le_rfl
  obtain ⟨s, hrows, hkey⟩ := after_manyKeys hn
  have hfirst : ((onePerSecond.checks .empty [⟨"k", 0, 0⟩]).filter fun r => r.1.key = "k").map Prod.snd =
      [true] := by decide +kernel
  have hlast := RateLimiter.check_new ⟨"k", 0, 0⟩
    (onePerSecond.after .empty ([⟨"k", 0, 0⟩] ++ manyKeys (n + 1))) hmax (by
      rintro ⟨s', hs', hkey'⟩
      have hmem := RateLimiter.evict_subset s' hs'
      rw [hrows, List.mem_singleton] at hmem
      exact hkey (hmem ▸ hkey'))
  unfold RateLimiter.answersFor noisy
  rw [RateLimiter.checks_append, RateLimiter.checks_append, List.filter_append, List.filter_append,
    RateLimiter.filter_checks_of_ne _ (key_notMem_manyKeys (n + 1)), List.append_nil, List.map_append,
    hfirst]
  simp only [RateLimiter.checks, hlast.1]
  rfl

/-- Ten thousand other keys give a key its tokens back: of its two calls, the second is allowed. -/
theorem noisy_neighbour :
    ((noisy maxRateLimitKeys).filter fun call => call.key = "k") =
        (quiet.filter fun call => call.key = "k") ∧
      Clocked quiet ∧ Clocked (noisy maxRateLimitKeys) ∧
      (onePerSecond.answersFor "k" quiet).map Prod.snd = [true, false] ∧
      (onePerSecond.answersFor "k" (noisy maxRateLimitKeys)).map Prod.snd = [true, true] := by
  have hothers : ∀ n, (manyKeys n).filter (fun call => call.key = "k") = [] := by
    intro n
    refine List.filter_eq_nil_iff.mpr fun call hcall hkey => key_notMem_manyKeys n ?_
    exact of_decide_eq_true hkey ▸ List.mem_map_of_mem hcall
  refine ⟨?_, clocked_of_zero (by decide), clocked_of_zero ?_, by decide +kernel, ?_⟩
  · unfold noisy
    rw [List.filter_append, List.filter_append, hothers]
    rfl
  · intro call hcall
    simp only [noisy, manyKeys, List.mem_append, List.mem_singleton, List.mem_map] at hcall
    rcases hcall with (rfl | ⟨i, -, rfl⟩) | rfl <;> exact ⟨rfl, rfl⟩
  · exact answersFor_noisy (n := 9999) rfl

end SsoGateway
