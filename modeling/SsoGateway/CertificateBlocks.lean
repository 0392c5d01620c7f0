import SsoGateway.Lib.Prog
import SsoGateway.Lib.Substrings

/-!
# Certificate blocks

The certificates of a connection and of a service provider are split into their blocks by a cursor that goes
from the end of one block to the next.

* `splitStep`, `splitFrom`, `splitCertificatePemBlocks` — the loop, with the slices that could panic.
* `splitStep_spec` — a turn of the loop cuts off the first block of what is left.
* `splitCertificatePemBlocks_eq` — the loop never panics, and yields the blocks of the text.
* `certificate_blocks` — a text that was put together is split into what it was put together from.
* `filler_completes_marker` — a filler that begins a marker is taken into the block behind it.

Source: `services/federation.rs` and `services/handlers/saml_idp.rs` `split_certificate_pem_blocks`.
-/

namespace SsoGateway

open Lib

/-! ## The loop -/

/-- Source: `BEGIN`. -/
def beginMarker : String := "-----BEGIN CERTIFICATE-----"

/-- Source: `END`. -/
def endMarker : String := "-----END CERTIFICATE-----"

/-- One turn of the loop: the next block, and the cursor behind it. -/
def splitStep (pem : List UInt8) (cursor : ℕ) : Except SliceError (Option (List UInt8 × ℕ)) := do
  let rest ← slice pem cursor pem.length
  match findSub (utf8Bytes beginMarker) rest with
  | none => return none
  | some start =>
      let absStart := cursor + start
      let rest ← slice pem absStart pem.length
      match findSub (utf8Bytes endMarker) rest with
      | none => return none
      | some stop =>
          let absEnd := absStart + stop + (utf8Bytes endMarker).length
          let block ← slice pem absStart absEnd
          return some (block, absEnd)

theorem slice_bounds {bytes l : List UInt8} {i j : ℕ} (h : slice bytes i j = .ok l) :
    i ≤ j ∧ j ≤ bytes.length := by
  unfold slice at h
  split at h
  · simp at h
  · rename_i hbounds
    exact not_not.mp hbounds

/-- The cursor goes forward, and not past the end. -/
theorem splitStep_progress {pem : List UInt8} {cursor : ℕ} {r : List UInt8 × ℕ}
    (h : splitStep pem cursor = .ok (some r)) : cursor < r.2 ∧ r.2 ≤ pem.length := by
  obtain ⟨rest, -, h⟩ := except_bind_eq_ok.mp h
  split at h
  · simp [pure, Except.pure] at h
  obtain ⟨rest', -, h⟩ := except_bind_eq_ok.mp h
  split at h
  · simp [pure, Except.pure] at h
  obtain ⟨block, hblock, h⟩ := except_bind_eq_ok.mp h
  simp only [pure, Except.pure, Except.ok.injEq, Option.some.injEq] at h
  subst h
  have hlength : 0 < (utf8Bytes endMarker).length := by decide
  have hbounds := slice_bounds hblock
  dsimp only
  omega

/-- The loop, from a cursor on. -/
def splitFrom (pem : List UInt8) (cursor : ℕ) : Except SliceError (List (List UInt8)) :=
  match h : splitStep pem cursor with
  | .error e => .error e
  | .ok none => .ok []
  | .ok (some r) => (splitFrom pem r.2).map fun blocks => r.1 :: blocks
termination_by pem.length - cursor
decreasing_by
  have := splitStep_progress h
  omega

/-- Source: `split_certificate_pem_blocks`. -/
def splitCertificatePemBlocks (pem : String) : Except SliceError (List (List UInt8)) :=
  splitFrom (utf8Bytes pem) 0

/-! ## The blocks -/

/-- The two markers. -/
def certificateMarkers : Markers UInt8 where
  opening := utf8Bytes beginMarker
  closing := utf8Bytes endMarker
  opening_ne := by decide
  closing_ne := by decide

/-- A marker that was found begins and ends with a character that may be cut at. -/
theorem isBoundary_of_found {s marker : String} (hmarker : utf8Bytes marker ≠ [])
    (hascii : ∀ b ∈ utf8Bytes marker, b.toNat < 0x80) {i j : ℕ}
    (hfound : findSub (utf8Bytes marker) ((utf8Bytes s).drop i) = some j) :
    isBoundary (utf8Bytes s) (i + j) = true ∧
      isBoundary (utf8Bytes s) (i + j + (utf8Bytes marker).length) = true := by
  obtain ⟨-, ⟨rest, hrest⟩, -⟩ := findSub_eq_some.mp hfound
  rw [List.drop_drop] at hrest
  have hget : ∀ k < (utf8Bytes marker).length, (utf8Bytes s)[i + j + k]? = (utf8Bytes marker)[k]? := by
    intro k hk
    rw [← List.getElem?_drop, ← hrest, List.getElem?_append_left hk]
  have hbyte : ∀ k < (utf8Bytes marker).length, ∃ b, (utf8Bytes s)[i + j + k]? = some b ∧ b.toNat < 0x80 := by
    intro k hk
    rw [hget k hk, List.getElem?_eq_getElem hk]
    exact ⟨_, rfl, hascii _ (List.getElem_mem hk)⟩
  have hlength := List.length_pos_iff.mpr hmarker
  constructor
  · obtain ⟨b, hb, hlow⟩ := hbyte 0 hlength
    exact isBoundary_of_ascii hb hlow
  · obtain ⟨b, hb, hlow⟩ := hbyte ((utf8Bytes marker).length - 1) (by omega)
    have hend := isBoundary_succ hb hlow
    rw [show i + j + ((utf8Bytes marker).length - 1) + 1 = i + j + (utf8Bytes marker).length by omega] at hend
    exact hend

theorem isBoundary_length (bytes : List UInt8) : isBoundary bytes bytes.length = true := by
  simp [isBoundary]

/-- What is left from a place on. -/
theorem slice_rest {bytes : List UInt8} {i : ℕ} (hi : isBoundary bytes i = true) :
    slice bytes i bytes.length = .ok (bytes.drop i) := by
  have hle : i ≤ bytes.length := by
    simp only [isBoundary, Bool.and_eq_true, decide_eq_true_eq] at hi
    exact hi.1
  rw [slice_ok hle hi (isBoundary_length bytes), List.take_length]

/-- **A turn of the loop cuts off the first block of what is left**, and panics nowhere. -/
theorem splitStep_spec {s : String} {cursor : ℕ} (hcursor : isBoundary (utf8Bytes s) cursor = true) :
    (certificateMarkers.cut ((utf8Bytes s).drop cursor) = none ∧ splitStep (utf8Bytes s) cursor = .ok none) ∨
      ∃ r next, certificateMarkers.cut ((utf8Bytes s).drop cursor) = some r ∧
        splitStep (utf8Bytes s) cursor = .ok (some (r.1, next)) ∧ (utf8Bytes s).drop next = r.2 ∧
        isBoundary (utf8Bytes s) next = true := by
  have hopening : certificateMarkers.opening = utf8Bytes beginMarker := rfl
  have hclosing : certificateMarkers.closing = utf8Bytes endMarker := rfl
  unfold splitStep Markers.cut
  rw [slice_rest hcursor, hopening, hclosing]
  dsimp only [bind, Except.bind, pure, Except.pure]
  rcases hstart : findSub (utf8Bytes beginMarker) ((utf8Bytes s).drop cursor) with _ | start
  · exact .inl ⟨rfl, rfl⟩
  obtain ⟨hbegin, -⟩ := isBoundary_of_found (by decide +kernel) (by decide +kernel) hstart
  dsimp only
  rw [slice_rest hbegin, Option.bind_some, List.drop_drop]
  dsimp only
  rcases hstop : findSub (utf8Bytes endMarker) ((utf8Bytes s).drop (cursor + start)) with _ | stop
  · exact .inl ⟨rfl, rfl⟩
  obtain ⟨-, hend⟩ := isBoundary_of_found (by decide +kernel) (by decide +kernel) hstop
  dsimp only
  rw [slice_ok (by omega) hbegin hend]
  right
  refine ⟨_, _, rfl, ?_, ?_, hend⟩
  · dsimp only
    rw [List.drop_take, show cursor + start + stop + (utf8Bytes endMarker).length - (cursor + start) =
      stop + (utf8Bytes endMarker).length by omega]
  · dsimp only
    rw [List.drop_drop, Nat.add_assoc (cursor + start)]

/-- From a place that may be cut at, the loop yields the blocks of what is left. The induction is on the bytes
that are left. -/
theorem splitFrom_eq {s : String} {cursor : ℕ} (hcursor : isBoundary (utf8Bytes s) cursor = true) :
    splitFrom (utf8Bytes s) cursor = .ok (certificateMarkers.blocks ((utf8Bytes s).drop cursor)) := by
  induction hn : (utf8Bytes s).length - cursor using Nat.strong_induction_on generalizing cursor with
  | _ n ih =>
    rw [splitFrom]
    rcases splitStep_spec hcursor with ⟨hcut, hstep⟩ | ⟨r, next, hcut, hstep, hrest, hnext⟩
    · rw [Markers.blocks_of_none hcut]
      split
      · rename_i e he
        simp [hstep] at he
      · rfl
      · rename_i r hr
        simp [hstep] at hr
    · have hprogress := splitStep_progress hstep
      have hlater := ih ((utf8Bytes s).length - next) (by dsimp only at hprogress; omega) hnext rfl
      rw [Markers.blocks_of_some hcut, ← hrest]
      split
      · rename_i e he
        simp [hstep] at he
      · rename_i hnone
        simp [hstep] at hnone
      · rename_i r' hr
        simp only [hstep, Except.ok.injEq, Option.some.injEq] at hr
        subst hr
        rw [hlater]
        rfl

/-- **The loop never panics, and yields the blocks of the text.** -/
theorem splitCertificatePemBlocks_eq (pem : String) :
    splitCertificatePemBlocks pem = .ok (certificateMarkers.blocks (utf8Bytes pem)) := by
  have hzero : isBoundary (utf8Bytes pem) 0 = true := by
    rw [utf8Bytes_eq]
    exact isBoundary_zero _
  rw [splitCertificatePemBlocks, splitFrom_eq hzero, List.drop_zero]

/-! ## Texts of certificates -/

/-- A body between its markers. -/
def blockPem (body : String) : String := beginMarker ++ (body ++ endMarker)

/-- Fillers, each with a block behind it, and what comes last. -/
def bundlePem : List (String × String) → String → String
  | [], last => last
  | p :: rest, last => p.1 ++ (blockPem p.2 ++ bundlePem rest last)

/-- No marker begins in the filler or in the body: followed by `BEGIN`, the filler holds it at its end only,
and the block holds `END` at its end only. -/
def PlainPem (p : String × String) : Prop :=
  HoldsLast (utf8Bytes beginMarker) (utf8Bytes p.1) ∧
    HoldsLast (utf8Bytes endMarker) (utf8Bytes (beginMarker ++ p.2))

instance (p : String × String) : Decidable (PlainPem p) := inferInstanceAs (Decidable (_ ∧ _))

theorem utf8Bytes_append (s t : String) : utf8Bytes (s ++ t) = utf8Bytes s ++ utf8Bytes t := by
  simp [utf8Bytes_eq]

theorem utf8Bytes_blockPem (body : String) :
    utf8Bytes (blockPem body) = certificateMarkers.block (utf8Bytes body) := by
  simp only [blockPem, utf8Bytes_append, Markers.block, certificateMarkers]

theorem utf8Bytes_bundlePem (pairs : List (String × String)) (last : String) :
    utf8Bytes (bundlePem pairs last) =
      certificateMarkers.bundle (pairs.map fun p => (utf8Bytes p.1, utf8Bytes p.2)) (utf8Bytes last) := by
  induction pairs with
  | nil => rfl
  | cons p pairs ih =>
      rw [bundlePem, utf8Bytes_append, utf8Bytes_append, utf8Bytes_blockPem, ih, List.map_cons, Markers.bundle]

/-- The blocks of a text that ends with something unclosed. -/
theorem split_bundlePem {pairs : List (String × String)} {last : String} (hpairs : ∀ p ∈ pairs, PlainPem p)
    (hlast : certificateMarkers.Unclosed (utf8Bytes last)) :
    splitCertificatePemBlocks (bundlePem pairs last) =
      .ok (pairs.map fun p => utf8Bytes (blockPem p.2)) := by
  have hplain : ∀ p ∈ pairs.map (fun p => (utf8Bytes p.1, utf8Bytes p.2)), certificateMarkers.Plain p := by
    intro p hp
    obtain ⟨q, hq, rfl⟩ := List.mem_map.mp hp
    obtain ⟨hfiller, hbody⟩ := hpairs q hq
    rw [utf8Bytes_append] at hbody
    exact ⟨hfiller, hbody⟩
  rw [splitCertificatePemBlocks_eq, utf8Bytes_bundlePem, Markers.blocks_bundle hplain hlast, List.map_map]
  simp only [utf8Bytes_blockPem, Function.comp_def]

/-- A text without `BEGIN` opens nothing. -/
theorem unclosed_of_not_opened {last : List UInt8} (h : ¬ utf8Bytes beginMarker <:+: last) :
    certificateMarkers.Unclosed last := by
  intro i hi
  have hnone : findSub certificateMarkers.opening last = none := findSub_eq_none.mpr h
  simp [hnone] at hi

/-- One that opens a block and closes none. -/
theorem unclosed_of_not_closed {filler rest : List UInt8} (hfiller : HoldsLast (utf8Bytes beginMarker) filler)
    (hrest : ¬ utf8Bytes endMarker <:+: utf8Bytes beginMarker ++ rest) :
    certificateMarkers.Unclosed (filler ++ (utf8Bytes beginMarker ++ rest)) := by
  intro i hi
  have hfound : findSub certificateMarkers.opening (filler ++ (utf8Bytes beginMarker ++ rest)) =
      some filler.length := (findSub_append_iff (by decide) filler rest).mpr hfiller
  rw [hfound, Option.some.injEq] at hi
  rw [← hi, List.drop_left]
  exact hrest

/-- **Certificate splitting returns exactly the blocks**: it panics on no text, and where no marker begins in a
filler or a body, it returns the blocks in their order; what is opened at the end and not closed adds
nothing. -/
theorem certificate_blocks :
    (∀ pem, ∃ blocks, splitCertificatePemBlocks pem = .ok blocks) ∧
      ∀ (pairs : List (String × String)) (last : String), (∀ p ∈ pairs, PlainPem p) →
        (¬ utf8Bytes beginMarker <:+: utf8Bytes last →
          splitCertificatePemBlocks (bundlePem pairs last) =
            .ok (pairs.map fun p => utf8Bytes (blockPem p.2))) ∧
        ∀ rest, HoldsLast (utf8Bytes beginMarker) (utf8Bytes last) →
          ¬ utf8Bytes endMarker <:+: utf8Bytes (beginMarker ++ rest) →
          splitCertificatePemBlocks (bundlePem pairs (last ++ (beginMarker ++ rest))) =
            .ok (pairs.map fun p => utf8Bytes (blockPem p.2)) := by
  refine ⟨fun pem => ⟨_, splitCertificatePemBlocks_eq pem⟩, fun pairs last hpairs => ⟨?_, ?_⟩⟩
  · intro hlast
    exact split_bundlePem hpairs (unclosed_of_not_opened hlast)
  · intro rest hfiller hrest
    apply split_bundlePem hpairs
    rw [utf8Bytes_append] at hrest
    rw [utf8Bytes_append, utf8Bytes_append]
    exact unclosed_of_not_closed hfiller hrest

example : PlainPem ("# root\n", "\nMIIB\n") := by decide +kernel

/-- **A filler that begins a marker is taken into the block behind it**, although neither it nor the body holds
one. -/
theorem filler_completes_marker :
    (∀ s ∈ ["-----BEGIN CERTIFICATE", "MIIB", ""], ∀ marker ∈ [beginMarker, endMarker],
      ¬ utf8Bytes marker <:+: utf8Bytes s) ∧
    splitCertificatePemBlocks (bundlePem [("-----BEGIN CERTIFICATE", "MIIB")] "") =
      .ok [utf8Bytes ("-----BEGIN CERTIFICATE" ++ blockPem "MIIB")] ∧
    splitCertificatePemBlocks (bundlePem [("-----BEGIN CERTIFICATE", "MIIB")] "") ≠
      .ok [utf8Bytes (blockPem "MIIB")] := by
  have hcut : certificateMarkers.cut (utf8Bytes (bundlePem [("-----BEGIN CERTIFICATE", "MIIB")] "")) =
      some (utf8Bytes ("-----BEGIN CERTIFICATE" ++ blockPem "MIIB"), []) := by decide +kernel
  have hnone : certificateMarkers.cut [] = none := by decide +kernel
  have hsplit : splitCertificatePemBlocks (bundlePem [("-----BEGIN CERTIFICATE", "MIIB")] "") =
      .ok [utf8Bytes ("-----BEGIN CERTIFICATE" ++ blockPem "MIIB")] := by
    rw [splitCertificatePemBlocks_eq, Markers.blocks_of_some hcut, Markers.blocks_of_none hnone]
  have hne : utf8Bytes ("-----BEGIN CERTIFICATE" ++ blockPem "MIIB") ≠ utf8Bytes (blockPem "MIIB") := by
    decide +kernel
  refine ⟨by decide +kernel, hsplit, ?_⟩
  rw [hsplit]
  simpa using hne

end SsoGateway
