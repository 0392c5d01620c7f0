import Mathlib.Data.List.Sort
import Mathlib.Data.List.Count
import Mathlib.Data.Set.Finite.Basic
import Mathlib.Data.Finset.Card

/-!
# Keyset pagination

Rows with a key in a linear order are listed in pages, largest key first; a page begins below the
last key of the one before, whatever has happened to the rows since.

* `keysetPage`, `keysetWalk` — one page, and the pages up to the first that is not full.
* `Visited` — what the pages show: the keys descend, and a row that is there throughout is among them
  once. `visited_keysetWalk` — a walk that ends has visited. `keysetWalk_ends` — one over finitely many
  keys ends.
* `follow`, `Paginated`, `follow_eq_keysetWalk` — a client that follows the tokens of a service whose
  tokens stand for keys makes that walk.

Nothing here is about a particular service.
-/

namespace SsoGateway.Lib

section pages

variable {R K : Type} [LinearOrder K] {key : R → K} {limit : ℕ} {after : Option K} {rows : List R}

/-- The rows below the cursor, largest key first. -/
def keysetRows (key : R → K) (after : Option K) (rows : List R) : List R :=
  (rows.filter fun x => ∀ k ∈ after, key x < k).insertionSort fun x y => key y ≤ key x

/-- The first of them. -/
def keysetPage (key : R → K) (limit : ℕ) (after : Option K) (rows : List R) : List R :=
  (keysetRows key after rows).take limit

/-- The pages from a cursor on, up to the first that is not full, if that is among the first `fuel`.
Each is read from a table of its own. -/
def keysetWalk (key : R → K) : ℕ → (ℕ → ℕ) → (ℕ → List R) → Option K → Option (List (List R))
  | 0, _, _, _ => none
  | fuel + 1, limits, tables, after =>
      let page := keysetPage key (limits 0) after (tables 0)
      match page.getLast? with
      | none => some [page]
      | some x =>
          if page.length = limits 0 then
            (keysetWalk key fuel (fun n => limits (n + 1)) (fun n => tables (n + 1)) (some (key x))).map
              (page :: ·)
          else some [page]

/-! ## One page -/

theorem mem_keysetRows {x : R} : x ∈ keysetRows key after rows ↔ x ∈ rows ∧ ∀ k ∈ after, key x < k := by
  simp [keysetRows, List.mem_insertionSort]

/-- The keys of a table are distinct. -/
def DistinctKeys (key : R → K) (rows : List R) : Prop := rows.Pairwise fun x y => key x ≠ key y

theorem keysetRows_descend (after : Option K) (h : DistinctKeys key rows) :
    (keysetRows key after rows).Pairwise fun x y => key y < key x := by
  have hsorted : (keysetRows key after rows).Pairwise fun x y => key y ≤ key x :=
    List.pairwise_insertionSort _ _
  have hdistinct : (keysetRows key after rows).Pairwise fun x y => key x ≠ key y := by
    refine (List.perm_insertionSort _ _).symm.pairwise (h.filter _) ?_
    intro x y hne
    exact hne.symm
  exact (hsorted.and hdistinct).imp fun h => lt_of_le_of_ne h.1 h.2.symm

theorem keysetPage_descend (limit : ℕ) (after : Option K) (h : DistinctKeys key rows) :
    (keysetPage key limit after rows).Pairwise fun x y => key y < key x :=
  (keysetRows_descend after h).sublist (List.take_sublist _ _)

theorem of_mem_keysetPage {x : R} (hx : x ∈ keysetPage key limit after rows) :
    x ∈ rows ∧ ∀ k ∈ after, key x < k :=
  mem_keysetRows.mp (List.mem_of_mem_take hx)

/-- A row below the cursor is on the page, or the page is full and the row is below all of it. -/
theorem mem_keysetPage_or (limit : ℕ) (h : DistinctKeys key rows) {x : R} (hx : x ∈ rows)
    (hbelow : ∀ k ∈ after, key x < k) :
    x ∈ keysetPage key limit after rows ∨ ((keysetPage key limit after rows).length = limit ∧
      ∀ y ∈ keysetPage key limit after rows, key x < key y) := by
  have hmem : x ∈ keysetRows key after rows := mem_keysetRows.mpr ⟨hx, hbelow⟩
  rw [← List.take_append_drop limit (keysetRows key after rows), List.mem_append] at hmem
  rcases hmem with hmem | hmem
  · exact .inl hmem
  · refine .inr ⟨?_, fun y hy => ?_⟩
    · have hpos := List.length_pos_of_mem hmem
      rw [List.length_drop] at hpos
      rw [keysetPage, List.length_take]
      omega
    · have hdescend := keysetRows_descend after h
      rw [← List.take_append_drop limit (keysetRows key after rows), List.pairwise_append] at hdescend
      exact hdescend.2.2 y hy x hmem

/-! ## The walk -/

/-- What the pages of a walk show: each its table, the keys descend over all of them, and a row that is
in every table is there once. -/
structure Visited (key : R → K) (tables : ℕ → List R) (pages : List (List R)) : Prop where
  sound : ∀ n page, pages[n]? = some page → ∀ x ∈ page, x ∈ tables n
  descend : pages.flatten.Pairwise fun x y => key y < key x
  once : ∀ k, (∀ n < pages.length, ∃ x ∈ tables n, key x = k) →
    (pages.flatten.countP fun x => key x = k) = 1

/-- A walk ends with a page that is not full, or goes on below its first page. -/
theorem keysetWalk_cases {fuel : ℕ} {limits : ℕ → ℕ} {tables : ℕ → List R} {pages : List (List R)}
    (h : keysetWalk key (fuel + 1) limits tables after = some pages) :
    (pages = [keysetPage key (limits 0) after (tables 0)] ∧
      (keysetPage key (limits 0) after (tables 0) = [] ∨
        (keysetPage key (limits 0) after (tables 0)).length ≠ limits 0)) ∨
    ∃ x rest, (keysetPage key (limits 0) after (tables 0)).getLast? = some x ∧
      keysetWalk key fuel (fun n => limits (n + 1)) (fun n => tables (n + 1)) (some (key x)) = some rest ∧
      pages = keysetPage key (limits 0) after (tables 0) :: rest := by
  unfold keysetWalk at h
  dsimp only at h
  split at h
  · rename_i hlast
    exact .inl ⟨by simpa using h.symm, .inl (List.getLast?_eq_none_iff.mp hlast)⟩
  · rename_i x hlast
    split at h
    · obtain ⟨rest, hrest, rfl⟩ := Option.map_eq_some_iff.mp h
      exact .inr ⟨x, rest, hlast, hrest, rfl⟩
    · rename_i hfull
      exact .inl ⟨by simpa using h.symm, .inr hfull⟩

/-- The last row of a page has its least key. -/
theorem getLast_least {x : R} (h : DistinctKeys key rows)
    (hlast : (keysetPage key limit after rows).getLast? = some x) :
    ∀ y ∈ keysetPage key limit after rows, key x ≤ key y := by
  intro y hy
  obtain ⟨init, hinit⟩ := List.getLast?_eq_some_iff.mp hlast
  have hdescend := keysetPage_descend limit after h
  rw [hinit] at hy hdescend
  rw [List.pairwise_append] at hdescend
  rcases List.mem_append.mp hy with hy | hy
  · exact (hdescend.2.2 y hy x List.mem_cons_self).le
  · rw [List.mem_singleton.mp hy]

variable {limits : ℕ → ℕ} {tables : ℕ → List R} {pages : List (List R)}

/-- What a walk shows is below its cursor and in its tables, and its keys descend. -/
theorem keysetWalk_descend {fuel : ℕ} (htables : ∀ n, DistinctKeys key (tables n))
    (h : keysetWalk key fuel limits tables after = some pages) :
    (∀ n page, pages[n]? = some page → ∀ x ∈ page, x ∈ tables n) ∧
      (∀ x ∈ pages.flatten, ∀ k ∈ after, key x < k) ∧
      pages.flatten.Pairwise fun x y => key y < key x := by
  induction fuel generalizing limits tables after pages with
  | zero => simp [keysetWalk] at h
  | succ fuel ih =>
      have hfirst : ∀ y ∈ keysetPage key (limits 0) after (tables 0), y ∈ tables 0 ∧ ∀ k ∈ after, key y < k :=
        fun y hy => of_mem_keysetPage hy
      rcases keysetWalk_cases h with ⟨rfl, -⟩ | ⟨x, rest, hlast, hrest, rfl⟩
      · refine ⟨fun n page hpage y hy => ?_, fun y hy => ?_, ?_⟩
        · cases n with
          | zero =>
              obtain rfl : _ = page := by simpa using hpage
              exact (hfirst y hy).1
          | succ n => simp at hpage
        · rw [List.flatten_singleton] at hy
          exact (hfirst y hy).2
        · rw [List.flatten_singleton]
          exact keysetPage_descend _ _ (htables 0)
      · obtain ⟨hsound, hbelow, hdescend⟩ := ih (fun n => htables (n + 1)) hrest
        have hx := List.mem_of_getLast? hlast
        refine ⟨fun n page hpage y hy => ?_, fun y hy => ?_, ?_⟩
        · cases n with
          | zero =>
              obtain rfl : _ = page := by simpa using hpage
              exact (hfirst y hy).1
          | succ n => exact hsound n page (by simpa using hpage) y hy
        · intro k hk
          rw [List.flatten_cons, List.mem_append] at hy
          rcases hy with hy | hy
          · exact (hfirst y hy).2 k hk
          · exact (hbelow y hy _ rfl).trans ((hfirst x hx).2 k hk)
        · rw [List.flatten_cons, List.pairwise_append]
          refine ⟨keysetPage_descend _ _ (htables 0), hdescend, fun y hy z hz => ?_⟩
          exact (hbelow z hz _ rfl).trans_le (getLast_least (htables 0) hlast y hy)

/-- A row below the cursor that is in every table of a walk is on one of its pages. -/
theorem keysetWalk_complete {fuel : ℕ} (htables : ∀ n, DistinctKeys key (tables n))
    (hlimits : ∀ n, 0 < limits n) (h : keysetWalk key fuel limits tables after = some pages) {k : K}
    (hthere : ∀ n < pages.length, ∃ x ∈ tables n, key x = k) (hbelow : ∀ c ∈ after, k < c) :
    k ∈ pages.flatten.map key := by
  induction fuel generalizing limits tables after pages with
  | zero => simp [keysetWalk] at h
  | succ fuel ih =>
      have hpos : 0 < pages.length := by
        rcases keysetWalk_cases h with ⟨rfl, -⟩ | ⟨x, rest, -, -, rfl⟩ <;> simp
      obtain ⟨x, hx, rfl⟩ := hthere 0 hpos
      have hpage := mem_keysetPage_or (limits 0) (htables 0) hx hbelow
      rcases keysetWalk_cases h with ⟨rfl, hend⟩ | ⟨y, rest, hlast, hrest, rfl⟩
      · rw [List.flatten_singleton]
        rcases hpage with hpage | ⟨hlength, -⟩
        · exact List.mem_map_of_mem hpage
        · have hzero := hlimits 0
          rcases hend with hend | hend
          · rw [hend] at hlength
            simp at hlength
            omega
          · exact absurd hlength hend
      · rw [List.flatten_cons, List.map_append, List.mem_append]
        rcases hpage with hpage | ⟨-, hlt⟩
        · exact .inl (List.mem_map_of_mem hpage)
        · refine .inr (ih (fun n => htables (n + 1)) (fun n => hlimits (n + 1)) hrest ?_ ?_)
          · intro n hn
            exact hthere (n + 1) (by simpa using hn)
          · intro c hc
            rw [← Option.mem_some_iff.mp hc]
            exact hlt y (List.mem_of_getLast? hlast)

/-- **A walk that ends has visited the rows.** -/
theorem visited_keysetWalk {fuel : ℕ} (htables : ∀ n, DistinctKeys key (tables n))
    (hlimits : ∀ n, 0 < limits n) (h : keysetWalk key fuel limits tables none = some pages) :
    Visited key tables pages := by
  obtain ⟨hsound, -, hdescend⟩ := keysetWalk_descend htables h
  refine ⟨hsound, hdescend, fun k hthere => ?_⟩
  have hmem := keysetWalk_complete htables hlimits h hthere (by simp)
  have hnodup : (pages.flatten.map key).Nodup := by
    rw [List.Nodup, List.pairwise_map]
    exact hdescend.imp fun hlt => hlt.ne'
  have hcount := List.count_eq_one_of_mem hnodup hmem
  rw [List.count_eq_countP, List.countP_map] at hcount
  rw [← hcount]
  exact List.countP_congr fun x _ => by simp

/-- A walk ends when it has seen as many pages as there are keys below its cursor. -/
theorem keysetWalk_fuel (keys : Finset K) {fuel : ℕ} (hkeys : ∀ n, ∀ x ∈ tables n, key x ∈ keys)
    (hfuel : (keys.filter fun k => ∀ c ∈ after, k < c).card < fuel) :
    ∃ pages, keysetWalk key fuel limits tables after = some pages := by
  induction fuel generalizing limits tables after with
  | zero => omega
  | succ fuel ih =>
      unfold keysetWalk
      dsimp only
      split
      · exact ⟨_, rfl⟩
      · rename_i x hlast
        split
        · obtain ⟨hx, hbelow⟩ := of_mem_keysetPage (List.mem_of_getLast? hlast)
          -- The last key of the page is no longer below the cursor.
          have hless : keys.filter (fun k => ∀ c ∈ some (key x), k < c) ⊂
              keys.filter fun k => ∀ c ∈ after, k < c := by
            refine Finset.ssubset_iff_subset_ne.mpr ⟨fun k hk => ?_, fun heq => ?_⟩
            · rw [Finset.mem_filter] at hk ⊢
              exact ⟨hk.1, fun c hc => (hk.2 _ rfl).trans (hbelow c hc)⟩
            · have hmem : key x ∈ keys.filter fun k => ∀ c ∈ after, k < c :=
                Finset.mem_filter.mpr ⟨hkeys 0 x hx, hbelow⟩
              rw [← heq, Finset.mem_filter] at hmem
              exact lt_irrefl _ (hmem.2 _ rfl)
          have hcard := Finset.card_lt_card hless
          have hrest : ∃ rest, keysetWalk key fuel (fun n => limits (n + 1)) (fun n => tables (n + 1))
              (some (key x)) = some rest := ih (fun n => hkeys (n + 1)) (by omega)
          obtain ⟨rest, hrest⟩ := hrest
          rw [hrest]
          exact ⟨_, rfl⟩
        · exact ⟨_, rfl⟩

/-- **A walk over finitely many keys ends.** -/
theorem keysetWalk_ends (limits : ℕ → ℕ) (after : Option K)
    (hfinite : {k | ∃ n, ∃ x ∈ tables n, key x = k}.Finite) :
    ∃ fuel pages, keysetWalk key fuel limits tables after = some pages :=
  ⟨_, keysetWalk_fuel hfinite.toFinset
    (fun n x hx => hfinite.mem_toFinset.mpr ⟨n, x, hx, rfl⟩) (Nat.lt_succ_self _)⟩

end pages

/-! ## A client that follows the tokens -/

section client

variable {R K A ε : Type} [LinearOrder K]

/-- The answers to a client that asks with the token of the answer before until there is none; its
requests are served one after the other. -/
def follow (next : A → String) : ℕ → (ℕ → String → Except ε A) → String → Option (List A)
  | 0, _, _ => none
  | fuel + 1, serve, token =>
      match serve 0 token with
      | .error _ => none
      | .ok a =>
          if next a = "" then some [a]
          else (follow next fuel (fun n => serve (n + 1)) (next a)).map (a :: ·)

/-- The token for a cursor. -/
def tokenAt (tokenOf : K → String) (after : Option K) : String := after.elim "" tokenOf

/-- The token with a page: that of its last key, if the page is full. -/
def tokenAfter (key : R → K) (tokenOf : K → String) (limit : ℕ) (page : List R) : String :=
  if page.length = limit then tokenAt tokenOf (page.getLast?.map key) else ""

/-- A service that lists the rows of a table in pages, with tokens for the keys that occur. -/
structure Paginated (key : R → K) (Occurs : K → Prop) (tokenOf : K → String) (next : A → String)
    (limits : ℕ → ℕ) (tables : ℕ → List R) (answer : ℕ → List R → A) (serve : ℕ → String → Except ε A) :
    Prop where
  serves : ∀ n (after : Option K), (∀ k ∈ after, Occurs k) →
    serve n (tokenAt tokenOf after) = .ok (answer n (keysetPage key (limits n) after (tables n)))
  next_answer : ∀ n page, next (answer n page) = tokenAfter key tokenOf (limits n) page
  token_ne : ∀ k, Occurs k → tokenOf k ≠ ""
  occurs : ∀ n, ∀ x ∈ tables n, Occurs (key x)

variable {key : R → K} {Occurs : K → Prop} {tokenOf : K → String} {next : A → String} {limits : ℕ → ℕ}
  {tables : ℕ → List R} {answer : ℕ → List R → A} {serve : ℕ → String → Except ε A}

/-- The service as it is after one request. -/
theorem Paginated.tail (h : Paginated key Occurs tokenOf next limits tables answer serve) :
    Paginated key Occurs tokenOf next (fun n => limits (n + 1)) (fun n => tables (n + 1))
      (fun n => answer (n + 1)) fun n => serve (n + 1) :=
  ⟨fun n => h.serves (n + 1), fun n => h.next_answer (n + 1), h.token_ne, fun n => h.occurs (n + 1)⟩

/-- **The client makes the walk.** -/
theorem follow_eq_keysetWalk (h : Paginated key Occurs tokenOf next limits tables answer serve) (fuel : ℕ)
    (after : Option K) (hafter : ∀ k ∈ after, Occurs k) :
    follow next fuel serve (tokenAt tokenOf after) =
      (keysetWalk key fuel limits tables after).map fun pages => pages.mapIdx answer := by
  induction fuel generalizing limits tables answer serve after with
  | zero => rfl
  | succ fuel ih =>
      unfold follow keysetWalk
      rw [h.serves 0 after hafter]
      dsimp only
      rw [h.next_answer, tokenAfter]
      cases hlast : (keysetPage key (limits 0) after (tables 0)).getLast? with
      | none => simp [tokenAt]
      | some x =>
          have hx := (of_mem_keysetPage (List.mem_of_getLast? hlast)).1
          have hne : tokenOf (key x) ≠ "" := h.token_ne _ (h.occurs 0 x hx)
          by_cases hfull : (keysetPage key (limits 0) after (tables 0)).length = limits 0
          · have htail := ih h.tail (some (key x)) (by
              intro k hk
              rw [← Option.mem_some_iff.mp hk]
              exact h.occurs 0 x hx)
            simp only [hfull, ↓reduceIte, Option.map_some]
            rw [if_neg (by simpa [tokenAt] using hne), htail, Option.map_map, Option.map_map]
            simp [Function.comp_def, List.mapIdx_cons]
          · simp [hfull]

/-- **Following the tokens visits the rows**: the client comes to an end, and its answers are made of
pages that have visited the tables. -/
theorem Paginated.visits (h : Paginated key Occurs tokenOf next limits tables answer serve)
    (htables : ∀ n, DistinctKeys key (tables n)) (hlimits : ∀ n, 0 < limits n)
    (hfinite : {k | ∃ n, ∃ x ∈ tables n, key x = k}.Finite) :
    ∃ fuel pages, follow next fuel serve "" = some (pages.mapIdx answer) ∧ Visited key tables pages := by
  obtain ⟨fuel, pages, hwalk⟩ := keysetWalk_ends limits none hfinite
  refine ⟨fuel, pages, ?_, visited_keysetWalk htables hlimits hwalk⟩
  have hfollow := follow_eq_keysetWalk h fuel none (by simp)
  rw [hwalk] at hfollow
  exact hfollow

end client

end SsoGateway.Lib
