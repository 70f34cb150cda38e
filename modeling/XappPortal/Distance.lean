/-
# The distance of two strings

`str_distance` of `utils.c` fills the table of the distances of prefixes row by row, and carries
one row to the next in `v0`.  The copy leaves out the last entry of the row, which therefore stays
what it was at first, the length of `b`.  We follow the rows through the loop
(`runRows_eq_some`): all other entries are distances, and the last row's last entry, the answer, is
computed from the outdated entry above it.  So the answer is the distance exactly when that entry
does not matter (`strDistance_iff`).
-/
import XappPortal.Lib.EditDistance
import Mathlib.Data.List.Induction

namespace XappPortal.Distance

open XappPortal.Lib.EditDistance

/-! ## The program -/

/-- `G_MAXINT`. -/
def gMaxInt : ℕ := 2147483647

/-- A valid UTF-8 string, as its characters.  None of them is NUL, which ends the string. -/
@[ext]
structure Utf8 where
  /-- The characters of the string. -/
  chars : List Char
  /-- The string does not end early. -/
  nul_notMem : Char.ofNat 0 ∉ chars
deriving DecidableEq

/-- A number as a `gint`.  A sum of `gint`s that does not fit has no meaning; and a `glong` that
does not fit is only stored where such a sum comes before or after. -/
def gint (x : ℕ) : Option ℕ := if x ≤ gMaxInt then some x else none

/-- The assignment `v[j] = x` within the bounds of `v`. -/
def store (v : List ℕ) (j x : ℕ) : Option (List ℕ) :=
  if j < v.length then some (v.set j x) else none

/-- The inner loop: `v1` is filled from `v0`, for the character `sc` of `a` and the characters of
`b` from the one at `j` on. -/
def fillRow (sc : Char) (v0 : List ℕ) : ℕ → List Char → List ℕ → Option (List ℕ)
  | _, [], v1 => some v1
  | j, tc :: t, v1 => do
      let left ← gint ((← v1[j]?) + 1)
      let up ← gint ((← v0[j + 1]?) + 1)
      let diagonal := (← v0[j]?) + cost sc tc
      fillRow sc v0 (j + 1) t (← store v1 (j + 1) (min left (min up diagonal)))

/-- What the outer loop carries. -/
structure Rows where
  /-- The number of characters of `a` read so far. -/
  i : ℕ
  /-- The previous row. -/
  v0 : List ℕ
  /-- The current row. -/
  v1 : List ℕ

/-- The outer loop's body.  The `memcpy` copies one entry less than a row has. -/
def nextRow (b : List Char) (r : Rows) (sc : Char) : Option Rows := do
  let v1 ← store r.v1 0 (← gint (r.i + 1))
  let v1 ← fillRow sc r.v0 0 b v1
  return { i := r.i + 1, v0 := v1.take b.length ++ r.v0.drop b.length, v1 := v1 }

/-- The rows before the outer loop. -/
def initRows (bCharLen : ℕ) : Option Rows := do
  let v0 ← (List.range (bCharLen + 1)).mapM gint
  return { i := 0, v0 := v0, v1 := List.replicate (bCharLen + 1) 0 }

/-- The rows after the outer loop. -/
def runRows (a b : List Char) : Option Rows := do
  a.foldlM (nextRow b) (← initRows b.length)

/-- `str_distance`; there is no result when a sum overflows or an index is out of bounds. -/
def strDistance (a b : Utf8) : Option ℕ :=
  if a = b then some 0
  else if a.chars = [] then some a.chars.length
  else if b.chars = [] then some a.chars.length
  else do (← runRows a.chars b.chars).v1[b.chars.length]?

/-! ## One row -/

/-- The row with the given entries. -/
def row (n : ℕ) (u : ℕ → ℕ) : List ℕ := (List.range (n + 1)).map u

@[simp] lemma length_row (n : ℕ) (u : ℕ → ℕ) : (row n u).length = n + 1 := by simp [row]

lemma getElem?_row {n j : ℕ} (u : ℕ → ℕ) (h : j ≤ n) : (row n u)[j]? = some (u j) := by
  rw [row, List.getElem?_map, List.getElem?_range (Nat.lt_succ_of_le h), Option.map_some]

lemma row_eq_concat (n : ℕ) (u : ℕ → ℕ) : row n u = (List.range n).map u ++ [u n] := by
  rw [row, List.range_succ, List.map_append, List.map_singleton]

lemma row_congr {n : ℕ} {u w : ℕ → ℕ} (h : ∀ j ≤ n, u j = w j) : row n u = row n w :=
  List.map_congr_left fun j hj => h j (Nat.le_of_lt_succ (List.mem_range.mp hj))

/-- A row whose last entry has not been copied. -/
lemma take_append_drop_row (n : ℕ) (u w : ℕ → ℕ) :
    (row n w).take n ++ (row n u).drop n = row n fun j => if j < n then w j else u j := by
  rw [row_eq_concat n w, row_eq_concat n u, List.take_left' (by simp), List.drop_left' (by simp),
    row_eq_concat, if_neg (Nat.lt_irrefl n)]
  congr 1
  exact List.map_congr_left fun j hj => (if_pos (List.mem_range.mp hj)).symm

/-! A row in the making: its first entries, and whatever stands behind them. -/

lemma getElem?_row_append {j : ℕ} (w : ℕ → ℕ) (rest : List ℕ) :
    (row j w ++ rest)[j]? = some (w j) := by
  rw [List.getElem?_append_left (by simp), getElem?_row w (Nat.le_refl j)]

lemma store_row_append (j r : ℕ) (w : ℕ → ℕ) (rest : List ℕ) :
    store (row j w ++ r :: rest) (j + 1) (w (j + 1)) = some (row (j + 1) w ++ rest) := by
  rw [store, if_pos (by simp), List.set_append_right _ _ (by simp), row_eq_concat (j + 1)]
  simp [row]

@[simp] lemma gint_eq_some {x y : ℕ} : gint x = some y ↔ x ≤ gMaxInt ∧ x = y := by
  simp [gint]

/-- **The inner loop.**  Filled from the row `u`, the row `w` is finished if no sum overflows. -/
lemma fillRow_eq_some {sc : Char} {u w : ℕ → ℕ} {b : List Char}
    (hw : ∀ (j : ℕ) (tc : Char), b[j]? = some tc →
      w (j + 1) = min (w j + 1) (min (u (j + 1) + 1) (u j + cost sc tc)))
    {v : List ℕ} (t : List Char) (j : ℕ) (rest : List ℕ)
    (ht : b.drop j = t) (hj : j + t.length = b.length) (hrest : rest.length = t.length) :
    fillRow sc (row b.length u) j t (row j w ++ rest) = some v ↔
      (∀ k, j ≤ k → k < b.length → w k < gMaxInt ∧ u (k + 1) < gMaxInt) ∧
        v = row b.length w := by
  induction t generalizing j rest with
  | nil =>
    have hj : j = b.length := by simpa using hj
    have hrest : rest = [] := List.eq_nil_of_length_eq_zero hrest
    subst hrest hj
    rw [fillRow, List.append_nil, Option.some.injEq]
    constructor
    · rintro rfl
      exact ⟨fun k hk hkn => absurd hkn (by omega), rfl⟩
    · rintro ⟨-, rfl⟩
      rfl
  | cons tc t ih =>
    obtain ⟨r, rest, rfl⟩ := List.exists_cons_of_length_eq_add_one hrest
    rw [List.length_cons, List.length_cons] at hrest
    rw [List.length_cons] at hj
    have htc : b[j]? = some tc := by
      rw [← List.head?_drop, ht]
      rfl
    have ht' : b.drop (j + 1) = t := by
      rw [← List.drop_drop, ht]
      rfl
    rw [fillRow, getElem?_row_append, getElem?_row u (show j + 1 ≤ b.length by omega),
      getElem?_row u (show j ≤ b.length by omega)]
    simp only [Option.bind_eq_bind, Option.bind_some, Option.bind_eq_some_iff, gint_eq_some]
    have ih := ih (j + 1) rest ht' (by omega) (by omega)
    constructor
    · rintro ⟨-, ⟨hleft, rfl⟩, -, ⟨hup, rfl⟩, v1, hv1, hfill⟩
      rw [← hw j tc htc, store_row_append, Option.some.injEq] at hv1
      subst hv1
      obtain ⟨hfit, rfl⟩ := ih.mp hfill
      refine ⟨fun k hjk hk => ?_, rfl⟩
      rcases Nat.eq_or_lt_of_le hjk with rfl | hlt
      · exact ⟨hleft, hup⟩
      · exact hfit k hlt hk
    · rintro ⟨hfit, rfl⟩
      obtain ⟨hleft, hup⟩ := hfit j (Nat.le_refl j) (by omega)
      refine ⟨_, ⟨hleft, rfl⟩, _, ⟨hup, rfl⟩, row (j + 1) w ++ rest, ?_,
        ih.mpr ⟨fun k hk => hfit k (by omega), rfl⟩⟩
      rw [← hw j tc htc, store_row_append]

/-! ## The rows of a run -/

variable {a b : List Char} {x y : Char}

/-! The second string is never empty here: it is `b` and one more character `y`. -/

/-- The entries of `v0` after the characters of `a`: the distances of `a` and the prefixes of `b`,
and last what that entry was at first. -/
def carried (a b : List Char) (j : ℕ) : ℕ :=
  if j ≤ b.length then distance a (b.take j) else b.length + 1

/-- The last entry of `v1` for the character `x` after those of `a`. -/
def lastEntry (a b : List Char) (x y : Char) : ℕ :=
  min (distance (a ++ [x]) b + 1) (min (b.length + 1 + 1) (distance a b + cost x y))

/-- The entries of `v1` for the character `x` after those of `a`. -/
def current (a b : List Char) (x y : Char) (j : ℕ) : ℕ :=
  if j ≤ b.length then distance (a ++ [x]) (b.take j) else lastEntry a b x y

/-- What is copied from the current row is carried to the next one. -/
lemma take_current_append_drop_carried :
    (row (b.length + 1) (current a b x y)).take (b.length + 1)
        ++ (row (b.length + 1) (carried a b)).drop (b.length + 1)
      = row (b.length + 1) (carried (a ++ [x]) b) := by
  rw [take_append_drop_row]
  refine row_congr fun j hj => ?_
  rw [carried, carried, current]
  split_ifs <;> omega

/-- An entry of the current row comes from the three entries the program reads. -/
lemma current_succ (j : ℕ) (tc : Char) (h : (b ++ [y])[j]? = some tc) :
    current a b x y (j + 1)
      = min (current a b x y j + 1)
          (min (carried a b (j + 1) + 1) (carried a b j + cost x tc)) := by
  -- the entry is a distance, or the last one of the row
  rcases Nat.lt_trichotomy j b.length with hj | rfl | hj
  · rw [List.getElem?_append_left hj] at h
    rw [current, current, carried, carried, if_pos (by omega), if_pos (by omega),
      if_pos (by omega), if_pos (by omega), List.take_add_one, h]
    exact distance_concat_concat a (b.take j) x tc
  · obtain rfl : y = tc := by simpa using h
    rw [current, current, carried, carried, if_neg (by omega), if_pos (Nat.le_refl _),
      if_neg (by omega), if_pos (Nat.le_refl _), List.take_length, lastEntry]
  · rw [List.getElem?_eq_none (by rw [List.length_append]; exact hj)] at h
    cases h

/-- The sums of a row fit when the lengths do. -/
lemma fits_iff :
    (∀ k, 0 ≤ k → k < (b ++ [y]).length →
        current a b x y k < gMaxInt ∧ carried a b (k + 1) < gMaxInt) ↔
      a.length + 1 < gMaxInt ∧ b.length + 1 < gMaxInt := by
  rw [List.length_append, List.length_singleton]
  constructor
  · intro h
    have hfirst := (h 0 (Nat.le_refl 0) (Nat.succ_pos _)).1
    have hlast := (h b.length (Nat.zero_le _) (Nat.lt_succ_self _)).2
    rw [current, if_pos (Nat.zero_le _), List.take_zero, distance_nil_right] at hfirst
    rw [carried, if_neg (by omega)] at hlast
    exact ⟨by simpa using hfirst, hlast⟩
  · rintro ⟨ha, hb⟩ k - hk
    constructor
    · have := distance_le_max (a ++ [x]) (b.take k)
      rw [List.length_append, List.length_singleton, List.length_take] at this
      rw [current, if_pos (by omega)]
      omega
    · have := distance_le_max a (b.take (k + 1))
      rw [List.length_take] at this
      rw [carried]
      split <;> omega

/-- What the program has read of `a`, and what it carries. -/
structure RowsAfter (a b : List Char) (r : Rows) : Prop where
  i_eq : r.i = a.length
  v0_eq : r.v0 = row (b.length + 1) (carried a b)
  v1_length : r.v1.length = b.length + 2

/-- **The body of the outer loop.**  The row is finished if no sum overflows. -/
lemma nextRow_eq_some {r r' : Rows} (h : RowsAfter a b r) :
    nextRow (b ++ [y]) r x = some r' ↔
      (a.length + 1 < gMaxInt ∧ b.length + 1 < gMaxInt) ∧
        r' = { i := a.length + 1, v0 := row (b.length + 1) (carried (a ++ [x]) b),
               v1 := row (b.length + 1) (current a b x y) } := by
  obtain ⟨e, v1, hv1⟩ := List.exists_cons_of_length_eq_add_one h.v1_length
  have hlen : v1.length = (b ++ [y]).length := by
    have := h.v1_length
    rw [hv1, List.length_cons] at this
    simpa using this
  have hlength : (b ++ [y]).length = b.length + 1 := by simp
  have hfill (v : List ℕ) := fillRow_eq_some (fun j tc => current_succ (a := a) (x := x) j tc)
    (v := v) (b ++ [y]) 0 v1 rfl (Nat.zero_add _) hlen
  have hfirst : store r.v1 0 (a.length + 1) = some (row 0 (current a b x y) ++ v1) := by
    rw [hv1, store, if_pos (by simp)]
    simp [row, current]
  rw [fits_iff, hlength] at hfill
  simp only [nextRow, h.i_eq, h.v0_eq, hlength, Option.bind_eq_bind, Option.bind_eq_some_iff,
    gint_eq_some, Option.pure_def, Option.some.injEq]
  constructor
  · rintro ⟨-, ⟨-, rfl⟩, v₀, hv₀, v, hv, rfl⟩
    rw [hfirst, Option.some.injEq] at hv₀
    subst hv₀
    obtain ⟨hfit, rfl⟩ := (hfill v).mp hv
    rw [take_current_append_drop_carried]
    exact ⟨hfit, rfl⟩
  · rintro ⟨hfit, rfl⟩
    refine ⟨_, ⟨Nat.le_of_lt hfit.1, rfl⟩, _, hfirst, _, (hfill _).mpr ⟨hfit, rfl⟩, ?_⟩
    rw [take_current_append_drop_carried]

lemma mapM_gint_eq_some {l v : List ℕ} :
    l.mapM gint = some v ↔ (∀ x ∈ l, x ≤ gMaxInt) ∧ v = l := by
  induction l generalizing v with
  | nil => simp [eq_comm]
  | cons x l ih =>
    simp only [List.mapM_cons, Option.bind_eq_bind, Option.bind_eq_some_iff, gint_eq_some, ih,
      Option.pure_def, Option.some.injEq, List.forall_mem_cons]
    constructor
    · rintro ⟨x', ⟨hx, rfl⟩, l', ⟨hl, rfl⟩, rfl⟩
      exact ⟨⟨hx, hl⟩, rfl⟩
    · rintro ⟨⟨hx, hl⟩, rfl⟩
      exact ⟨x, ⟨hx, rfl⟩, l, ⟨hl, rfl⟩, rfl⟩

lemma initRows_eq_some {n : ℕ} {r : Rows} :
    initRows n = some r ↔
      n ≤ gMaxInt ∧
        r = { i := 0, v0 := List.range (n + 1), v1 := List.replicate (n + 1) 0 } := by
  have hmem : (∀ x ∈ List.range (n + 1), x ≤ gMaxInt) ↔ n ≤ gMaxInt := by
    refine ⟨fun h => h n (List.mem_range.mpr (Nat.lt_succ_self n)), fun h x hx => ?_⟩
    exact Nat.le_trans (Nat.le_of_lt_succ (List.mem_range.mp hx)) h
  simp only [initRows, Option.bind_eq_bind, Option.bind_eq_some_iff, mapM_gint_eq_some, hmem,
    Option.pure_def, Option.some.injEq]
  constructor
  · rintro ⟨-, ⟨hn, rfl⟩, rfl⟩
    exact ⟨hn, rfl⟩
  · rintro ⟨hn, rfl⟩
    exact ⟨_, ⟨hn, rfl⟩, rfl⟩

/-- The initial row has the distances of the empty string. -/
lemma rowsAfter_nil {r : Rows} (h : initRows (b.length + 1) = some r) : RowsAfter [] b r := by
  obtain ⟨-, rfl⟩ := initRows_eq_some.mp h
  refine ⟨rfl, ?_, List.length_replicate⟩
  have hcarried : ∀ j ≤ b.length + 1, carried [] b j = j := by
    intro j hj
    rw [carried]
    split
    · rw [distance_nil_left, List.length_take]
      omega
    · omega
  rw [row_congr hcarried, row, List.map_id']

lemma runRows_nil (b : List Char) : runRows [] b = initRows b.length := by
  simp [runRows]

lemma runRows_concat (a b : List Char) (x : Char) :
    runRows (a ++ [x]) b = (runRows a b).bind fun r => nextRow b r x := by
  simp [runRows, Option.bind_assoc]

/-- **The rows of a run.** -/
theorem rowsAfter_runRows {r : Rows} (h : runRows a (b ++ [y]) = some r) : RowsAfter a b r := by
  induction a using List.reverseRecOn generalizing r with
  | nil =>
    rw [runRows_nil, List.length_append, List.length_singleton] at h
    exact rowsAfter_nil h
  | append_singleton a x ih =>
    rw [runRows_concat, Option.bind_eq_some_iff] at h
    obtain ⟨r', hr', h⟩ := h
    obtain ⟨-, rfl⟩ := (nextRow_eq_some (ih hr')).mp h
    exact ⟨by simp, rfl, length_row _ _⟩

/-- A run ends well when the lengths fit. -/
lemma exists_runRows (ha : a.length < gMaxInt) (hb : b.length + 1 < gMaxInt) :
    ∃ r, runRows a (b ++ [y]) = some r := by
  induction a using List.reverseRecOn with
  | nil =>
    rw [runRows_nil, List.length_append, List.length_singleton]
    exact ⟨_, initRows_eq_some.mpr ⟨Nat.le_of_lt hb, rfl⟩⟩
  | append_singleton a x ih =>
    rw [List.length_append, List.length_singleton] at ha
    obtain ⟨r, hr⟩ := ih (Nat.lt_of_succ_lt ha)
    rw [runRows_concat, hr]
    exact ⟨_, (nextRow_eq_some (rowsAfter_runRows hr)).mpr ⟨⟨ha, hb⟩, rfl⟩⟩

/-- **The answer** is computed from the last row's neighbours. -/
theorem answer_eq_some {d : ℕ} :
    ((runRows (a ++ [x]) (b ++ [y])).bind fun r => r.v1[b.length + 1]?) = some d ↔
      (a.length + 1 < gMaxInt ∧ b.length + 1 < gMaxInt) ∧ d = lastEntry a b x y := by
  have hlast : (row (b.length + 1) (current a b x y))[b.length + 1]?
      = some (lastEntry a b x y) := by
    rw [getElem?_row _ (Nat.le_refl _), current, if_neg (Nat.not_succ_le_self _)]
  rw [runRows_concat, Option.bind_assoc, Option.bind_eq_some_iff]
  simp only [Option.bind_eq_some_iff]
  constructor
  · rintro ⟨r, hr, r', hr', hd⟩
    obtain ⟨hfit, rfl⟩ := (nextRow_eq_some (rowsAfter_runRows hr)).mp hr'
    rw [hlast, Option.some.injEq] at hd
    exact ⟨hfit, hd.symm⟩
  · rintro ⟨hfit, rfl⟩
    obtain ⟨r, hr⟩ := exists_runRows (y := y) (Nat.lt_of_succ_lt hfit.1) hfit.2
    exact ⟨r, hr, _, (nextRow_eq_some (rowsAfter_runRows hr)).mpr ⟨hfit, rfl⟩, hlast⟩

/-! ## When the answer is the distance -/

/-- The entry above the answer does not matter: it is what it was at first anyway, or one of the
two other neighbours gives as little. -/
def LastEntryIdle (a b : List Char) : Prop :=
  distance a.dropLast b = b.length ∨
    min (distance a b.dropLast + 1)
        (distance a.dropLast b.dropLast + if a.getLast? = b.getLast? then 0 else 1)
      ≤ min (distance a.dropLast b) b.length + 1

lemma lastEntry_eq_distance_iff :
    lastEntry a b x y = distance (a ++ [x]) (b ++ [y]) ↔
      LastEntryIdle (a ++ [x]) (b ++ [y]) := by
  rw [LastEntryIdle, List.dropLast_concat, List.dropLast_concat, List.getLast?_concat,
    List.getLast?_concat, List.length_append, List.length_singleton, distance_concat_concat,
    lastEntry]
  simp only [Option.some.injEq]
  rw [← cost]
  omega

/-- **`str_distance` answers with the Levenshtein distance exactly when** the strings are equal, or
`b` is empty, or neither is empty, no sum overflows and the entry that is not copied does not
matter. -/
theorem strDistance_iff (a b : Utf8) :
    (∃ d, strDistance a b = some d ∧ IsLevenshtein d a.chars b.chars) ↔
      a = b ∨ b.chars = [] ∨
        (a.chars ≠ [] ∧ a.chars.length < gMaxInt ∧ b.chars.length < gMaxInt ∧
          LastEntryIdle a.chars b.chars) := by
  simp only [isLevenshtein_iff, exists_eq_right]
  by_cases hab : a = b
  · subst hab
    simp [strDistance, distance_self]
  by_cases hb : b.chars = []
  · have ha : a.chars ≠ [] := by
      intro ha
      exact hab (Utf8.ext (ha.trans hb.symm))
    simp [strDistance, hab, ha, hb]
  by_cases ha : a.chars = []
  · simp [strDistance, hab, ha, hb, eq_comm]
  rw [strDistance, if_neg hab, if_neg ha, if_neg hb]
  obtain ⟨as, x, hx⟩ := List.eq_nil_or_concat a.chars |>.resolve_left ha
  obtain ⟨bs, y, hy⟩ := List.eq_nil_or_concat b.chars |>.resolve_left hb
  rw [or_iff_right hab, or_iff_right hb, and_iff_right ha, hx, hy, List.concat_eq_append,
    List.concat_eq_append, List.length_append, List.length_append, List.length_singleton,
    List.length_singleton, ← lastEntry_eq_distance_iff, ← and_assoc, eq_comm (a := lastEntry ..)]
  exact answer_eq_some

/-- Counterexample: removing the `b` of `ab` is one deletion, and the answer is two. -/
theorem not_strDistance_levenshtein :
    ¬ ∀ a b : Utf8, ∃ d, strDistance a b = some d ∧ IsLevenshtein d a.chars b.chars := by
  intro h
  obtain ⟨d, hd, hlev⟩ := h ⟨['a', 'b'], by decide⟩ ⟨['a'], by decide⟩
  have hans : strDistance ⟨['a', 'b'], by decide⟩ ⟨['a'], by decide⟩ = some 2 := by decide
  have hd : d = 2 := Option.some.inj (hd.symm.trans hans)
  have hlev : d = 1 := isLevenshtein_iff.mp hlev
  exact absurd (hd.symm.trans hlev) (by decide)

end XappPortal.Distance
