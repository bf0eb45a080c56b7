import Mathlib.Data.List.Dedup
import Mathlib.Data.List.Nodup
import Mathlib.Tactic

/-!
# Keyed tables

A table is a list of rows in insertion order whose primary keys are pairwise
distinct.  The distinctness proof is a field, so a table with two rows of one
key cannot be built.  Rows are only ever inserted or rewritten in place; no
operation here deletes a row or changes a key.
-/

namespace RefundAgent
namespace Foundation

structure Table (row : Type) (index : Type) (key : row -> index) where
  rows : List row
  nodup : (rows.map key).Nodup

namespace Table

variable {row index : Type} {key : row -> index}

def empty : Table row index key :=
  { rows := [], nodup := List.nodup_nil }

@[ext] theorem ext {t u : Table row index key} (h : t.rows = u.rows) : t = u := by
  cases t
  cases u
  cases h
  rfl

/-- Rows satisfying a condition, in insertion order. -/
def select (t : Table row index key) (p : row -> Bool) : List row :=
  t.rows.filter p

theorem mem_select {t : Table row index key} {p : row -> Bool} {r : row} :
    r ∈ t.select p ↔ r ∈ t.rows ∧ p r = true := by
  simp [select]

theorem map_key_rewrite {rows : List row} (f : row -> row)
    (hf : forall r, key (f r) = key r) :
    (rows.map f).map key = rows.map key := by
  simp [List.map_map, Function.comp_def, hf]

/--
Rewrite every row satisfying a condition.  The rewriting keeps the primary
key, which is what makes the result a table again.
-/
def updateWhere (t : Table row index key) (p : row -> Bool) (f : row -> row)
    (hf : forall r, key (f r) = key r) : Table row index key :=
  { rows := t.rows.map (fun r => if p r then f r else r)
    nodup := by
      rw [map_key_rewrite]
      · exact t.nodup
      · intro r
        by_cases hp : p r = true
        · simp [hp, hf]
        · simp [hp] }

@[simp] theorem rows_updateWhere (t : Table row index key) (p : row -> Bool)
    (f : row -> row) (hf : forall r, key (f r) = key r) :
    (t.updateWhere p f hf).rows =
      t.rows.map (fun r => if p r then f r else r) := rfl

theorem eq_of_key_eq {t : Table row index key} {r s : row}
    (hr : r ∈ t.rows) (hs : s ∈ t.rows) (hkey : key r = key s) : r = s :=
  List.inj_on_of_nodup_map t.nodup hr hs hkey

section Lookup

variable [DecidableEq index]

/-- The row with a given primary key. -/
def get (t : Table row index key) (k : index) : Option row :=
  t.rows.find? (fun r => decide (key r = k))

theorem get_eq_some {t : Table row index key} {k : index} {r : row} :
    t.get k = some r ↔ r ∈ t.rows ∧ key r = k := by
  constructor
  · intro h
    exact ⟨List.mem_of_find?_eq_some h, by simpa using List.find?_some h⟩
  · rintro ⟨hmem, hkey⟩
    unfold get
    cases hfind : t.rows.find? (fun s => decide (key s = k)) with
    | none =>
        have hnone := List.find?_eq_none.mp hfind r hmem
        simp [hkey] at hnone
    | some s =>
        have hs : s ∈ t.rows := List.mem_of_find?_eq_some hfind
        have hskey : key s = k := by simpa using List.find?_some hfind
        rw [eq_of_key_eq hs hmem (hskey.trans hkey.symm)]

theorem get_eq_none {t : Table row index key} {k : index} :
    t.get k = none ↔ forall r, r ∈ t.rows -> key r ≠ k := by
  simp [get]

theorem get_key {t : Table row index key} {k : index} {r : row}
    (h : t.get k = some r) : key r = k :=
  (get_eq_some.mp h).right

theorem mem_of_get {t : Table row index key} {k : index} {r : row}
    (h : t.get k = some r) : r ∈ t.rows :=
  (get_eq_some.mp h).left

theorem get_of_mem {t : Table row index key} {r : row} (h : r ∈ t.rows) :
    t.get (key r) = some r :=
  get_eq_some.mpr ⟨h, rfl⟩

/--
The rows that a scan meets, in the order in which it meets them.  A scan that
skips locked rows leaves them out.
-/
def visit (t : Table row index key) (scan : List index) : List row :=
  scan.dedup.filterMap t.get

theorem mem_of_mem_visit {t : Table row index key} {scan : List index} {r : row}
    (h : r ∈ t.visit scan) : r ∈ t.rows := by
  rcases List.mem_filterMap.mp h with ⟨k, _, hk⟩
  exact mem_of_get hk

theorem pairwise_visit (t : Table row index key) (scan : List index) :
    (t.visit scan).Pairwise (fun r s => key r ≠ key s) := by
  refine List.Pairwise.filterMap t.get ?_ (List.nodup_dedup scan)
  intro j k hjk r hr s hs heq
  rw [get_key hr, get_key hs] at heq
  exact hjk heq

/-!
## Rewriting one row

A statement whose row count has been checked to be one rewrites exactly one
row.  `put` states that outcome without the condition that found the row.
-/

/-- Replace the row that carries the key of the given row. -/
def put (t : Table row index key) (r : row) : Table row index key :=
  { rows := t.rows.map (fun s => if key s = key r then r else s)
    nodup := by
      rw [map_key_rewrite]
      · exact t.nodup
      · intro s
        by_cases hs : key s = key r
        · simp [hs]
        · simp [hs] }

@[simp] theorem rows_put (t : Table row index key) (r : row) :
    (t.put r).rows = t.rows.map (fun s => if key s = key r then r else s) := rfl

theorem map_key_put (t : Table row index key) (r : row) :
    (t.put r).rows.map key = t.rows.map key := by
  rw [rows_put, List.map_map]
  refine List.map_congr_left ?_
  intro s _
  by_cases hs : key s = key r
  · simp [hs]
  · simp [hs]

theorem mem_put {t : Table row index key} {r s : row} (h : s ∈ (t.put r).rows) :
    s = r ∨ (s ∈ t.rows ∧ key s ≠ key r) := by
  simp only [rows_put, List.mem_map] at h
  rcases h with ⟨u, hu, hs⟩
  by_cases hkey : key u = key r
  · rw [if_pos hkey] at hs
    exact Or.inl hs.symm
  · rw [if_neg hkey] at hs
    exact Or.inr ⟨hs ▸ hu, hs ▸ hkey⟩

theorem get_put_self {t : Table row index key} {r s : row}
    (h : t.get (key r) = some s) : (t.put r).get (key r) = some r := by
  rw [get_eq_some]
  have hs := get_eq_some.mp h
  refine ⟨?_, rfl⟩
  simp only [rows_put, List.mem_map]
  exact ⟨s, hs.left, by rw [if_pos hs.right]⟩

theorem get_put_ne {t : Table row index key} {r : row} {k : index}
    (h : k ≠ key r) : (t.put r).get k = t.get k := by
  cases hget : t.get k with
  | none =>
      rw [get_eq_none] at hget ⊢
      intro s hs
      rcases mem_put hs with rfl | ⟨hmem, _⟩
      · exact fun hk => h hk.symm
      · exact hget s hmem
  | some s =>
      rw [get_eq_some] at hget ⊢
      have hne : key s ≠ key r := by
        rw [hget.right]
        exact h
      refine ⟨?_, hget.right⟩
      simp only [rows_put, List.mem_map]
      exact ⟨s, hget.left, by rw [if_neg hne]⟩

theorem get_put {t : Table row index key} {r s : row} (k : index)
    (h : t.get (key r) = some s) :
    (t.put r).get k = if k = key r then some r else t.get k := by
  by_cases hk : k = key r
  · rw [if_pos hk, hk]
    exact get_put_self h
  · rw [if_neg hk]
    exact get_put_ne hk

theorem filter_put_of_not {t : Table row index key} {r : row} {p : row -> Bool}
    (hnew : p r = false)
    (hold : forall s, s ∈ t.rows -> key s = key r -> p s = false) :
    (t.put r).select p = t.select p := by
  unfold select
  rw [rows_put, List.filter_map]
  have hfilter : t.rows.filter
      (p ∘ fun s => if key s = key r then r else s) = t.rows.filter p := by
    apply List.filter_congr
    intro s hs
    by_cases hkey : key s = key r
    · simp [hkey, hnew, hold s hs hkey]
    · simp [hkey]
  rw [hfilter]
  conv_rhs => rw [← List.map_id (t.rows.filter p)]
  apply List.map_congr_left
  intro s hs
  have hmem := List.mem_filter.mp hs
  by_cases hkey : key s = key r
  · have hfalse := hold s hmem.left hkey
    rw [hfalse] at hmem
    cases hmem.right
  · simp [hkey]

theorem select_put {t : Table row index key} {r old : row} {p : row -> Bool}
    (hget : t.get (key r) = some old) (hp : p r = p old) :
    (t.put r).select p =
      (t.select p).map (fun s => if key s = key r then r else s) := by
  unfold select
  rw [rows_put, List.filter_map]
  congr 1
  apply List.filter_congr
  intro s hs
  show p (if key s = key r then r else s) = p s
  by_cases hkey : key s = key r
  · have hrow : s = old :=
      eq_of_key_eq hs (mem_of_get hget) (hkey.trans (get_key hget).symm)
    rw [if_pos hkey, hp, hrow]
  · rw [if_neg hkey]

theorem updateWhere_of_select_eq_singleton {t : Table row index key}
    {p : row -> Bool} {f : row -> row} {hf : forall r, key (f r) = key r} {r : row}
    (h : t.select p = [r]) : t.updateWhere p f hf = t.put (f r) := by
  have hmem : r ∈ t.rows ∧ p r = true := by
    rw [← mem_select, h]
    exact List.mem_singleton.mpr rfl
  apply ext
  rw [rows_updateWhere, rows_put]
  apply List.map_congr_left
  intro s hs
  by_cases hps : p s = true
  · have hsr : s ∈ t.select p := mem_select.mpr ⟨hs, hps⟩
    rw [h] at hsr
    rw [List.mem_singleton.mp hsr, if_pos hmem.right, if_pos (hf r).symm]
  · have hne : key s ≠ key (f r) := by
      rw [hf]
      intro hkey
      rw [eq_of_key_eq hs hmem.left hkey] at hps
      exact hps hmem.right
    rw [if_neg hps, if_neg hne]

theorem select_eq_singleton_of_get {t : Table row index key} {p : row -> Bool}
    {k : index} {r : row} (hget : t.get k = some r) (hp : p r = true)
    (hpin : forall s, p s = true -> key s = k) : t.select p = [r] := by
  have hmem := get_eq_some.mp hget
  have hall : forall s, s ∈ t.select p -> s = r := by
    intro s hs
    have hsel := mem_select.mp hs
    exact eq_of_key_eq hsel.left hmem.left
      ((hpin s hsel.right).trans hmem.right.symm)
  have hnodup : (t.select p).Nodup :=
    (List.Nodup.of_map key t.nodup).filter p
  have hin : r ∈ t.select p := mem_select.mpr ⟨hmem.left, hp⟩
  cases hlist : t.select p with
  | nil =>
      rw [hlist] at hin
      cases hin
  | cons s rest =>
      rw [hlist] at hall hnodup
      have hs : s = r := hall s List.mem_cons_self
      cases rest with
      | nil => rw [hs]
      | cons u more =>
          have hu : u = r := hall u (by simp)
          rw [hs, hu] at hnodup
          simp at hnodup

/-!
## Inserting rows
-/

/-- Append a row, refusing a key that is already present. -/
def insert? (t : Table row index key) (r : row) :
    Option (Table row index key) :=
  if h : t.get (key r) = none then
    some
      { rows := t.rows ++ [r]
        nodup := by
          rw [List.map_append, List.map_singleton]
          refine List.Nodup.append t.nodup (List.nodup_singleton _) ?_
          intro k hk hk'
          rcases List.mem_map.mp hk with ⟨s, hs, hsk⟩
          have hkr : k = key r := List.mem_singleton.mp hk'
          exact get_eq_none.mp h s hs (hsk.trans hkr) }
  else
    none

theorem insert?_eq_some {t u : Table row index key} {r : row} :
    t.insert? r = some u ↔ t.get (key r) = none ∧ u.rows = t.rows ++ [r] := by
  unfold insert?
  by_cases h : t.get (key r) = none
  · rw [dif_pos h]
    constructor
    · intro hu
      cases hu
      exact ⟨h, rfl⟩
    · rintro ⟨_, hrows⟩
      exact congrArg some (ext hrows.symm)
  · rw [dif_neg h]
    constructor
    · intro hu
      cases hu
    · rintro ⟨hnone, _⟩
      exact absurd hnone h

theorem get_of_rows_append {t u : Table row index key} {new : List row}
    (h : u.rows = t.rows ++ new) {k : index} {r : row} (hget : t.get k = some r) :
    u.get k = some r := by
  rw [get_eq_some] at hget ⊢
  rw [h]
  exact ⟨List.mem_append_left _ hget.left, hget.right⟩

theorem get_of_rows_append_singleton {t u : Table row index key} {r : row}
    (h : u.rows = t.rows ++ [r]) (k : index) :
    u.get k = if k = key r then some r else t.get k := by
  by_cases hk : k = key r
  · rw [if_pos hk, get_eq_some, h]
    exact ⟨by simp, hk.symm⟩
  · rw [if_neg hk]
    unfold get
    rw [h, List.find?_append]
    simp [Ne.symm hk]

end Lookup

end Table

end Foundation
end RefundAgent
