import RefundAgent.Foundation.Table

/-!
# Ledgers of cycles

A row of a table goes through cycles, and a ledger records each change of cycle
as an entry from the previous to the next.  The ledger agrees with the table
when the entries of every row, in the order in which they were written, lead
from cycle one to the cycle the row is in.
-/

namespace RefundAgent
namespace Foundation

/-- The changes `1 -> 2`, ..., `cycle - 1 -> cycle`. -/
def cycleChain (cycle : Nat) : List (Nat × Nat) :=
  (List.range' 1 (cycle - 1)).map fun n => (n, n + 1)

theorem length_cycleChain (cycle : Nat) : (cycleChain cycle).length = cycle - 1 := by
  simp [cycleChain]

theorem cycleChain_succ {cycle : Nat} (h : 1 ≤ cycle) :
    cycleChain (cycle + 1) = cycleChain cycle ++ [(cycle, cycle + 1)] := by
  unfold cycleChain
  have hlast : cycle + 1 - 1 = (cycle - 1) + 1 := by omega
  rw [hlast, List.range'_concat, List.map_append]
  congr 1
  show [(1 + 1 * (cycle - 1), 1 + 1 * (cycle - 1) + 1)] = [(cycle, cycle + 1)]
  have hcycle : 1 + 1 * (cycle - 1) = cycle := by omega
  rw [hcycle]

theorem nodup_cycleChain (cycle : Nat) : ((cycleChain cycle).map Prod.fst).Nodup := by
  unfold cycleChain
  rw [List.map_map]
  show ((List.range' 1 (cycle - 1)).map fun n => n).Nodup
  rw [List.map_id']
  exact List.nodup_range'

section Entries

variable {ρ κ : Type} [DecidableEq κ] {target : ρ -> κ} {span : ρ -> Nat × Nat}

/-- The entries of one row. -/
def entriesOf (target : ρ -> κ) (entries : List ρ) (k : κ) : List ρ :=
  entries.filter fun r => decide (target r = k)

theorem mem_entriesOf {entries : List ρ} {k : κ} {r : ρ} :
    r ∈ entriesOf target entries k ↔ r ∈ entries ∧ target r = k := by
  simp [entriesOf]

structure Chained (target : ρ -> κ) (span : ρ -> Nat × Nat) (entries : List ρ) (k : κ)
    (cycle : Nat) : Prop where
  positive : 1 ≤ cycle
  chain : (entriesOf target entries k).map span = cycleChain cycle

namespace Chained

variable {entries : List ρ} {k : κ} {cycle : Nat}

theorem start (h : forall r, r ∈ entries -> target r ≠ k) :
    Chained target span entries k 1 := by
  refine ⟨Nat.le_refl 1, ?_⟩
  have hnone : entriesOf target entries k = [] := by
    unfold entriesOf
    rw [List.filter_eq_nil_iff]
    intro r hr
    simpa using h r hr
  rw [hnone]
  rfl

theorem append_own (h : Chained target span entries k cycle) {r : ρ}
    (hr : target r = k) (hspan : span r = (cycle, cycle + 1)) :
    Chained target span (entries ++ [r]) k (cycle + 1) := by
  refine ⟨Nat.le_succ_of_le h.positive, ?_⟩
  have hown : entriesOf target (entries ++ [r]) k = entriesOf target entries k ++ [r] := by
    unfold entriesOf
    rw [List.filter_append]
    simp [hr]
  rw [hown, List.map_append, h.chain, cycleChain_succ h.positive]
  simp [hspan]

theorem append_other (h : Chained target span entries k cycle) {r : ρ}
    (hr : target r ≠ k) : Chained target span (entries ++ [r]) k cycle := by
  refine ⟨h.positive, ?_⟩
  have hother : entriesOf target (entries ++ [r]) k = entriesOf target entries k := by
    unfold entriesOf
    rw [List.filter_append]
    simp [hr]
  rw [hother]
  exact h.chain

theorem cycle_eq (h : Chained target span entries k cycle) :
    cycle = 1 + (entriesOf target entries k).length := by
  have hlength := congrArg List.length h.chain
  rw [List.length_map, length_cycleChain] at hlength
  have := h.positive
  omega

theorem unique (h : Chained target span entries k cycle) {r r' : ρ}
    (hr : r ∈ entriesOf target entries k) (hr' : r' ∈ entriesOf target entries k)
    (hspan : (span r).1 = (span r').1) : r = r' := by
  have hnodup : ((entriesOf target entries k).map fun r => (span r).1).Nodup := by
    have hchain := nodup_cycleChain cycle
    rw [← h.chain, List.map_map] at hchain
    exact hchain
  exact List.inj_on_of_nodup_map hnodup hr hr' hspan

end Chained

/-!
## Ledger and table
-/

variable {μ : Type} {key : μ -> κ} {cycleOf : μ -> Nat}

structure Ledger (target : ρ -> κ) (span : ρ -> Nat × Nat) (cycleOf : μ -> Nat)
    (t : Table μ κ key) (entries : List ρ) : Prop where
  chained : forall m, m ∈ t.rows -> Chained target span entries (key m) (cycleOf m)
  known : forall r, r ∈ entries -> exists m, t.get (target r) = some m

namespace Ledger

variable {t u : Table μ κ key} {entries : List ρ}

theorem empty : Ledger target span cycleOf (Table.empty : Table μ κ key) [] :=
  ⟨fun m hm => (by cases hm), fun r hr => (by cases hr)⟩

theorem insert (h : Ledger target span cycleOf t entries) {m : μ}
    (hm : t.insert? m = some u) (hcycle : cycleOf m = 1) :
    Ledger target span cycleOf u entries := by
  rcases Table.insert?_eq_some.mp hm with ⟨hnew, hrows⟩
  refine ⟨?_, ?_⟩
  · intro x hx
    rw [hrows] at hx
    rcases List.mem_append.mp hx with hx | hx
    · exact h.chained x hx
    · rw [List.mem_singleton.mp hx, hcycle]
      refine Chained.start ?_
      intro r hr htarget
      rcases h.known r hr with ⟨y, hy⟩
      rw [htarget, hnew] at hy
      cases hy
  · intro r hr
    rcases h.known r hr with ⟨y, hy⟩
    exact ⟨y, Table.get_of_rows_append hrows hy⟩

theorem get_put {m x : μ} {k : κ} (hm : t.get (key m) = some x) {y : μ}
    (hy : t.get k = some y) : exists z, (t.put m).get k = some z := by
  rw [Table.get_put k hm]
  by_cases hk : k = key m
  · exact ⟨m, if_pos hk⟩
  · exact ⟨y, by rw [if_neg hk]; exact hy⟩

theorem rewrite (h : Ledger target span cycleOf t entries) {m m' : μ}
    (hm : t.get (key m) = some m) (hkey : key m' = key m)
    (hcycle : cycleOf m' = cycleOf m) : Ledger target span cycleOf (t.put m') entries := by
  refine ⟨?_, ?_⟩
  · intro x hx
    rcases Table.mem_put hx with rfl | ⟨hx, _⟩
    · rw [hkey, hcycle]
      exact h.chained m (Table.mem_of_get hm)
    · exact h.chained x hx
  · intro r hr
    rcases h.known r hr with ⟨y, hy⟩
    exact get_put (by rw [hkey]; exact hm) hy

theorem advance (h : Ledger target span cycleOf t entries) {m m' : μ} {r : ρ}
    (hm : t.get (key m) = some m) (hkey : key m' = key m)
    (hcycle : cycleOf m' = cycleOf m + 1) (htarget : target r = key m)
    (hspan : span r = (cycleOf m, cycleOf m + 1)) :
    Ledger target span cycleOf (t.put m') (entries ++ [r]) := by
  refine ⟨?_, ?_⟩
  · intro x hx
    rcases Table.mem_put hx with rfl | ⟨hx, hne⟩
    · rw [hkey, hcycle]
      exact (h.chained m (Table.mem_of_get hm)).append_own htarget hspan
    · refine (h.chained x hx).append_other ?_
      rw [htarget, ← hkey]
      exact Ne.symm hne
  · intro e he
    rcases List.mem_append.mp he with he | he
    · rcases h.known e he with ⟨y, hy⟩
      exact get_put (by rw [hkey]; exact hm) hy
    · rw [List.mem_singleton.mp he, htarget]
      exact get_put (by rw [hkey]; exact hm) hm

end Ledger

end Entries

end Foundation
end RefundAgent
