import Mathlib.Tactic

/-!
# Dictionaries

Dictionaries that keep their entries in the order in which the keys came, as those
of Python do: a new value for an old key takes the place of the old value.
-/

namespace RefundAgent
namespace Foundation

abbrev Dict (κ β : Type) := List (κ × β)

namespace Dict

variable {κ β : Type} [DecidableEq κ]

def get (d : Dict κ β) (k : κ) : Option β :=
  (d.find? fun e => decide (e.1 = k)).map Prod.snd

def set (d : Dict κ β) (k : κ) (v : β) : Dict κ β :=
  if (d.get k).isSome then
    d.map fun e => if e.1 = k then (k, v) else e
  else
    d ++ [(k, v)]

theorem get_cons (k' : κ) (v : β) (d : Dict κ β) (k : κ) :
    get ((k', v) :: d) k = if k' = k then some v else d.get k := by
  unfold get
  by_cases h : k' = k
  · rw [List.find?_cons_of_pos (by simpa using h), if_pos h]
    rfl
  · rw [List.find?_cons_of_neg (by simpa using h), if_neg h]

theorem get_map_set (d : Dict κ β) (k : κ) (v : β) (j : κ) :
    get (d.map fun e => if e.1 = k then (k, v) else e) j =
      if j = k then (d.get k).map (fun _ => v) else d.get j := by
  induction d with
  | nil =>
      split <;> rfl
  | cons e rest ih =>
      rcases e with ⟨k', w⟩
      rw [List.map_cons]
      by_cases hk : k' = k
      · rw [if_pos hk, get_cons, ih, get_cons, get_cons, if_pos hk]
        by_cases hj : j = k
        · rw [if_pos hj.symm, if_pos hj]
          rfl
        · rw [if_neg (fun h => hj h.symm), if_neg hj, if_neg hj,
            if_neg (fun h => hj (h.symm.trans hk))]
      · rw [if_neg hk, get_cons, ih, get_cons, get_cons, if_neg hk]
        by_cases hj : j = k
        · rw [if_pos hj, if_neg (fun h => hk (h.trans hj)), if_pos hj]
        · rw [if_neg hj, if_neg hj]

theorem get_append_singleton (d : Dict κ β) (k : κ) (v : β) (j : κ)
    (hfresh : d.get k = none) :
    get (d ++ [(k, v)]) j = if j = k then some v else d.get j := by
  induction d with
  | nil =>
      rw [List.nil_append, get_cons]
      by_cases hj : j = k
      · rw [if_pos hj, if_pos hj.symm]
      · rw [if_neg hj, if_neg (fun h => hj h.symm)]
  | cons e rest ih =>
      rcases e with ⟨k', w⟩
      rw [get_cons] at hfresh
      by_cases hk : k' = k
      · rw [if_pos hk] at hfresh
        cases hfresh
      · rw [if_neg hk] at hfresh
        rw [List.cons_append, get_cons, ih hfresh, get_cons]
        by_cases hj : j = k
        · rw [if_pos hj, if_neg (fun h => hk (h.trans hj)), if_pos hj]
        · rw [if_neg hj, if_neg hj]

theorem get_set (d : Dict κ β) (k : κ) (v : β) (j : κ) :
    (d.set k v).get j = if j = k then some v else d.get j := by
  unfold set
  cases hget : d.get k with
  | some w =>
      rw [Option.isSome_some, if_pos rfl, get_map_set, hget]
      rfl
  | none =>
      rw [Option.isSome_none, if_neg Bool.false_ne_true, get_append_singleton _ _ _ _ hget]

end Dict
end Foundation
end RefundAgent
