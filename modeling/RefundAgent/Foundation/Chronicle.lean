import Mathlib.Data.List.Basic

/-!
# Chronicles

A log is read entry by entry.  It is a chronicle of a state when reading it from
the beginning gives that state, and when every entry recalls only what had been
read before it.
-/

namespace RefundAgent
namespace Foundation

section Chronicles

variable {φ ε : Type} {read : φ -> ε -> φ} {recalls : φ -> ε -> Prop} {start state : φ}
  {log : List ε}

structure Chronicle (read : φ -> ε -> φ) (recalls : φ -> ε -> Prop) (start : φ)
    (log : List ε) (state : φ) : Prop where
  result : log.foldl read start = state
  recalled : forall before e after, log = before ++ e :: after ->
    recalls (before.foldl read start) e

theorem Chronicle.nil : Chronicle read recalls start [] start where
  result := rfl
  recalled := by
    intro before e after h
    have hlength := congrArg List.length h
    simp at hlength

theorem Chronicle.snoc (h : Chronicle read recalls start log state) {e : ε}
    (he : recalls state e) : Chronicle read recalls start (log ++ [e]) (read state e) where
  result := by
    rw [List.foldl_append, h.result]
    rfl
  recalled := by
    intro before d after hsplit
    rcases List.eq_nil_or_concat after with hnil | ⟨rest, last, hlast⟩
    · rw [hnil] at hsplit
      rcases List.append_inj' hsplit rfl with ⟨hlog, hsame⟩
      cases hsame
      rw [← hlog, h.result]
      exact he
    · rw [hlast] at hsplit
      have hsplit' : log ++ [e] = (before ++ d :: rest) ++ [last] := by
        rw [hsplit]
        simp
      exact h.recalled before d rest (List.append_inj' hsplit' rfl).left

end Chronicles

end Foundation
end RefundAgent
