import Mathlib.Tactic

/-!
# Searching for a pattern

Regular expressions made of characters and of negative assertions about one
neighbouring character, the search for all their matches from left to right, and what
that search finds when the characters are those of a fixed text.
-/

namespace RefundAgent
namespace Foundation

/-- A character, or a negative assertion about the character before or after. -/
inductive Atom (α : Type) where
  | char (c : α)
  | notAfter (p : α -> Bool)
  | notBefore (p : α -> Bool)

abbrev Pattern (α : Type) := List (Atom α)

structure Span where
  start : Nat
  stop : Nat
deriving DecidableEq, Repr

variable {α : Type}

namespace Pattern

variable [DecidableEq α]

/-- The length of the match at a place, from the character before it and the rest. -/
def matchAt : Pattern α -> Option α -> List α -> Option Nat
  | [], _, _ => some 0
  | Atom.notAfter p :: atoms, before, text =>
      if before.any p then none else matchAt atoms before text
  | Atom.notBefore p :: atoms, before, text =>
      if text.head?.any p then none else matchAt atoms before text
  | Atom.char _ :: _, _, [] => none
  | Atom.char c :: atoms, _, x :: text =>
      if x = c then (matchAt atoms (some x) text).map (· + 1) else none

/--
The matches from position `i` on, where the last match covers the next `busy`
characters.  After an empty match the search moves on by one character.
-/
def searchFrom (pattern : Pattern α) (before : Option α) (i busy : Nat) :
    List α -> List Span
  | [] =>
      match busy, pattern.matchAt before [] with
      | 0, some n => [{ start := i, stop := i + n }]
      | _, _ => []
  | x :: text =>
      match busy, pattern.matchAt before (x :: text) with
      | busy + 1, _ => searchFrom pattern (some x) (i + 1) busy text
      | 0, some n =>
          { start := i, stop := i + n } ::
            searchFrom pattern (some x) (i + 1) (n - 1) text
      | 0, none => searchFrom pattern (some x) (i + 1) 0 text

/-- All matches that do not overlap, from left to right. -/
def finditer (pattern : Pattern α) (text : List α) : List Span :=
  pattern.searchFrom none 0 0 text

/-- The pattern of a fixed text. -/
def escape (s : List α) : Pattern α :=
  s.map Atom.char

/-- The pattern of a fixed text, with no character of the boundary next to it. -/
def literal (boundary : Option (α -> Bool)) (s : List α) : Pattern α :=
  match boundary with
  | none => escape s
  | some p => Atom.notAfter p :: (escape s ++ [Atom.notBefore p])

end Pattern

/-!
## Leftmost occurrences
-/

/--
The leftmost places from `start` on that do not overlap: each is an occurrence, each
ends before the next one starts, and every occurrence starts inside one of them.
-/
structure LeftmostFrom (Occurs : Nat -> Prop) (width start : Nat) (starts : List Nat) :
    Prop where
  occurs : forall i, i ∈ starts -> start ≤ i ∧ Occurs i
  apart : starts.Pairwise fun i j => i + max width 1 ≤ j
  covers : forall j, start ≤ j -> Occurs j ->
    exists i, i ∈ starts ∧ i ≤ j ∧ j < i + max width 1

namespace LeftmostFrom

variable {Occurs : Nat -> Prop} {width start : Nat}

theorem nil (h : forall j, start ≤ j -> ¬Occurs j) : LeftmostFrom Occurs width start [] where
  occurs := fun _ hi => by cases hi
  apart := List.Pairwise.nil
  covers := fun j hj hocc => absurd hocc (h j hj)

theorem skip {starts : List Nat} (hno : ¬Occurs start)
    (h : LeftmostFrom Occurs width (start + 1) starts) :
    LeftmostFrom Occurs width start starts where
  occurs := fun i hi => ⟨by have := (h.occurs i hi).left; omega, (h.occurs i hi).right⟩
  apart := h.apart
  covers := by
    intro j hj hocc
    rcases Nat.eq_or_lt_of_le hj with rfl | hlt
    · exact absurd hocc hno
    · exact h.covers j hlt hocc

theorem cons {starts : List Nat} (hocc : Occurs start)
    (h : LeftmostFrom Occurs width (start + max width 1) starts) :
    LeftmostFrom Occurs width start (start :: starts) where
  occurs := by
    intro i hi
    rcases List.mem_cons.mp hi with rfl | hi
    · exact ⟨le_refl i, hocc⟩
    · exact ⟨by have := (h.occurs i hi).left; omega, (h.occurs i hi).right⟩
  apart := List.Pairwise.cons (fun i hi => (h.occurs i hi).left) h.apart
  covers := by
    intro j hj hoccurs
    by_cases hinside : j < start + max width 1
    · exact ⟨start, List.mem_cons_self, hj, hinside⟩
    · rcases h.covers j (by omega) hoccurs with ⟨i, hi, hle, hlt⟩
      exact ⟨i, List.mem_cons_of_mem start hi, hle, hlt⟩

theorem tail {i : Nat} {starts : List Nat}
    (h : LeftmostFrom Occurs width start (i :: starts)) :
    LeftmostFrom Occurs width (i + max width 1) starts where
  occurs := by
    intro j hj
    exact ⟨(List.pairwise_cons.mp h.apart).left j hj,
      (h.occurs j (List.mem_cons_of_mem i hj)).right⟩
  apart := (List.pairwise_cons.mp h.apart).right
  covers := by
    intro j hj hocc
    have hstart := (h.occurs i List.mem_cons_self).left
    rcases h.covers j (by omega) hocc with ⟨k, hk, hle, hlt⟩
    rcases List.mem_cons.mp hk with rfl | hk
    · omega
    · exact ⟨k, hk, hle, hlt⟩

theorem head_le {i j : Nat} {starts : List Nat}
    (h : LeftmostFrom Occurs width start (i :: starts)) (hj : start ≤ j)
    (hocc : Occurs j) : i ≤ j := by
  rcases h.covers j hj hocc with ⟨k, hk, hle, _⟩
  rcases List.mem_cons.mp hk with rfl | hk
  · exact hle
  · have := (List.pairwise_cons.mp h.apart).left k hk
    omega

theorem unique {xs ys : List Nat} (hx : LeftmostFrom Occurs width start xs)
    (hy : LeftmostFrom Occurs width start ys) : xs = ys := by
  induction xs generalizing start ys with
  | nil =>
      cases ys with
      | nil => rfl
      | cons y ys =>
          rcases hy.occurs y List.mem_cons_self with ⟨hstart, hocc⟩
          rcases hx.covers y hstart hocc with ⟨i, hi, _⟩
          cases hi
  | cons x xs ih =>
      rcases hx.occurs x List.mem_cons_self with ⟨hxstart, hxocc⟩
      cases ys with
      | nil =>
          rcases hy.covers x hxstart hxocc with ⟨i, hi, _⟩
          cases hi
      | cons y ys =>
          rcases hy.occurs y List.mem_cons_self with ⟨hystart, hyocc⟩
          have hsame : x = y :=
            Nat.le_antisymm (hx.head_le hystart hyocc) (hy.head_le hxstart hxocc)
          cases hsame
          rw [ih hx.tail hy.tail]

end LeftmostFrom

/-!
## The search for a fixed text
-/

/--
The text `s` occurs at position `i`; with a boundary, neither the character before it
nor the one after it is in the boundary.
-/
def OccursAt (boundary : Option (α -> Bool)) (s text : List α) (i : Nat) : Prop :=
  exists before after, text = before ++ (s ++ after) ∧ before.length = i ∧
    forall p, boundary = some p ->
      before.getLast?.any p = false ∧ after.head?.any p = false

theorem OccursAt.le_length {boundary : Option (α -> Bool)} {s text : List α} {i : Nat}
    (h : OccursAt boundary s text i) : i + s.length ≤ text.length := by
  rcases h with ⟨before, after, rfl, rfl, _⟩
  simp only [List.length_append]
  omega

theorem OccursAt.slice {boundary : Option (α -> Bool)} {s text : List α} {i : Nat}
    (h : OccursAt boundary s text i) : (text.drop i).take s.length = s := by
  rcases h with ⟨before, after, rfl, rfl, _⟩
  rw [List.drop_left, List.take_left]

theorem occursAt_append {boundary : Option (α -> Bool)} {s before rest : List α} :
    OccursAt boundary s (before ++ rest) before.length ↔
      exists after, rest = s ++ after ∧ forall p, boundary = some p ->
        before.getLast?.any p = false ∧ after.head?.any p = false := by
  constructor
  · rintro ⟨before', after, htext, hlength, hboundary⟩
    rcases List.append_inj htext hlength.symm with ⟨rfl, rfl⟩
    exact ⟨after, rfl, hboundary⟩
  · rintro ⟨after, rfl, hboundary⟩
    exact ⟨before, after, rfl, rfl, hboundary⟩

namespace Pattern

variable [DecidableEq α]

theorem matchAt_escape_append {s : List α} {atoms : Pattern α} {before : Option α}
    {text : List α} {n : Nat} :
    matchAt (escape s ++ atoms) before text = some n ↔
      exists after m, text = s ++ after ∧
        matchAt atoms (s.getLast?.or before) after = some m ∧ n = m + s.length := by
  induction s generalizing before text n with
  | nil => simp [escape]
  | cons c s ih =>
      cases text with
      | nil => simp [escape, matchAt]
      | cons x text =>
          have hlast : (c :: s).getLast?.or before = s.getLast?.or (some c) := by
            cases s with
            | nil => rfl
            | cons d s => simp [List.getLast?_cons]
          rw [hlast]
          by_cases hx : x = c
          · cases hx
            have hstep : matchAt (escape (c :: s) ++ atoms) before (c :: text) =
                (matchAt (escape s ++ atoms) (some c) text).map (· + 1) := if_pos rfl
            rw [hstep, Option.map_eq_some_iff]
            constructor
            · rintro ⟨k, hk, rfl⟩
              rcases ih.mp hk with ⟨after, m, rfl, hm, rfl⟩
              exact ⟨after, m, rfl, hm, rfl⟩
            · rintro ⟨after, m, htext, hm, rfl⟩
              cases htext
              exact ⟨m + s.length, ih.mpr ⟨after, m, rfl, hm, rfl⟩, rfl⟩
          · have hstep : matchAt (escape (c :: s) ++ atoms) before (x :: text) = none :=
              if_neg hx
            rw [hstep]
            constructor
            · intro h
              cases h
            · rintro ⟨after, m, htext, _⟩
              exact absurd (List.cons.inj htext).left hx

theorem matchAt_literal {boundary : Option (α -> Bool)} {s : List α} {before : Option α}
    {text : List α} {n : Nat} :
    matchAt (literal boundary s) before text = some n ↔
      n = s.length ∧ exists after, text = s ++ after ∧ forall p, boundary = some p ->
        before.any p = false ∧ after.head?.any p = false := by
  cases boundary with
  | none =>
      have h : matchAt (escape s ++ []) before text = some n ↔ _ := matchAt_escape_append
      rw [List.append_nil] at h
      unfold literal
      dsimp only
      rw [h]
      constructor
      · rintro ⟨after, m, rfl, hm, rfl⟩
        cases hm
        exact ⟨Nat.zero_add _, after, rfl, fun p hp => by cases hp⟩
      · rintro ⟨rfl, after, rfl, _⟩
        exact ⟨after, 0, rfl, rfl, (Nat.zero_add _).symm⟩
  | some p =>
      unfold literal
      dsimp only [matchAt]
      cases hbefore : before.any p with
      | true =>
          rw [if_pos rfl]
          constructor
          · intro h
            cases h
          · rintro ⟨_, after, _, hboundary⟩
            exact absurd ((hboundary p rfl).left.symm.trans hbefore) Bool.false_ne_true
      | false =>
          rw [if_neg Bool.false_ne_true, matchAt_escape_append]
          constructor
          · rintro ⟨after, m, rfl, hm, rfl⟩
            dsimp only [matchAt] at hm
            cases hafter : after.head?.any p with
            | true =>
                rw [hafter, if_pos rfl] at hm
                cases hm
            | false =>
                rw [hafter, if_neg Bool.false_ne_true] at hm
                cases hm
                refine ⟨Nat.zero_add _, after, rfl, fun q hq => ?_⟩
                cases hq
                exact ⟨hbefore, hafter⟩
          · rintro ⟨rfl, after, rfl, hboundary⟩
            refine ⟨after, 0, rfl, ?_, (Nat.zero_add _).symm⟩
            dsimp only [matchAt]
            rw [(hboundary p rfl).right, if_neg Bool.false_ne_true]

section Search

variable (boundary : Option (α -> Bool)) (s : List α)

theorem matchAt_eq (before rest : List α) :
    (OccursAt boundary s (before ++ rest) before.length ∧
      matchAt (literal boundary s) before.getLast? rest = some s.length) ∨
    (¬OccursAt boundary s (before ++ rest) before.length ∧
      matchAt (literal boundary s) before.getLast? rest = none) := by
  cases hmatch : matchAt (literal boundary s) before.getLast? rest with
  | some n =>
      rcases matchAt_literal.mp hmatch with ⟨rfl, hocc⟩
      exact Or.inl ⟨occursAt_append.mpr hocc, rfl⟩
  | none =>
      refine Or.inr ⟨fun hocc => ?_, rfl⟩
      rw [matchAt_literal.mpr ⟨rfl, occursAt_append.mp hocc⟩] at hmatch
      cases hmatch

theorem searchFrom_leftmost (rest before : List α) (busy : Nat) :
    LeftmostFrom (OccursAt boundary s (before ++ rest)) s.length (before.length + busy)
      (((literal boundary s).searchFrom before.getLast? before.length busy rest).map
        Span.start) := by
  induction rest generalizing before busy with
  | nil =>
      have hend : forall j, before.length + 1 ≤ j -> ¬OccursAt boundary s (before ++ []) j := by
        intro j hj hocc
        have hle := hocc.le_length
        rw [List.append_nil] at hle
        omega
      cases busy with
      | succ busy => exact LeftmostFrom.nil fun j hj => hend j (by omega)
      | zero =>
          rcases matchAt_eq boundary s before [] with ⟨hocc, hmatch⟩ | ⟨hocc, hmatch⟩
          · simp only [searchFrom, hmatch]
            exact LeftmostFrom.cons hocc (LeftmostFrom.nil fun j hj => hend j (by omega))
          · simp only [searchFrom, hmatch]
            exact LeftmostFrom.skip hocc (LeftmostFrom.nil hend)
  | cons x rest ih =>
      have hnext := ih (before ++ [x])
      rw [List.append_assoc, List.singleton_append, List.getLast?_concat,
        List.length_append, List.length_singleton] at hnext
      cases busy with
      | succ busy =>
          have hcount : before.length + (busy + 1) = before.length + 1 + busy := by omega
          rw [hcount]
          exact hnext busy
      | zero =>
          rcases matchAt_eq boundary s before (x :: rest) with
            ⟨hocc, hmatch⟩ | ⟨hocc, hmatch⟩
          · have hcount : before.length + max s.length 1 =
                before.length + 1 + (s.length - 1) := by omega
            simp only [searchFrom, hmatch]
            apply LeftmostFrom.cons hocc
            rw [hcount]
            exact hnext (s.length - 1)
          · simp only [searchFrom, hmatch]
            exact LeftmostFrom.skip hocc (hnext 0)

theorem searchFrom_stop {span : Span} (rest : List α) (before : Option α) (i busy : Nat)
    (h : span ∈ (literal boundary s).searchFrom before i busy rest) :
    span.stop = span.start + s.length := by
  induction rest generalizing before i busy with
  | nil =>
      unfold searchFrom at h
      split at h
      · rename_i n hmatch
        rcases List.mem_singleton.mp h with rfl
        rw [(matchAt_literal.mp hmatch).left]
      · cases h
  | cons x rest ih =>
      unfold searchFrom at h
      split at h
      · exact ih _ _ _ h
      · rename_i n hmatch
        rcases List.mem_cons.mp h with rfl | h
        · rw [(matchAt_literal.mp hmatch).left]
        · exact ih _ _ _ h
      · exact ih _ _ _ h

theorem finditer_leftmost (text : List α) :
    LeftmostFrom (OccursAt boundary s text) s.length 0
      (((literal boundary s).finditer text).map Span.start) :=
  searchFrom_leftmost boundary s text [] 0

theorem finditer_stop {text : List α} {span : Span}
    (h : span ∈ (literal boundary s).finditer text) :
    span.stop = span.start + s.length :=
  searchFrom_stop boundary s text none 0 0 h

theorem finditer_ne_nil {text : List α} :
    (literal boundary s).finditer text ≠ [] ↔ exists i, OccursAt boundary s text i := by
  have hleftmost := finditer_leftmost boundary s text
  constructor
  · intro h
    rcases List.exists_mem_of_ne_nil _ h with ⟨span, hspan⟩
    exact ⟨span.start, (hleftmost.occurs _ (List.mem_map_of_mem hspan)).right⟩
  · rintro ⟨i, hocc⟩ hnil
    rcases hleftmost.covers i (Nat.zero_le i) hocc with ⟨j, hj, _⟩
    rw [hnil] at hj
    cases hj

end Search

example : (literal (some Char.isAlphanum) "aa".toList).finditer "aa-aaa aa".toList =
    [{ start := 0, stop := 2 }, { start := 7, stop := 9 }] := by
  decide +kernel

end Pattern

end Foundation
end RefundAgent
