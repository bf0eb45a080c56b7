import Mathlib.Tactic

/-!
# Bytes

The UTF-8 encoding of a text, and byte strings joined by a delimiter.  A byte of
seven bits stands for itself in the encoding and occurs nowhere else.
-/

namespace RefundAgent
namespace Foundation

/-- Python's `str.encode`. -/
def encode (s : String) : List UInt8 :=
  s.toList.flatMap String.utf8EncodeChar

@[simp] theorem encode_append (s t : String) : encode (s ++ t) = encode s ++ encode t := by
  unfold encode
  rw [String.toList_append, List.flatMap_append]

theorem encode_inj {s t : String} (h : encode s = encode t) : s = t := by
  have hbytes : s.toList.utf8Encode = t.toList.utf8Encode := by
    unfold List.utf8Encode
    rw [show s.toList.flatMap String.utf8EncodeChar =
      t.toList.flatMap String.utf8EncodeChar from h]
  rw [String.utf8Encode_toList, String.utf8Encode_toList] at hbytes
  exact String.toByteArray_inj.mp hbytes

theorem toNat_byte {n : Nat} (h : n < 256) : (UInt8.ofNat n).toNat = n :=
  UInt8.toNat_ofNat_of_lt' h

theorem high_byte {n : Nat} (hlow : 0x80 ≤ n) (hhigh : n < 256) :
    0x80 ≤ (UInt8.ofNat n).toNat := by
  rw [toNat_byte hhigh]
  exact hlow

theorem utf8EncodeChar_ascii {c : Char} (hc : c.val.toNat ≤ 0x7f) :
    String.utf8EncodeChar c = [UInt8.ofNat c.val.toNat] := by
  unfold String.utf8EncodeChar
  exact if_pos hc

theorem utf8EncodeChar_high {c : Char} (hc : ¬c.val.toNat ≤ 0x7f) {b : UInt8}
    (hb : b ∈ String.utf8EncodeChar c) : 0x80 ≤ b.toNat := by
  generalize hn : c.val.toNat = n at hc
  unfold String.utf8EncodeChar at hb
  simp only [hn] at hb
  rw [if_neg hc] at hb
  split at hb
  · simp only [List.mem_cons, List.not_mem_nil, or_false] at hb
    rcases hb with rfl | rfl
    · exact high_byte (by omega) (by omega)
    · exact high_byte (by omega) (by omega)
  · split at hb
    · simp only [List.mem_cons, List.not_mem_nil, or_false] at hb
      rcases hb with rfl | rfl | rfl
      · exact high_byte (by omega) (by omega)
      · exact high_byte (by omega) (by omega)
      · exact high_byte (by omega) (by omega)
    · simp only [List.mem_cons, List.not_mem_nil, or_false] at hb
      rcases hb with rfl | rfl | rfl | rfl
      · exact high_byte (by omega) (by omega)
      · exact high_byte (by omega) (by omega)
      · exact high_byte (by omega) (by omega)
      · exact high_byte (by omega) (by omega)

theorem count_utf8EncodeChar {a : Char} (ha : a.val.toNat ≤ 0x7f) (c : Char) :
    (String.utf8EncodeChar c).count (UInt8.ofNat a.val.toNat) =
      if c = a then 1 else 0 := by
  have hbyte : (UInt8.ofNat a.val.toNat).toNat = a.val.toNat :=
    toNat_byte (by omega)
  by_cases hc : c.val.toNat ≤ 0x7f
  · rw [utf8EncodeChar_ascii hc]
    by_cases hsame : c = a
    · rw [if_pos hsame, hsame, List.count_singleton_self]
    · rw [if_neg hsame, List.count_eq_zero, List.mem_singleton]
      intro hno
      apply hsame
      have hnat := congrArg UInt8.toNat hno
      rw [hbyte, toNat_byte (by omega)] at hnat
      exact Char.ext (UInt32.toNat_inj.mp hnat.symm)
  · have hne : c ≠ a := fun h => hc (h ▸ ha)
    rw [if_neg hne, List.count_eq_zero]
    intro hmem
    have hhigh := utf8EncodeChar_high hc hmem
    omega

theorem count_encode {a : Char} (ha : a.val.toNat ≤ 0x7f) (s : String) :
    (encode s).count (UInt8.ofNat a.val.toNat) = s.toList.count a := by
  unfold encode
  induction s.toList with
  | nil => rfl
  | cons c rest ih =>
      rw [List.flatMap_cons, List.count_append, ih, count_utf8EncodeChar ha,
        List.count_cons, Nat.add_comm]
      by_cases hsame : c = a
      · rw [if_pos hsame, if_pos (beq_iff_eq.mpr hsame)]
      · rw [if_neg hsame, if_neg fun h => hsame (beq_iff_eq.mp h)]

theorem length_encode_ofList {cs : List Char}
    (h : forall c, c ∈ cs -> c.val.toNat ≤ 0x7f) :
    (encode (String.ofList cs)).length = cs.length := by
  unfold encode
  rw [String.toList_ofList]
  induction cs with
  | nil => rfl
  | cons c rest ih =>
      have hrest := ih fun d hd => h d (List.mem_cons_of_mem c hd)
      rw [List.flatMap_cons, List.length_append, hrest,
        utf8EncodeChar_ascii (h c List.mem_cons_self), List.length_singleton,
        List.length_cons, Nat.add_comm]

/-!
## Delimiters
-/

/--
Two parts joined by a delimiter can be told apart as soon as it is known how often
the delimiter occurs in the first.
-/
theorem delimiter_inj {α : Type} [DecidableEq α] {d : α} :
    forall {u v x y : List α}, u ++ d :: x = v ++ d :: y -> u.count d = v.count d ->
      u = v ∧ x = y := by
  intro u
  induction u with
  | nil =>
      intro v x y h hcount
      cases v with
      | nil => exact ⟨rfl, (List.cons.inj h).right⟩
      | cons a v =>
          rw [show d = a from (List.cons.inj h).left, List.count_cons_self] at hcount
          cases hcount
  | cons a u ih =>
      intro v x y h hcount
      cases v with
      | nil =>
          rw [show a = d from (List.cons.inj h).left, List.count_cons_self] at hcount
          cases hcount
      | cons b v =>
          rcases List.cons.inj h with ⟨rfl, htail⟩
          rw [List.count_cons, List.count_cons, Nat.add_right_cancel_iff] at hcount
          rcases ih htail hcount with ⟨rfl, hxy⟩
          exact ⟨rfl, hxy⟩

end Foundation
end RefundAgent
