import Mathlib.Data.List.TakeWhile
import Mathlib.Tactic

/-!
# Text

Stripping of surrounding whitespace for the three readings of whitespace that
meet in a Python service over PostgreSQL, and strings joined by a separator.
-/

namespace RefundAgent
namespace Foundation

namespace Text

/-- Drop the characters satisfying a condition from both ends. -/
def stripWith (p : Char -> Bool) (s : String) : String :=
  String.ofList ((s.toList.dropWhile p).reverse.dropWhile p).reverse

/-- The characters with the Unicode property `White_Space`. -/
def isWhiteSpace (c : Char) : Bool :=
  let n := c.toNat
  (9 ≤ n && n ≤ 13) || n == 0x20 || n == 0x85 || n == 0xA0 || n == 0x1680 ||
    (0x2000 ≤ n && n ≤ 0x200A) || n == 0x2028 || n == 0x2029 || n == 0x202F ||
    n == 0x205F || n == 0x3000

/--
Python's `str.isspace`, which also counts the four information separators.
-/
def isPythonSpace (c : Char) : Bool :=
  isWhiteSpace c || (0x1C ≤ c.toNat && c.toNat ≤ 0x1F)

/-- Python's `str.strip`. -/
def strip (s : String) : String :=
  stripWith isPythonSpace s

/-- Stripping as done by a model with `str_strip_whitespace`. -/
def trim (s : String) : String :=
  stripWith isWhiteSpace s

/-- PostgreSQL's `btrim`, which removes spaces only. -/
def btrim (s : String) : String :=
  stripWith (fun c => c == ' ') s

theorem stripWith_eq_empty {p : Char -> Bool} {s : String} :
    stripWith p s = "" ↔ forall c, c ∈ s.toList -> p c = true := by
  unfold stripWith
  rw [String.ofList_eq_empty_iff, List.reverse_eq_nil_iff,
    List.dropWhile_eq_nil_iff]
  constructor
  · intro h
    by_contra hno
    push Not at hno
    rcases hno with ⟨c, hc, hpc⟩
    have hdrop : s.toList.dropWhile p ≠ [] := by
      intro hnil
      exact hpc (List.dropWhile_eq_nil_iff.mp hnil c hc)
    have hhead := List.head_dropWhile_not p hdrop
    have hmem := List.head_mem hdrop
    have htrue := h _ (List.mem_reverse.mpr hmem)
    rw [htrue] at hhead
    cases hhead
  · intro h c hc
    exact h c (List.dropWhile_subset p (List.mem_reverse.mp hc))

theorem isPythonSpace_of_isWhiteSpace {c : Char} (h : isWhiteSpace c = true) :
    isPythonSpace c = true := by
  unfold isPythonSpace
  rw [h, Bool.true_or]

theorem isWhiteSpace_space : isWhiteSpace ' ' = true := by
  decide

/-- A text that survives Python's stripping survives the model's. -/
theorem trim_ne_empty_of_strip {s : String} (h : strip s ≠ "") : trim s ≠ "" := by
  intro htrim
  apply h
  exact stripWith_eq_empty.mpr fun c hc =>
    isPythonSpace_of_isWhiteSpace (stripWith_eq_empty.mp htrim c hc)

theorem btrim_ne_empty_of_trim {s : String} (h : trim s ≠ "") : btrim s ≠ "" := by
  intro hbtrim
  apply h
  refine stripWith_eq_empty.mpr ?_
  intro c hc
  have hspace := stripWith_eq_empty.mp hbtrim c hc
  rw [beq_iff_eq.mp hspace]
  exact isWhiteSpace_space

theorem dropWhile_idem (p : Char -> Bool) (cs : List Char) :
    (cs.dropWhile p).dropWhile p = cs.dropWhile p := by
  induction cs with
  | nil => rfl
  | cons c rest ih =>
      by_cases hc : p c = true
      · rw [List.dropWhile_cons_of_pos hc]
        exact ih
      · rw [List.dropWhile_cons_of_neg hc, List.dropWhile_cons_of_neg hc]

theorem dropWhile_reverse_dropWhile {p : Char -> Bool} {cs : List Char}
    (h : cs.dropWhile p = cs) :
    ((cs.reverse.dropWhile p).reverse).dropWhile p =
      (cs.reverse.dropWhile p).reverse := by
  cases hkept : (cs.reverse.dropWhile p).reverse with
  | nil => rfl
  | cons c rest =>
      have hsuffix : (cs.reverse.dropWhile p).reverse <+: cs := by
        have h' : cs.reverse.dropWhile p <:+ cs.reverse :=
          List.dropWhile_suffix p
        have h'' := List.reverse_prefix.mpr h'
        rwa [List.reverse_reverse] at h''
      rw [hkept] at hsuffix
      rcases hsuffix with ⟨tail, htail⟩
      have hcs : cs = c :: (rest ++ tail) := by rw [← htail]; rfl
      have hc : ¬p c = true := by
        intro hc
        rw [hcs, List.dropWhile_cons_of_pos hc] at h
        have hlen := congrArg List.length h
        have hle := (List.dropWhile_sublist p (l := rest ++ tail)).length_le
        rw [List.length_cons] at hlen
        omega
      rw [List.dropWhile_cons_of_neg hc]

theorem stripWith_idem (p : Char -> Bool) (s : String) :
    stripWith p (stripWith p s) = stripWith p s := by
  unfold stripWith
  rw [String.toList_ofList,
    dropWhile_reverse_dropWhile (dropWhile_idem p s.toList),
    List.reverse_reverse, dropWhile_idem]

theorem length_stripWith_le (p : Char -> Bool) (s : String) :
    (stripWith p s).length ≤ s.length := by
  have hfront := (List.dropWhile_sublist p (l := s.toList)).length_le
  have hback := (List.dropWhile_sublist p
    (l := (s.toList.dropWhile p).reverse)).length_le
  unfold stripWith
  rw [String.length_ofList, List.length_reverse, ← String.length_toList]
  rw [List.length_reverse] at hback
  omega

theorem stripWith_eq_self {p : Char -> Bool} {s : String}
    (h : forall c, c ∈ s.toList -> p c = false) : stripWith p s = s := by
  have hkeep : forall cs : List Char, (forall c, c ∈ cs -> p c = false) ->
      cs.dropWhile p = cs := by
    intro cs hcs
    cases cs with
    | nil => rfl
    | cons c rest =>
        refine List.dropWhile_cons_of_neg ?_
        rw [hcs c List.mem_cons_self]
        exact Bool.false_ne_true
  unfold stripWith
  rw [hkeep s.toList h, hkeep s.toList.reverse
    (fun c hc => h c (List.mem_reverse.mp hc)), List.reverse_reverse, String.ofList_toList]

@[simp] theorem trim_trim (s : String) : trim (trim s) = trim s :=
  stripWith_idem isWhiteSpace s

theorem dropWhile_eq_self_of_imp {p q : Char -> Bool}
    (hqp : forall c, q c = true -> p c = true) {cs : List Char}
    (h : cs.dropWhile p = cs) : cs.dropWhile q = cs := by
  cases cs with
  | nil => rfl
  | cons c rest =>
      have hc : ¬q c = true := by
        intro hq
        rw [List.dropWhile_cons_of_pos (hqp c hq)] at h
        have hlen := congrArg List.length h
        have hle := (List.dropWhile_sublist p (l := rest)).length_le
        rw [List.length_cons] at hlen
        omega
      rw [List.dropWhile_cons_of_neg hc]

/-- The model finds nothing left to strip in what Python has stripped. -/
@[simp] theorem trim_strip (s : String) : trim (strip s) = strip s := by
  have hqp : forall c, isWhiteSpace c = true -> isPythonSpace c = true :=
    fun c => isPythonSpace_of_isWhiteSpace
  unfold trim strip stripWith
  rw [String.toList_ofList,
    dropWhile_eq_self_of_imp hqp
      (dropWhile_reverse_dropWhile (dropWhile_idem isPythonSpace s.toList)),
    List.reverse_reverse,
    dropWhile_eq_self_of_imp hqp (dropWhile_idem isPythonSpace _)]

/-!
## Separated strings

A front part without the separator is determined by the joined string, and so
is what follows the first separator.
-/

theorem append_cons_inj {sep : Char} :
    forall {a b x y : List Char}, sep ∉ a -> sep ∉ b ->
      a ++ sep :: x = b ++ sep :: y -> a = b ∧ x = y := by
  intro a
  induction a with
  | nil =>
      intro b x y _ hb h
      cases b with
      | nil => exact ⟨rfl, by simpa using h⟩
      | cons c rest =>
          simp only [List.nil_append, List.cons_append, List.cons.injEq] at h
          exact absurd (by rw [h.left]; exact List.mem_cons_self) hb
  | cons d front ih =>
      intro b x y ha hb h
      cases b with
      | nil =>
          simp only [List.nil_append, List.cons_append, List.cons.injEq] at h
          exact absurd (by rw [h.left]; exact List.mem_cons_self) ha
      | cons c rest =>
          simp only [List.cons_append, List.cons.injEq] at h
          have hrest := ih (fun hm => ha (List.mem_cons_of_mem d hm))
            (fun hm => hb (List.mem_cons_of_mem c hm)) h.right
          exact ⟨by rw [h.left, hrest.left], hrest.right⟩

theorem colon_inj {a b x y : String} (ha : ':' ∉ a.toList)
    (hb : ':' ∉ b.toList) (h : a ++ ":" ++ x = b ++ ":" ++ y) :
    a = b ∧ x = y := by
  have hlist := congrArg String.toList h
  simp only [String.toList_append, List.append_assoc] at hlist
  have hparts := append_cons_inj ha hb hlist
  exact ⟨String.toList_inj.mp hparts.left, String.toList_inj.mp hparts.right⟩

theorem append_right_inj {a x y : String} (h : a ++ x = a ++ y) : x = y := by
  have hlist := congrArg String.toList h
  simp only [String.toList_append, List.append_cancel_left_eq] at hlist
  exact String.toList_inj.mp hlist

theorem append_left_inj {a b x : String} (h : a ++ x = b ++ x) : a = b := by
  have hlist := congrArg String.toList h
  simp only [String.toList_append, List.append_cancel_right_eq] at hlist
  exact String.toList_inj.mp hlist

theorem toList_toString (n : Nat) : (toString n).toList = Nat.toDigits 10 n := by
  simp [toString, Nat.repr]

theorem colon_not_mem_toString (n : Nat) : ':' ∉ (toString n).toList := by
  intro h
  rw [toList_toString] at h
  have hdigit := Nat.isDigit_of_mem_toDigits (by decide) (by decide) h
  exact absurd hdigit (by decide)

theorem toString_inj {m n : Nat} (h : toString m = toString n) : m = n := by
  have hdigits := congrArg String.toList h
  rw [toList_toString, toList_toString] at hdigits
  have hvalue := congrArg (fun cs => Nat.ofDigitChars 10 cs 0) hdigits
  simpa only [Nat.ofDigitChars_toDigits (by decide : 1 < 10) (by decide : 10 ≤ 10)]
    using hvalue

/-!
## Words
-/

/-- A pending run of characters, as a word. -/
def pendingWord (pending : List Char) : List (List Char) :=
  if pending = [] then [] else [pending.reverse]

/-- The maximal runs of characters that are no whitespace, after a pending one. -/
def wordsFrom : List Char -> List Char -> List (List Char)
  | pending, [] => pendingWord pending
  | pending, c :: rest =>
      if isPythonSpace c then
        pendingWord pending ++ wordsFrom [] rest
      else
        wordsFrom (c :: pending) rest

/-- Python's `" ".join(s.split())[:limit]`. -/
def collapse (s : String) (limit : Nat) : String :=
  String.ofList ((List.intercalate [' '] (wordsFrom [] s.toList)).take limit)

end Text

/-!
## Clean text

A field of a model that strips its strings and refuses empty ones holds a
clean text: stripping it once more changes nothing.
-/

structure CleanText where
  text : String
  clean : Text.trim text = text ∧ text ≠ ""
deriving DecidableEq

namespace CleanText

/-- Validation of a field: strip, then refuse an empty text. -/
def parse? (s : String) : Option CleanText :=
  if h : Text.trim s ≠ "" then
    some { text := Text.trim s, clean := ⟨Text.trim_trim s, h⟩ }
  else
    none

@[ext] theorem ext {a b : CleanText} (h : a.text = b.text) : a = b := by
  cases a
  cases b
  cases h
  rfl

theorem parse?_text (t : CleanText) : parse? t.text = some t := by
  unfold parse?
  rw [dif_pos (by rw [t.clean.left]; exact t.clean.right)]
  exact congrArg some (ext t.clean.left)

theorem parse?_eq_some {s : String} {t : CleanText} :
    parse? s = some t ↔ t.text = Text.trim s := by
  unfold parse?
  by_cases h : Text.trim s ≠ ""
  · rw [dif_pos h, Option.some_inj]
    exact ⟨fun ht => by rw [← ht], fun ht => ext ht.symm⟩
  · rw [dif_neg h]
    push Not at h
    constructor
    · intro ht
      cases ht
    · intro ht
      exact absurd (ht.trans h) t.clean.right

end CleanText

structure TrimmedText where
  text : String
  trimmed : Text.trim text = text
deriving DecidableEq

def TrimmedText.ofString (s : String) : TrimmedText :=
  { text := Text.trim s, trimmed := Text.trim_trim s }

end Foundation
end RefundAgent
