import Mathlib.Data.List.Nodup
import Mathlib.Tactic

/-!
# Stored objects

JSON objects whose values are strings or null, as lists of named fields.  A
store may keep the fields of an object in an order of its own, so an object is
read by the names of its fields only.
-/

namespace RefundAgent
namespace Foundation

inductive JsonValue where
  | null
  | string (s : String)
deriving DecidableEq, Repr

abbrev JsonObject := List (String × JsonValue)

namespace JsonObject

def names (o : JsonObject) : List String :=
  o.map Prod.fst

/-- The value of a field. -/
def field (o : JsonObject) (name : String) : Option JsonValue :=
  (o.find? fun entry => entry.1 == name).map Prod.snd

/-- No field but the listed ones. -/
def only (known : List String) (o : JsonObject) : Bool :=
  o.names.all fun name => decide (name ∈ known)

theorem field_of_mem {o : JsonObject} {name : String} {v : JsonValue}
    (hnames : o.names.Nodup) (h : (name, v) ∈ o) : o.field name = some v := by
  induction o with
  | nil => cases h
  | cons entry rest ih =>
      have hsplit := List.nodup_cons.mp hnames
      unfold field
      rcases List.mem_cons.mp h with rfl | hrest
      · rw [List.find?_cons_of_pos (by simp)]
        rfl
      · have hother : entry.1 ≠ name := by
          intro heq
          apply hsplit.left
          rw [heq]
          exact List.mem_map_of_mem hrest
        rw [List.find?_cons_of_neg (by simpa using hother)]
        exact ih hsplit.right hrest

theorem field_of_perm {o o' : JsonObject} (hperm : o'.Perm o) (hnames : o.names.Nodup)
    {name : String} {v : JsonValue} (h : (name, v) ∈ o) : o'.field name = some v := by
  have hnames' : o'.names.Nodup := (hperm.map Prod.fst).nodup_iff.mpr hnames
  exact field_of_mem hnames' (hperm.mem_iff.mpr h)

theorem only_of_perm {o o' : JsonObject} (hperm : o'.Perm o) {known : List String}
    (h : o.only known = true) : o'.only known = true := by
  unfold only at h ⊢
  rw [List.all_eq_true] at h ⊢
  intro name hname
  exact h name ((hperm.map Prod.fst).mem_iff.mp hname)

/-- A required text field. -/
def requiredText (o : JsonObject) (name : String) : Option String :=
  match o.field name with
  | some (JsonValue.string s) => some s
  | _ => none

/-- An optional text field: absent or null, or a text that is accepted. -/
def optionalText {α : Type} (parse : String -> Option α) (o : JsonObject)
    (name : String) : Option (Option α) :=
  match o.field name with
  | some (JsonValue.string s) => (parse s).map some
  | _ => some none

/-- The value of an optional text field. -/
def nullable {α : Type} (text : α -> String) : Option α -> JsonValue
  | some a => JsonValue.string (text a)
  | none => JsonValue.null

section

variable {o o' : JsonObject} {name : String}

theorem requiredText_of_perm (hperm : o'.Perm o) (hnames : o.names.Nodup) {s : String}
    (h : (name, JsonValue.string s) ∈ o) : o'.requiredText name = some s := by
  unfold requiredText
  rw [field_of_perm hperm hnames h]

theorem optionalText_of_perm {α : Type} {text : α -> String} {parse : String -> Option α}
    (hparse : forall a, parse (text a) = some a) (hperm : o'.Perm o)
    (hnames : o.names.Nodup) {a : Option α} (h : (name, nullable text a) ∈ o) :
    o'.optionalText parse name = some a := by
  unfold optionalText
  rw [field_of_perm hperm hnames h]
  cases a with
  | none => rfl
  | some a =>
      show (parse (text a)).map some = some (some a)
      rw [hparse a]
      rfl

end

end JsonObject

/-- A text form of values, with its reading. -/
structure TextCodec (α : Type) where
  encode : α -> String
  decode : String -> Option α
  decode_encode : forall a, decode (encode a) = some a

/-- The literal with a given spelling. -/
def literal? {α : Type} (word : α -> String) (literals : List α) (s : String) : Option α :=
  literals.find? fun a => word a == s

end Foundation
end RefundAgent
