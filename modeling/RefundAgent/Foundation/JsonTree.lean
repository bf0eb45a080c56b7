import Mathlib.Tactic

/-!
# JSON documents

The values of `json.loads`.  The fields of an object are a list in which every name
occurs once.
-/

namespace RefundAgent
namespace Foundation

inductive JsonTree where
  | null
  | bool (b : Bool)
  | number (q : Rat)
  | string (s : String)
  | array (items : List JsonTree)
  | object (fields : List (String × JsonTree))

namespace JsonTree

/-- `dict.get` on the fields of an object. -/
def field (fields : List (String × JsonTree)) (name : String) : Option JsonTree :=
  (fields.find? fun e => decide (e.1 = name)).map Prod.snd

def isText (text : String) : JsonTree -> Bool
  | string s => decide (s = text)
  | _ => false

def asText : JsonTree -> Option String
  | string s => some s
  | _ => none

/-- No field but the listed ones. -/
def only (known : List String) (fields : List (String × JsonTree)) : Bool :=
  fields.all fun e => decide (e.1 ∈ known)

section

variable {α : Type} (read : JsonTree -> Option α) (fields : List (String × JsonTree))
  (name : String)

/-- A field that must be there. -/
def required : Option α :=
  (field fields name).bind read

/-- A field that may be absent or null. -/
def optional : Option (Option α) :=
  match field fields name with
  | none => some none
  | some null => some none
  | some v => (read v).map some

end

end JsonTree
end Foundation
end RefundAgent
