import Adventurer.Markup.Json.Basic

/-!
# Changing and comparing JSON values

A patch changes an object field by field, at any depth, and replaces every other value as a whole.
Two values are compared as they are written, so doubles are the same if their bits are.
-/

namespace Adventurer.Json

/-- Fields with one of them changed, or added behind the others where it is missing. -/
def changeField (name : String) (change : Json → Json) (value : Json) :
    List (String × Json) → List (String × Json)
  | [] => [(name, value)]
  | e :: rest =>
    if e.1 = name then (name, change e.2) :: rest else e :: changeField name change value rest

mutual

/-- A value under a patch. -/
def patch (base : Json) : Json → Json
  | fields changes => match base with
    | fields entries => fields (patchFields entries changes)
    | _ => fields changes
  | other => other

/-- Fields under the fields of a patch. -/
def patchFields (entries : List (String × Json)) : List (String × Json) → List (String × Json)
  | [] => entries
  | (name, value) :: rest =>
    patchFields (changeField name (fun held => patch held value) value entries) rest

end

mutual

/-- Whether two values are the same, fields in the same order. -/
def same : Json → Json → Bool
  | null, null => true
  | bool a, bool b => a = b
  | int a, int b => a = b
  | float a, float b => a.toBits = b.toBits
  | text a, text b => a = b
  | list a, list b => sameItems a b
  | fields a, fields b => sameFields a b
  | _, _ => false

/-- Whether two lists hold the same values. -/
def sameItems : List Json → List Json → Bool
  | [], [] => true
  | a :: as, b :: bs => same a b && sameItems as bs
  | _, _ => false

/-- Whether two objects hold the same fields. -/
def sameFields : List (String × Json) → List (String × Json) → Bool
  | [], [] => true
  | (m, a) :: as, (n, b) :: bs => m = n && same a b && sameFields as bs
  | _, _ => false

end

end Adventurer.Json
