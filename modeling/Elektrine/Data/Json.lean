import Mathlib.Data.List.Basic
import Elektrine.Library.Attempts

/-!
# Decoded JSON values

Federation payloads reach the node as decoded JSON.  Lookups follow the access
operator of the source: a missing key and a lookup in `nil` both give `nil`.
-/

namespace Elektrine

/-- A decoded JSON value; `float` keeps the two parts of a decimal literal. -/
inductive Json where
  | null
  | bool (value : Bool)
  | int (value : Int)
  | float (mantissa exponent : Int)
  | str (value : String)
  | arr (items : List Json)
  | obj (fields : List (String × Json))
  deriving Repr

namespace Json

/-- `value[name]`. -/
def get (value : Json) (name : String) : Json :=
  match value with
  | .obj fields => (fields.lookup name).getD .null
  | _ => .null

/-- The key is present, be it with the value `nil`. -/
def has (value : Json) (name : String) : Bool :=
  match value with
  | .obj fields => (fields.lookup name).isSome
  | _ => false

/-- `get_in(value, names)`. -/
def getIn (value : Json) (names : List String) : Json :=
  names.foldl get value

/-- `value || fallback`: only `nil` and `false` fall through. -/
def orElse (value fallback : Json) : Json :=
  match value with
  | .null | .bool false => fallback
  | kept => kept

/-- `Map.put(value, name, field)`. -/
def put (value : Json) (name : String) (field : Json) : Json :=
  match value with
  | .obj fields => .obj ((name, field) :: fields)
  | other => other

def asString? : Json → Option String
  | .str value => some value
  | _ => none

def asList? : Json → Option (List Json)
  | .arr items => some items
  | _ => none

def isMap : Json → Bool
  | .obj _ => true
  | _ => false

/-- `value == 1`, which holds of the decimal `1.0` too. -/
def isOne : Json → Bool
  | .int value => value == 1
  | .float mantissa exponent => exponent ≤ 0 && mantissa == Int.ofNat (Nat.pow 10 exponent.natAbs)
  | _ => false

def isList : Json → Bool
  | .arr _ => true
  | _ => false

def isString : Json → Bool
  | .str _ => true
  | _ => false

def isNull : Json → Bool
  | .null => true
  | _ => false

def isTrue : Json → Bool
  | .bool value => value
  | _ => false

@[simp] theorem get_null (name : String) : null.get name = null := rfl

@[simp] theorem orElse_null (fallback : Json) : null.orElse fallback = fallback :=
  rfl

@[simp] theorem orElse_str (value : String) (fallback : Json) :
    (str value).orElse fallback = str value :=
  rfl

theorem asString?_eq_some_iff {value : Json} {text : String} :
    value.asString? = some text ↔ value = .str text := by
  cases value <;> simp [asString?]

end Json

end Elektrine

/-!
## Lookups that raise

A lookup reads a map or `nil`; in a text, a number, a boolean or a list it raises.
-/

namespace Elektrine.Json

open Elektrine.Library

variable {ε : Type}

/-- Only `nil` and `false` fall through. -/
def truthy : Json → Bool
  | .null | .bool false => false
  | _ => true

theorem orElse_eq (value fallback : Json) :
    value.orElse fallback = if value.truthy then value else fallback := by
  cases value with
  | bool value => cases value <;> rfl
  | _ => rfl

end Elektrine.Json
