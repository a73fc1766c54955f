import Mathlib.Algebra.Order.Ring.Int
import Mathlib.Tactic.Common

namespace DockerLens.Json

/-- A number as `serde_json` keeps it: an unsigned integer, a negative integer
by its magnitude, or the text of everything else. -/
inductive Number
  | posInt (magnitude : Nat)
  | negInt (magnitude : Nat)
  | float (lexeme : List Char)
  deriving DecidableEq, Repr

/-- A JSON document. The members of an object stand in iteration order. -/
inductive Value
  | null
  | bool (value : Bool)
  | number (value : Number)
  | string (value : String)
  | array (values : List Value)
  | object (members : List (String × Value))

namespace Value

def isNull : Value → Bool
  | null => true
  | _ => false

def asBool : Value → Option Bool
  | bool value => some value
  | _ => none

def asStr : Value → Option String
  | string value => some value
  | _ => none

def asArray : Value → Option (List Value)
  | array values => some values
  | _ => none

def asObject : Value → Option (List (String × Value))
  | object members => some members
  | _ => none

/-- The value of an unsigned integer. -/
def asU64 : Value → Option Nat
  | number (.posInt magnitude) => some magnitude
  | _ => none

/-- The value of an integer in the range of `i64`. -/
def asI64 : Value → Option Int
  | number (.posInt magnitude) => if magnitude < 2 ^ 63 then some magnitude else none
  | number (.negInt magnitude) => some (-magnitude)
  | _ => none

/-- A member of an object; other values have none. -/
def get (value : Value) (key : String) : Option Value :=
  match value with
  | object members => members.lookup key
  | _ => none

theorem asStr_eq_some_iff {value : Value} {text : String} :
    value.asStr = some text ↔ value = string text := by
  cases value <;> simp [asStr]

theorem asArray_eq_some_iff {value : Value} {values : List Value} :
    value.asArray = some values ↔ value = array values := by
  cases value <;> simp [asArray]

theorem asObject_eq_some_iff {value : Value} {members : List (String × Value)} :
    value.asObject = some members ↔ value = object members := by
  cases value <;> simp [asObject]

@[simp] theorem isNull_string (text : String) : (string text).isNull = false := rfl

@[simp] theorem asStr_string (text : String) : (string text).asStr = some text := rfl

@[simp] theorem asArray_array (values : List Value) : (array values).asArray = some values := rfl

@[simp] theorem asObject_object (members : List (String × Value)) :
    (object members).asObject = some members := rfl

@[simp] theorem get_object (members : List (String × Value)) (key : String) :
    (object members).get key = members.lookup key := rfl

theorem exists_object_of_get {value member : Value} {key : String}
    (h : value.get key = some member) :
    ∃ members, value = object members ∧ members.lookup key = some member := by
  cases value with
  | object members => exact ⟨members, rfl, h⟩
  | null | bool _ | number _ | string _ | array _ => simp [get] at h

end Value

end DockerLens.Json
