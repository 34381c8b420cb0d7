import OpenHdoLinker.Lib.PyExc
import Mathlib.Data.Rat.Init
import Mathlib.Algebra.Order.Ring.Unbundled.Rat

/-!
# JSON values as Python parses them

`Json` is what `json.loads` returns: integers stay integers, other numbers are
floats (infinities and NaN included), an object is a dictionary with its items
in order.  `JsonLib` is the `json` module together with `str` on its values; which
bytes fail in which of the documented ways (`JsonFailure`) is left open, so a
result about a `JsonLib` holds for every decoder.
-/

namespace Py

/-- A Python float, finite values read as exact rationals. -/
inductive PyFloat
  | finite (q : ℚ)
  | inf
  | negInf
  | nan
deriving DecidableEq

namespace PyFloat

/-- `x < y`; comparisons with NaN are false. -/
def lt : PyFloat → PyFloat → Bool
  | .finite p, .finite q => p < q
  | .finite _, .inf => true
  | .negInf, .finite _ => true
  | .negInf, .inf => true
  | _, _ => false

/-- `x <= y`. -/
def le : PyFloat → PyFloat → Bool
  | .nan, _ => false
  | _, .nan => false
  | x, y => !lt y x

/-- Two floats that are not NaN are ordered. -/
theorem le_iff {x y : PyFloat} : x.le y = true ↔ x ≠ .nan ∧ y ≠ .nan ∧ y.lt x = false := by
  cases x <;> cases y <;> simp [le, lt]

theorem lt_iff {x y : PyFloat} : x.lt y = true ↔ x ≠ .nan ∧ y ≠ .nan ∧ y.le x = false := by
  cases x <;> cases y <;> simp [le, lt]

theorem le_trans {x y z : PyFloat} (hxy : x.le y = true) (hyz : y.le z = true) :
    x.le z = true := by
  cases x <;> cases y <;> cases z <;> simp_all [le, lt]
  exact hxy.trans hyz

theorem lt_of_lt_of_le {x y z : PyFloat} (hxy : x.lt y = true) (hyz : y.le z = true) :
    x.lt z = true := by
  cases x <;> cases y <;> cases z <;> simp_all [le, lt]
  exact hxy.trans_le hyz

/-- `int(x)` truncates towards zero. -/
def toInt : PyFloat → Except PyErr Int
  | .finite q => .ok (q.num.tdiv q.den)
  | .nan => .error (valueError "cannot convert float NaN to integer")
  | _ => .error ⟨.OverflowError, "cannot convert float infinity to integer"⟩

end PyFloat

inductive Json
  | null
  | bool (b : Bool)
  | int (i : Int)
  | float (x : PyFloat)
  | str (s : String)
  | arr (l : List Json)
  | obj (d : List (String × Json))

namespace Json

/-- `isinstance(value, Mapping)`, with the mapping's items. -/
def obj? : Json → Option (List (String × Json))
  | .obj d => some d
  | _ => none

/-- `isinstance(value, str)`. -/
def str? : Json → Option String
  | .str s => some s
  | _ => none

/-- `type(value) is int`; a bool is not one. -/
def int? : Json → Option Int
  | .int i => some i
  | _ => none

def bool? : Json → Option Bool
  | .bool b => some b
  | _ => none

/-- Truth value, as in `value or other`. -/
def truthy : Json → Bool
  | .null => false
  | .bool b => b
  | .int i => i ≠ 0
  | .float x => x ≠ .finite 0
  | .str s => s ≠ ""
  | .arr l => !l.isEmpty
  | .obj d => !d.isEmpty

/-- `value == n`: a bool and an integral float compare as numbers. -/
def eqInt : Json → Int → Bool
  | .bool b, n => (if b then 1 else 0) = n
  | .int i, n => i = n
  | .float (.finite q), n => q = n
  | _, _ => false

@[simp] theorem obj?_eq_some (v : Json) (d : List (String × Json)) :
    v.obj? = some d ↔ v = .obj d := by
  cases v <;> simp [obj?]

@[simp] theorem str?_eq_some (v : Json) (s : String) : v.str? = some s ↔ v = .str s := by
  cases v <;> simp [str?]

@[simp] theorem int?_eq_some (v : Json) (i : Int) : v.int? = some i ↔ v = .int i := by
  cases v <;> simp [int?]

@[simp] theorem bool?_eq_some (v : Json) (b : Bool) : v.bool? = some b ↔ v = .bool b := by
  cases v <;> simp [bool?]

end Json

abbrev Bytes : Type := List UInt8

/-- A JSON object: `payload["key"]` is `lookup "key"`. -/
abbrev JsonObj : Type := List (String × Json)

/-- `payload.get(key)`. -/
def getItem (payload : JsonObj) (key : String) : Json := (payload.lookup key).getD .null

/-- How `json.loads` fails. -/
inductive JsonFailure
  | malformed
  | undecodable
  | digitLimit
  | tooDeep
deriving DecidableEq

/-- The exception of each failure.  An integer literal beyond the digit limit is a plain
`ValueError`, not a `JSONDecodeError`. -/
def JsonFailure.err : JsonFailure → PyErr
  | .malformed => ⟨.JSONDecodeError, "Expecting value"⟩
  | .undecodable => ⟨.UnicodeDecodeError, "'utf-8' codec can't decode bytes"⟩
  | .digitLimit => ⟨.ValueError, "Exceeds the limit (4300 digits) for integer string conversion"⟩
  | .tooDeep => ⟨.RecursionError, "maximum recursion depth exceeded"⟩

/-- The `json` module and `str` on JSON values. -/
structure JsonLib where
  /-- `json.loads` on `bytes`. -/
  decode : Bytes → Except JsonFailure Json
  /-- `json.loads` on `str`. -/
  decodeStr : String → Except JsonFailure Json
  str : Json → String
  str_str : ∀ s, str (.str s) = s

namespace JsonLib

/-- A library that reads bytes as `decode` does and takes no text. -/
def ofDecode (decode : Bytes → Except JsonFailure Json) : JsonLib where
  decode := decode
  decodeStr _ := .error .malformed
  str
    | .str s => s
    | _ => ""
  str_str _ := rfl

def loads (J : JsonLib) (b : Bytes) : Except PyErr Json := (J.decode b).mapError JsonFailure.err

def loadsStr (J : JsonLib) (s : String) : Except PyErr Json :=
  (J.decodeStr s).mapError JsonFailure.err

theorem loads_ok (J : JsonLib) (b : Bytes) (v : Json) (h : J.decode b = .ok v) :
    J.loads b = .ok v := by
  unfold loads; rw [h]; rfl

theorem loads_error (J : JsonLib) (b : Bytes) (f : JsonFailure) (h : J.decode b = .error f) :
    J.loads b = .error f.err := by
  unfold loads; rw [h]; rfl

theorem loadsStr_ok (J : JsonLib) (s : String) (v : Json) (h : J.decodeStr s = .ok v) :
    J.loadsStr s = .ok v := by
  unfold loadsStr; rw [h]; rfl

theorem loadsStr_error (J : JsonLib) (s : String) (f : JsonFailure) (h : J.decodeStr s = .error f) :
    J.loadsStr s = .error f.err := by
  unfold loadsStr; rw [h]; rfl

end JsonLib

end Py
