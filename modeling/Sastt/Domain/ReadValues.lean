import Sastt.Domain.Errors
import Sastt.Lib.JsonValues

/-!
# Values that are read

What is read from a text or a column is a value of any kind, and is converted before it is
used: `str(v)`, `int(v)`, `dict(v)`. Each leaves a value of its own kind as it is. What it makes
of another kind is left open (`PyConversions`).
-/

namespace Sastt

variable {F : Type}

/-- **A value of Python** as it is written in JSON. -/
abbrev PyValue (F : Type) := Json (PyNumber F)

/-- The integer as a value. -/
abbrev PyValue.int (n : ℤ) : PyValue F := .num (.inl n)

/-- `data[key]`. -/
def PyValue.item (data : PyValue F) (key : String) : Except PyError (PyValue F) :=
  match data with
  | .obj fields =>
    match fields.lookup key with
    | some v => .ok v
    | none => .error (.keyError key)
  | _ => .error (.other "TypeError")

/-- `data.get(key, default)`. -/
def PyValue.get (data : PyValue F) (key : String) (default : PyValue F) :
    Except PyError (PyValue F) :=
  match data with
  | .obj fields => .ok ((fields.lookup key).getD default)
  | _ => .error (.other "AttributeError")

theorem PyValue.item_of_lookup {fields : List (String × PyValue F)} {key : String} {v : PyValue F}
    (h : fields.lookup key = some v) : PyValue.item (.obj fields) key = .ok v := by
  simp [PyValue.item, h]

theorem PyValue.get_of_lookup {fields : List (String × PyValue F)} {key : String} {v : PyValue F}
    (h : fields.lookup key = some v) (default : PyValue F) :
    PyValue.get (.obj fields) key default = .ok v := by
  simp [PyValue.get, h]

/-- Whether a condition on a value holds, with what holds of floats. -/
def PyValue.truthy (nonzero : F → Bool) : PyValue F → Bool
  | .null => false
  | .bool b => b
  | .num (.inl n) => n ≠ 0
  | .num (.inr x) => nonzero x
  | .str s => s ≠ ""
  | .arr items => !items.isEmpty
  | .obj fields => !fields.isEmpty

/-- **What conversions make of values of another kind.** -/
structure PyConversions (F : Type) where
  str : PyValue F → String
  int : PyValue F → Except PyError ℤ
  dict : PyValue F → Except PyError (List (String × PyValue F))

namespace PyConversions

variable (py : PyConversions F)

/-- `str(v)`. -/
def toStr : PyValue F → String
  | .str s => s
  | v => py.str v

/-- `int(v)`. -/
def toInt : PyValue F → Except PyError ℤ
  | .num (.inl n) => .ok n
  | v => py.int v

/-- `dict(v)`. -/
def toDict : PyValue F → Except PyError (List (String × PyValue F))
  | .obj fields => .ok fields
  | v => py.dict v

end PyConversions

end Sastt
