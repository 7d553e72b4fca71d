import Mathlib.Data.List.Forall2
import WaterCare.Py.Text

/-!
The dynamic values a YAML loader builds, and the Python operations on them
that can fail: indexing, `.get`, iteration and hashing. A dict is its list of
entries in insertion order; a lookup takes the first entry whose key is equal,
so every list of entries stands for some dict.
-/

namespace Py

/-- The exceptions the modelled operators raise, by class. -/
inductive Exn
  | keyError (key : String)
  | typeError
  | attributeError
  deriving DecidableEq, Repr

inductive FloatValue
  | finite (q : Rat)
  | infinity (negative : Bool)
  | nan
  deriving DecidableEq

/-- Immutable scalars. A float carries its value and its `repr`. -/
inductive Atom
  | none
  | bool (b : Bool)
  | int (n : Int)
  | float (value : FloatValue) (repr : String)
  | str (s : String)
  deriving DecidableEq

inductive Value
  | atom (a : Atom)
  | list (items : List Value)
  | dict (entries : List (Atom × Value))

abbrev Dict := List (Atom × Value)

/-! Equality, as `==` decides it: booleans, integers and floats compare by
their numeric value, and a list never equals a dict. -/

def FloatValue.eq : FloatValue → FloatValue → Bool
  | .finite p, .finite q => decide (p = q)
  | .infinity m, .infinity n => m == n
  | _, _ => false

def Atom.number? : Atom → Option FloatValue
  | .bool b => some (.finite (if b then 1 else 0))
  | .int n => some (.finite n)
  | .float v _ => some v
  | _ => Option.none

def Atom.eq : Atom → Atom → Bool
  | .none, .none => true
  | .str s, .str t => decide (s = t)
  | a, b =>
      match a.number?, b.number? with
      | some x, some y => x.eq y
      | _, _ => false

@[simp] theorem Atom.eq_str (s t : String) : Atom.eq (.str s) (.str t) = decide (s = t) := rfl

@[simp] theorem Atom.eq_none_str (t : String) : Atom.eq .none (.str t) = false := rfl

@[simp] theorem Atom.eq_str_none (s : String) : Atom.eq (.str s) .none = false := rfl

@[simp] theorem Atom.eq_none_none : Atom.eq .none .none = true := rfl

/-- A string or `None` as the value Python compares. -/
def Atom.ofOption (s : Option String) : Atom := s.elim .none .str

@[simp] theorem Atom.ofOption_none : Atom.ofOption Option.none = .none := rfl

@[simp] theorem Atom.ofOption_some (s : String) : Atom.ofOption (some s) = .str s := rfl

@[simp] theorem Atom.eq_ofOption (s t : Option String) :
    Atom.eq (.ofOption s) (.ofOption t) = decide (s = t) := by
  cases s <;> cases t <;> simp [Atom.ofOption]

theorem Atom.eq_str_iff {a : Atom} {t : String} : Atom.eq a (.str t) = true ↔ a = .str t := by
  cases a <;> simp [Atom.eq, Atom.number?]

/-- `str(value)` of a scalar, as dict keys are printed. -/
def Atom.text : Atom → String
  | .none => "None"
  | .bool b => if b then "True" else "False"
  | .int n => toString n
  | .float _ r => r
  | .str s => s

/-- `repr(value)` of a scalar. -/
def Atom.repr : Atom → String
  | .str s => pyRepr s
  | a => a.text

def FloatValue.lt : FloatValue → FloatValue → Bool
  | .finite p, .finite q => decide (p < q)
  | .infinity true, .finite _ | .finite _, .infinity false => true
  | .infinity true, .infinity false => true
  | _, _ => false

/-- `a < b`, when Python orders the two types at all. -/
def Atom.lt? : Atom → Atom → Option Bool
  | .str s, .str t => some (decide (s < t))
  | a, b =>
      match a.number?, b.number? with
      | some x, some y => some (x.lt y)
      | _, _ => Option.none

namespace Dict

def find (d : Dict) (key : String) : Option Value :=
  (d.find? fun e => e.1.eq (.str key)).map (·.2)

/-- `key in d`. -/
def has (d : Dict) (key : String) : Bool := d.any fun e => e.1.eq (.str key)

/-- `d.get(key)`, with `None` for a missing key. -/
def get (d : Dict) (key : String) : Value := (d.find key).getD (.atom .none)

def getD (d : Dict) (key : String) (default : Value) : Value := (d.find key).getD default

/-- `d[key]`. -/
def item (d : Dict) (key : String) : Except Exn Value :=
  match d.find key with
  | some v => .ok v
  | none => .error (.keyError key)

theorem has_iff_find (d : Dict) (key : String) : d.has key = true ↔ (d.find key).isSome := by
  simp [has, find]

theorem item_eq_ok_iff {d : Dict} {key : String} {v : Value} :
    d.item key = .ok v ↔ d.find key = some v := by
  unfold item
  cases d.find key <;> simp

theorem find_of_get {d : Dict} {key : String} {v : Value}
    (h : d.get key = v) (present : v ≠ .atom .none) : d.find key = some v := by
  unfold get at h
  cases hf : d.find key with
  | none => rw [hf] at h; exact absurd h.symm present
  | some w => rw [hf] at h; exact congrArg Option.some h

theorem getD_of_find {d : Dict} {key : String} {v w : Value}
    (h : d.find key = some v) : d.getD key w = v := by
  simp [getD, h]

theorem get_of_find {d : Dict} {key : String} {v : Value}
    (h : d.find key = some v) : d.get key = v := by
  simp [get, h]

end Dict

/-- `entries[key] = value` on a dict with any values: an equal key keeps its place. -/
def assign {β : Type} (entries : List (Atom × β)) (key : Atom) (value : β) :
    List (Atom × β) :=
  if entries.any fun e => e.1.eq key then
    entries.map fun e => if e.1.eq key then (e.1, value) else e
  else entries ++ [(key, value)]

/-- `entries.get(key)`. -/
def lookup {β : Type} (entries : List (Atom × β)) (key : Atom) : Option β :=
  (entries.find? fun e => e.1.eq key).map (·.2)

mutual
/-- `==` between values; dicts compare as sets of entries. -/
def Value.eq : Value → Value → Bool
  | .atom a, .atom b => a.eq b
  | .list xs, .list ys => Value.eqItems xs ys
  | .dict d, .dict e => d.length == e.length && Value.eqEntries d e
  | _, _ => false

def Value.eqItems : List Value → List Value → Bool
  | [], [] => true
  | x :: xs, y :: ys => x.eq y && Value.eqItems xs ys
  | _, _ => false

def Value.eqEntries : List (Atom × Value) → List (Atom × Value) → Bool
  | [], _ => true
  | (k, v) :: es, other =>
      (match other.find? fun e => e.1.eq k with
        | some e => v.eq e.2
        | none => false) && Value.eqEntries es other
end

namespace Value

def none : Value := .atom .none

def str (s : String) : Value := .atom (.str s)

def bool (b : Bool) : Value := .atom (.bool b)

/-- A string or `None`. -/
def ofOption (s : Option String) : Value := .atom (.ofOption s)

/-- `isinstance(value, str)`, with the string. -/
def asStr? : Value → Option String
  | .atom (.str s) => some s
  | _ => Option.none

/-- `isinstance(value, bool)`, with the boolean. -/
def asBool? : Value → Option Bool
  | .atom (.bool b) => some b
  | _ => Option.none

/-- `isinstance(value, int)` and not a bool, with the integer. -/
def asInt? : Value → Option Int
  | .atom (.int n) => some n
  | _ => Option.none

/-- `isinstance(value, Mapping)`, with the entries. -/
def asDict? : Value → Option Dict
  | .dict d => some d
  | _ => Option.none

def asList? : Value → Option (List Value)
  | .list xs => some xs
  | _ => Option.none

def isNone : Value → Bool
  | .atom .none => true
  | _ => false

/-- `value is True`. -/
def isTrue : Value → Bool
  | .atom (.bool true) => true
  | _ => false

def truthy : Value → Bool
  | .atom .none => false
  | .atom (.bool b) => b
  | .atom (.int n) => n != 0
  | .atom (.float v _) => v != .finite 0
  | .atom (.str s) => s != ""
  | .list xs => !xs.isEmpty
  | .dict d => !d.isEmpty

/-- `value == "text"`. -/
def eqStr (v : Value) (t : String) : Bool :=
  match v with
  | .atom a => a.eq (.str t)
  | _ => false

theorem eqStr_iff {v : Value} {t : String} : v.eqStr t = true ↔ v = .str t := by
  cases v with
  | atom a => simp [eqStr, str, Atom.eq_str_iff]
  | list _ | dict _ => simp [eqStr, str]

/-- `value["key"]`. -/
def item (v : Value) (key : String) : Except Exn Value :=
  match v with
  | .dict d => Dict.item d key
  | _ => .error .typeError

/-- `value.get("key", default)`. -/
def getOr (v : Value) (key : String) (default : Value) : Except Exn Value :=
  match v with
  | .dict d => .ok (Dict.getD d key default)
  | _ => .error .attributeError

/-- The items `for item in value` visits. -/
def iter : Value → Except Exn (List Value)
  | .list xs => .ok xs
  | .dict d => .ok (d.map fun e => .atom e.1)
  | .atom (.str s) => .ok (s.toList.map fun c => .str (String.ofList [c]))
  | .atom _ => .error .typeError

/-- The scalar a value is hashed as; lists and dicts are not hashable. -/
def hashed : Value → Except Exn Atom
  | .atom a => .ok a
  | _ => .error .typeError

theorem asStr?_eq_some {v : Value} {s : String} : v.asStr? = some s ↔ v = .str s := by
  unfold asStr? str
  split <;> simp_all

theorem asInt?_eq_some {v : Value} {n : Int} : v.asInt? = some n ↔ v = .atom (.int n) := by
  unfold asInt?
  split <;> simp_all

theorem asDict?_eq_some {v : Value} {d : Dict} : v.asDict? = some d ↔ v = .dict d := by
  cases v <;> simp [asDict?]

theorem asList?_eq_some {v : Value} {xs : List Value} : v.asList? = some xs ↔ v = .list xs := by
  cases v <;> simp [asList?]

theorem asBool?_isSome {v : Value} : v.asBool?.isSome ↔ ∃ b, v = .bool b := by
  unfold asBool? bool
  split <;> simp_all

@[simp] theorem isNone_iff {v : Value} : v.isNone = true ↔ v = .none := by
  unfold isNone none
  split <;> simp_all

@[simp] theorem str_inj {s t : String} : Value.str s = .str t ↔ s = t := by
  simp [str]

@[simp] theorem str_ne_none (s : String) : Value.str s ≠ .none := by
  simp [str, none]

@[simp] theorem getD_none (d : Dict) (key : String) : Dict.getD d key .none = d.get key := rfl

@[simp] theorem item_dict (d : Dict) (key : String) : (Value.dict d).item key = d.item key := rfl

@[simp] theorem iter_list (xs : List Value) : (Value.list xs).iter = .ok xs := rfl

@[simp] theorem hashed_str (s : String) : (Value.str s).hashed = .ok (.str s) := rfl

/-- `value in container`, where the left side is a string or `None`. -/
def contains (container : Value) (x : Option String) : Except Exn Bool :=
  let key : Atom := x.elim .none .str
  match container with
  | .list xs => .ok (xs.any fun
      | .atom a => a.eq key
      | _ => false)
  | .dict d => .ok (d.any fun e => e.1.eq key)
  | .atom (.str s) =>
      match x with
      | some t => .ok (isSubstring t s)
      | Option.none => .error .typeError
  | .atom _ => .error .typeError

end Value

/-! Values as a document writes them. -/

def texts (xs : List String) : Value := .list (xs.map .str)

def mapping (entries : List (String × Value)) : Value :=
  .dict (entries.map fun e => (.str e.1, e.2))

end Py
