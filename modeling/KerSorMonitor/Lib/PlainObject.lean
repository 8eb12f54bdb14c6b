import KerSorMonitor.Lib.Keyed

/-!
# Plain objects of JavaScript

An object that is used as a dictionary has its own properties and a prototype, which is
`Object.prototype` at first. A property that is not its own is looked up in the prototype, and
`__proto__` reads and writes the prototype itself.

Results: `get_of_plain`, `plain_assign`: an object with the first prototype is a dictionary, but for the
names that `Object.prototype` has.
-/

namespace PlainObject

open Keyed

/-- The accessor of the prototype. -/
def accessor : String := "__proto__"

/-- The methods of `Object.prototype`. -/
def methods : List String :=
  ["constructor", "__defineGetter__", "__defineSetter__", "hasOwnProperty", "__lookupGetter__",
    "__lookupSetter__", "isPrototypeOf", "propertyIsEnumerable", "toString", "valueOf",
    "toLocaleString"]

/-- Properties with values in `ν`; the prototype is `Object.prototype`, or one of the values. -/
structure Object (ν : Type) where
  own : Dict String ν
  proto : Option ν

/-- What is found under a name, where the properties of a value are in `φ`. -/
inductive Found (ν φ : Type)
  | undefined
  | method (name : String)
  | objectPrototype
  | value (v : ν)
  | property (x : φ)

variable {ν φ : Type}

/-- Whether `if` takes its branch; values are objects. -/
def Found.truthy (property : φ → Bool) : Found ν φ → Bool
  | .undefined => false
  | .property x => property x
  | .method _ | .objectPrototype | .value _ => true

namespace Object

/-- `{}` -/
def empty : Object ν := ⟨Table.empty, none⟩

/-- `o[name]`, where the prototype does not have the name as a property of its own. -/
def getBuiltin (o : Object ν) (name : String) : Found ν φ :=
  if name = accessor then
    match o.proto with
    | some v => .value v
    | none => .objectPrototype
  else if name ∈ methods then .method name
  else .undefined

/-- `o[name]` -/
def get (read : ν → String → Option φ) (o : Object ν) (name : String) : Found ν φ :=
  match Dict.get? o.own name with
  | some v => .value v
  | none =>
    match o.proto.bind (read · name) with
    | some x => .property x
    | none => o.getBuiltin name

/-- `o[name] = v` -/
def assign (read : ν → String → Option φ) (o : Object ν) (name : String) (v : ν) : Object ν :=
  if name = accessor ∧ Dict.get? o.own name = none ∧ (o.proto.bind (read · name)).isNone then
    { o with proto := some v }
  else { o with own := Dict.set o.own name v }

/-- `delete o[name]` -/
def delete (o : Object ν) (name : String) : Object ν := { o with own := Dict.pop o.own name }

/-- `{ ...o }` -/
def copy (o : Object ν) : Object ν := { o with proto := none }

/-- `{ ...o, [name]: v }` -/
def copyWith (o : Object ν) (name : String) (v : ν) : Object ν := ⟨Dict.set o.own name v, none⟩

/-- The prototype is the first one, and `__proto__` is no property of its own. -/
structure Plain (o : Object ν) : Prop where
  proto : o.proto = none
  own : Dict.get? o.own accessor = none

variable {read : ν → String → Option φ} {o : Object ν} {name : String} {v : ν}

theorem plain_empty : (empty : Object ν).Plain := ⟨rfl, rfl⟩

/-- Among the names that are not its own, a plain object has those of `Object.prototype`. -/
theorem get_of_plain (h : o.Plain) (hown : Dict.get? o.own name = none) :
    get read o name = if name = accessor then .objectPrototype
      else if name ∈ methods then .method name else .undefined := by
  rw [get, hown, h.proto]
  dsimp only [Option.bind_none]
  rw [getBuiltin, h.proto]

theorem get_of_own (hown : Dict.get? o.own name = some v) : get read o name = .value v := by
  rw [get, hown]

theorem assign_of_ne (hname : name ≠ accessor) :
    assign read o name v = { o with own := Dict.set o.own name v } := by
  rw [assign, if_neg (fun h => hname h.1)]

/-- `__proto__` of a plain object sets its prototype. -/
theorem assign_accessor_of_plain (h : o.Plain) :
    assign read o accessor v = { o with proto := some v } := by
  rw [assign, if_pos ⟨rfl, h.own, by rw [h.proto]; rfl⟩]

/-- An assignment to another name is that of a dictionary. -/
theorem plain_assign (h : o.Plain) (hname : name ≠ accessor) : (assign read o name v).Plain := by
  rw [assign_of_ne hname]
  exact ⟨h.proto, by rw [Dict.get?_set, if_neg hname.symm]; exact h.own⟩

theorem plain_delete (h : o.Plain) : (o.delete name).Plain where
  proto := h.proto
  own := by
    rw [delete, Dict.get?_pop]
    split
    · rfl
    · exact h.own

/-- A prototype that has been set stays set. -/
theorem proto_assign_isSome (h : o.proto.isSome) : (assign read o name v).proto.isSome := by
  unfold assign
  split
  · rfl
  · exact h

theorem delete_eq_self (h : Dict.get? o.own name = none) : o.delete name = o := by
  rw [delete, Dict.pop_of_get?_eq_none h]

theorem copy_eq_self (h : o.proto = none) : o.copy = o := by
  rw [copy, ← h]

theorem copyWith_eq_assign (h : o.proto = none) (hname : name ≠ accessor) :
    o.copyWith name v = assign read o name v := by
  rw [assign_of_ne hname, copyWith, ← h]

end Object

end PlainObject
