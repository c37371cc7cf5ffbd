import Mathlib.Data.Rat.Defs
import Mathlib.Data.List.Nodup
import Mathlib.Data.List.Infix

/-!
# JSON values as Python sees them

`json.loads` yields `None`, booleans, integers, floats, strings, lists and
dicts.  A dict is an association list in insertion order; `Json.WF` says that
the keys of every dict are distinct, and `JsonValue` carries that fact.

Python's `==` (`pyEq`) forgets the order of dict keys and identifies a boolean
or a float with the equal integer.
-/

namespace KarstflowTests

/-- A float other than NaN, up to Python's `==` (the two zeros agree). -/
inductive PyFloat where
  | finite (value : ℚ)
  | posInf
  | negInf
  deriving DecidableEq

namespace PyFloat

/-- Python's `<` on floats. -/
def lt : PyFloat → PyFloat → Bool
  | .finite left, .finite right => decide (left < right)
  | .negInf, .finite _ => true
  | .negInf, .posInf => true
  | .finite _, .posInf => true
  | _, _ => false

end PyFloat

/-- A value that `json.loads` can return, other than one with a NaN or with a
lone surrogate in a string. -/
inductive Json where
  | null
  | bool (value : Bool)
  | int (value : ℤ)
  | float (value : PyFloat)
  | str (value : String)
  | arr (items : List Json)
  | obj (members : List (String × Json))

namespace Json

/-! ## Decidable equality -/

mutual

/-- Equality of the representations. -/
def eqb : Json → Json → Bool
  | .null, .null => true
  | .bool left, .bool right => left == right
  | .int left, .int right => left == right
  | .float left, .float right => left == right
  | .str left, .str right => left == right
  | .arr left, .arr right => eqbItems left right
  | .obj left, .obj right => eqbMembers left right
  | _, _ => false

def eqbItems : List Json → List Json → Bool
  | [], [] => true
  | left :: lefts, right :: rights =>
      eqb left right && eqbItems lefts rights
  | _, _ => false

def eqbMembers :
    List (String × Json) → List (String × Json) → Bool
  | [], [] => true
  | (leftKey, left) :: lefts, (rightKey, right) :: rights =>
      leftKey == rightKey && eqb left right && eqbMembers lefts rights
  | _, _ => false

end

mutual

private theorem eqb_iff : ∀ left right : Json, eqb left right ↔ left = right
  | .null, right => by cases right <;> simp [eqb]
  | .bool _, right => by cases right <;> simp [eqb]
  | .int _, right => by cases right <;> simp [eqb]
  | .float _, right => by cases right <;> simp [eqb]
  | .str _, right => by cases right <;> simp [eqb]
  | .arr left, right => by
      cases right with
      | arr right => simp [eqb, eqbItems_iff left right]
      | _ => simp [eqb]
  | .obj left, right => by
      cases right with
      | obj right => simp [eqb, eqbMembers_iff left right]
      | _ => simp [eqb]

private theorem eqbItems_iff :
    ∀ left right : List Json, eqbItems left right ↔ left = right
  | [], right => by cases right <;> simp [eqbItems]
  | left :: lefts, right => by
      cases right with
      | nil => simp [eqbItems]
      | cons right rights =>
          simp [eqbItems, eqb_iff left right, eqbItems_iff lefts rights]

private theorem eqbMembers_iff :
    ∀ left right : List (String × Json),
      eqbMembers left right ↔ left = right
  | [], right => by cases right <;> simp [eqbMembers]
  | (leftKey, left) :: lefts, right => by
      cases right with
      | nil => simp [eqbMembers]
      | cons right rights =>
          obtain ⟨rightKey, right⟩ := right
          simp [eqbMembers, eqb_iff left right,
            eqbMembers_iff lefts rights]

end

instance : DecidableEq Json := fun left right =>
  decidable_of_iff _ (eqb_iff left right)

/-! ## Types, truth and equality in Python -/

/-- `type(value).__name__`. -/
def typeName : Json → String
  | .null => "NoneType"
  | .bool _ => "bool"
  | .int _ => "int"
  | .float _ => "float"
  | .str _ => "str"
  | .arr _ => "list"
  | .obj _ => "dict"

/-- `isinstance(value, type(other))`: equal types, or a boolean against an
integer, since Python's `bool` is a subclass of `int`. -/
def isinstanceOfType (value other : Json) : Bool :=
  value.typeName == other.typeName ||
    (value.typeName == "bool" && other.typeName == "int")

/-- `bool(value)`. -/
def truthy : Json → Bool
  | .null => false
  | .bool value => value
  | .int value => value != 0
  | .float value => value != .finite 0
  | .str value => value != ""
  | .arr items => !items.isEmpty
  | .obj members => !members.isEmpty

/-- The numeric value of a boolean, an integer or a float. -/
def number : Json → Option PyFloat
  | .bool value => some (.finite (if value then 1 else 0))
  | .int value => some (.finite value)
  | .float value => some value
  | _ => none

mutual

/-- Python's `==`. -/
def pyEq : Json → Json → Bool
  | .arr left, .arr right => pyEqItems left right
  | .obj left, .obj right =>
      left.length == right.length && pyEqMembers left right
  | .str left, .str right => left == right
  | .null, .null => true
  | .bool left, right =>
      right.number == some (.finite (if left then 1 else 0))
  | .int left, right => right.number == some (.finite left)
  | .float left, right => right.number == some left
  | _, _ => false

def pyEqItems : List Json → List Json → Bool
  | [], [] => true
  | left :: lefts, right :: rights =>
      pyEq left right && pyEqItems lefts rights
  | _, _ => false

def pyEqMembers :
    List (String × Json) → List (String × Json) → Bool
  | [], _ => true
  | (key, left) :: lefts, rights =>
      (match rights.lookup key with
        | some right => pyEq left right
        | none => false) && pyEqMembers lefts rights

end

@[simp]
theorem pyEq_int_int (left right : ℤ) :
    pyEq (.int left) (.int right) = decide (left = right) := by
  by_cases equal : left = right
  · simp [pyEq, number, equal]
  · simp [pyEq, number, equal, Ne.symm equal]

theorem pyEq_str_iff {value : Json} {text : String} :
    value.pyEq (.str text) = true ↔ value = .str text := by
  cases value <;> simp [pyEq, number]

/-- Against an integer the order of the operands does not matter. -/
theorem pyEq_int_comm (value : Json) (number : ℤ) :
    pyEq (.int number) value = pyEq value (.int number) := by
  cases value <;> simp [pyEq, Json.number, eq_comm]

/-! ## Well-formed dicts -/

mutual

/-- The keys of every dict in the value are distinct. -/
def WF : Json → Prop
  | .arr items => WFItems items
  | .obj members => (members.map Prod.fst).Nodup ∧ WFMembers members
  | _ => True

def WFItems : List Json → Prop
  | [] => True
  | item :: items => WF item ∧ WFItems items

def WFMembers : List (String × Json) → Prop
  | [] => True
  | (_, value) :: members => WF value ∧ WFMembers members

end

end Json

/-- A JSON value whose dicts have distinct keys, as every Python dict has. -/
structure JsonValue where
  json : Json
  wf : json.WF

end KarstflowTests
