import PacketTracer.Library.PyText

/-!
# Untyped values

The values that a decoded record may hold, with `dict.get`, truthiness and `str` as Python has them.
Floating point numbers are left out.
-/

namespace PyValues

open PyText

/-- A value of a decoded record. -/
inductive PyValue
  | none
  | bool (value : Bool)
  | int (value : ℤ)
  | str (value : String)
  | list (items : List PyValue)
  | dict (entries : List (String × PyValue))

namespace PyValue

/-- `value.get(key)` of a dictionary; another value has no keys. -/
def get? (key : String) : PyValue → Option PyValue
  | dict entries => entries.lookup key
  | _ => Option.none

/-- `bool(value)`. -/
def truthy : PyValue → Bool
  | none => false
  | bool value => value
  | int value => value ≠ 0
  | str value => value ≠ ""
  | list items => !items.isEmpty
  | dict entries => !entries.isEmpty

/-- `value is True`. -/
def isTrue : PyValue → Bool
  | bool value => value
  | _ => false

/-- The items of a list; another value has none. -/
def items : PyValue → List PyValue
  | list items => items
  | _ => []

/-- Whether the value is a dictionary. -/
def isDict : PyValue → Bool
  | dict _ => true
  | _ => false

/-- The number, when `type(value) is int`. -/
def int? : PyValue → Option ℤ
  | int value => some value
  | _ => Option.none

mutual

/-- `repr(value)`. -/
def repr : PyValue → String
  | none => "None"
  | bool value => if value then "True" else "False"
  | int value => toString value
  | str value => quoted value
  | list items => "[" ++ ", ".intercalate (reprItems items) ++ "]"
  | dict entries => "\x7b" ++ ", ".intercalate (reprEntries entries) ++ "\x7d"

/-- `repr` of the items of a list. -/
def reprItems : List PyValue → List String
  | [] => []
  | item :: items => item.repr :: reprItems items

/-- `repr` of the entries of a dictionary. -/
def reprEntries : List (String × PyValue) → List String
  | [] => []
  | (key, value) :: entries => (quoted key ++ ": " ++ value.repr) :: reprEntries entries

end

/-- `str(value)`: a text is its own. -/
def text : PyValue → String
  | str value => value
  | value => value.repr

/-! ## Equality -/

mutual

/-- Equality of two values is decidable. -/
def decEq : (a b : PyValue) → Decidable (a = b)
  | none, none => .isTrue rfl
  | bool a, bool b => decidable_of_iff (a = b) (by simp)
  | int a, int b => decidable_of_iff (a = b) (by simp)
  | str a, str b => decidable_of_iff (a = b) (by simp)
  | list a, list b => @decidable_of_iff _ (a = b) (by simp) (decEqItems a b)
  | dict a, dict b => @decidable_of_iff _ (a = b) (by simp) (decEqEntries a b)
  | none, bool _ | none, int _ | none, str _ | none, list _ | none, dict _ => .isFalse (by simp)
  | bool _, none | bool _, int _ | bool _, str _ | bool _, list _ | bool _, dict _ =>
    .isFalse (by simp)
  | int _, none | int _, bool _ | int _, str _ | int _, list _ | int _, dict _ => .isFalse (by simp)
  | str _, none | str _, bool _ | str _, int _ | str _, list _ | str _, dict _ => .isFalse (by simp)
  | list _, none | list _, bool _ | list _, int _ | list _, str _ | list _, dict _ =>
    .isFalse (by simp)
  | dict _, none | dict _, bool _ | dict _, int _ | dict _, str _ | dict _, list _ =>
    .isFalse (by simp)

/-- Equality of the items of two lists is decidable. -/
def decEqItems : (a b : List PyValue) → Decidable (a = b)
  | [], [] => .isTrue rfl
  | [], _ :: _ => .isFalse (by simp)
  | _ :: _, [] => .isFalse (by simp)
  | a :: as, b :: bs =>
    @decidable_of_iff _ (a = b ∧ as = bs) (by simp)
      (@instDecidableAnd _ _ (a.decEq b) (decEqItems as bs))

/-- Equality of the entries of two dictionaries is decidable. -/
def decEqEntries : (a b : List (String × PyValue)) → Decidable (a = b)
  | [], [] => .isTrue rfl
  | [], _ :: _ => .isFalse (by simp)
  | _ :: _, [] => .isFalse (by simp)
  | (k, a) :: as, (l, b) :: bs =>
    @decidable_of_iff _ (k = l ∧ a = b ∧ as = bs) (by simp [and_assoc])
      (@instDecidableAnd _ _ _ (@instDecidableAnd _ _ (a.decEq b) (decEqEntries as bs)))

end

instance : DecidableEq PyValue := decEq

end PyValue

end PyValues
