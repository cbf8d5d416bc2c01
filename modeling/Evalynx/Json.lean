import Mathlib.Data.List.Basic
import Mathlib.Data.List.Nodup

/-! JSON values as a Python process holds them after `json.loads`. -/

/-- A finite float is represented by what `float.__repr__` prints for it: sign, whole part,
fraction digits, and exponent with its sign (`true` is negative) and digits. -/
structure FloatRepr where
  negative : Bool
  whole : Nat
  fraction : List (Fin 10)
  exponent : Option (Bool × Fin 10 × List (Fin 10))
  shaped : fraction ≠ [] ∨ exponent.isSome = true
  deriving DecidableEq

inductive PyFloat where
  | finite (repr : FloatRepr)
  | nan
  | infinity (negative : Bool)
  deriving DecidableEq

inductive Json where
  | null
  | bool (value : Bool)
  | int (value : Int)
  | float (value : PyFloat)
  | str (value : String)
  | arr (items : List Json)
  | obj (members : List (String × Json))

abbrev JsonObject := List (String × Json)

namespace JsonObject

/-- `mapping.get(key)`: a missing key and a null member are both `None`. -/
def get (object : JsonObject) (key : String) : Json :=
  (object.lookup key).getD .null

def keys (object : JsonObject) : List String := object.map Prod.fst

end JsonObject

namespace Json

@[elab_as_elim]
theorem induct {motive : Json → Prop} (null : motive .null) (bool : ∀ b, motive (.bool b))
    (int : ∀ n, motive (.int n)) (float : ∀ x, motive (.float x)) (str : ∀ s, motive (.str s))
    (arr : ∀ items, (∀ item ∈ items, motive item) → motive (.arr items))
    (obj : ∀ members : JsonObject, (∀ member ∈ members, motive member.2) → motive (.obj members))
    (value : Json) : motive value :=
  Json.rec (motive_2 := fun items => ∀ item ∈ items, motive item)
    (motive_3 := fun members => ∀ member ∈ members, motive member.2)
    (motive_4 := fun member => motive member.2)
    null bool int float str arr obj
    (by simp)
    (fun _ _ head tail => List.forall_mem_cons.mpr ⟨head, tail⟩)
    (by simp)
    (fun _ _ head tail => List.forall_mem_cons.mpr ⟨head, tail⟩)
    (fun _ _ value => value)
    value

def isNull : Json → Bool
  | .null => true
  | _ => false

theorem isNull_iff (value : Json) : value.isNull = true ↔ value = .null := by
  cases value <;> simp [isNull]

def strictFloat : PyFloat → Bool
  | .finite _ => true
  | .nan | .infinity _ => false

mutual

def strict : Json → Bool
  | .float value => strictFloat value
  | .arr items => strictItems items
  | .obj members => strictMembers members
  | .null | .bool _ | .int _ | .str _ => true
termination_by structural value => value

def strictItems : List Json → Bool
  | [] => true
  | item :: items => strict item && strictItems items
termination_by structural items => items

def strictMembers : List (String × Json) → Bool
  | [] => true
  | (_, value) :: members => strict value && strictMembers members
termination_by structural members => members

end

theorem strictItems_iff (items : List Json) :
    strictItems items = true ↔ ∀ item ∈ items, item.strict = true := by
  induction items with
  | nil => simp [strictItems]
  | cons item items ih => simp [strictItems, ih]

theorem strictMembers_iff (members : JsonObject) :
    strictMembers members = true ↔ ∀ member ∈ members, member.2.strict = true := by
  induction members with
  | nil => simp [strictMembers]
  | cons member members ih => simp [strictMembers, ih]

theorem strict_arr (items : List Json) :
    (Json.arr items).strict = true ↔ ∀ item ∈ items, item.strict = true := by
  rw [strict, strictItems_iff]

theorem strict_obj (members : JsonObject) :
    (Json.obj members).strict = true ↔ ∀ member ∈ members, member.2.strict = true := by
  rw [strict, strictMembers_iff]

mutual

def distinctKeys : Json → Bool
  | .arr items => distinctItems items
  | .obj members => decide (members.map Prod.fst).Nodup && distinctMembers members
  | .null | .bool _ | .int _ | .float _ | .str _ => true
termination_by structural value => value

def distinctItems : List Json → Bool
  | [] => true
  | item :: items => distinctKeys item && distinctItems items
termination_by structural items => items

def distinctMembers : List (String × Json) → Bool
  | [] => true
  | (_, value) :: members => distinctKeys value && distinctMembers members
termination_by structural members => members

end

theorem distinctItems_iff (items : List Json) :
    distinctItems items = true ↔ ∀ item ∈ items, item.distinctKeys = true := by
  induction items with
  | nil => simp [distinctItems]
  | cons item items ih => simp [distinctItems, ih]

theorem distinctMembers_iff (members : JsonObject) :
    distinctMembers members = true ↔ ∀ member ∈ members, member.2.distinctKeys = true := by
  induction members with
  | nil => simp [distinctMembers]
  | cons member members ih => simp [distinctMembers, ih]

theorem distinctKeys_arr (items : List Json) :
    (Json.arr items).distinctKeys = true ↔ ∀ item ∈ items, item.distinctKeys = true := by
  rw [distinctKeys, distinctItems_iff]

theorem distinctKeys_obj (members : JsonObject) :
    (Json.obj members).distinctKeys = true ↔
      members.keys.Nodup ∧ ∀ member ∈ members, member.2.distinctKeys = true := by
  rw [distinctKeys, Bool.and_eq_true, decide_eq_true_eq, distinctMembers_iff]
  rfl

end Json
