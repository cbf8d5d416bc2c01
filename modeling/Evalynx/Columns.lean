import Evalynx.Runners

/-! What psycopg and `json.dumps` write of a value, and what the columns take of it. -/

namespace Json

mutual

def nesting : Json → Nat
  | .arr items => nestingItems items + 1
  | .obj members => nestingMembers members + 1
  | .null | .bool _ | .int _ | .float _ | .str _ => 0
termination_by structural value => value

def nestingItems : List Json → Nat
  | [] => 0
  | item :: items => max (nesting item) (nestingItems items)
termination_by structural items => items

def nestingMembers : List (String × Json) → Nat
  | [] => 0
  | (_, value) :: members => max (nesting value) (nestingMembers members)
termination_by structural members => members

end

theorem nesting_strings (texts : List String) : nesting (.arr (texts.map .str)) = 1 := by
  have flat : nestingItems (texts.map .str) = 0 := by
    induction texts with
    | nil => rfl
    | cons text texts ih => simp [nestingItems, nesting, ih]
  rw [nesting, flat]

end Json

namespace Evalynx

/-- A Python `str` may hold a lone surrogate, and a `dict[str, Any]` any object. Which `String` and
which `Json` stand for those is left open; these predicates say what binding one comes to. -/
structure Driver where
  /-- `text.encode("utf-8")` returns; a lone surrogate raises UnicodeEncodeError. -/
  encodable : String → Bool
  /-- `json.dumps(value)` returns. It raises TypeError for an object it does not know,
  RecursionError for a value nested too deeply and ValueError for an int of too many digits. -/
  dumpable : Json → Bool
  encodable_append : ∀ first second,
    encodable (first ++ second) = (encodable first && encodable second)
  encodable_ascii : ∀ text, text.toList.all (fun c => decide (c.val < 128)) = true →
    encodable text = true
  dumpable_null : dumpable .null = true
  dumpable_strings : ∀ texts : List String, dumpable (.arr (texts.map .str)) = true
  dumpable_error : ∀ kind message, dumpable (.obj (errorObject kind message [])) = true

/-- `name` is what the column keeps of a name; the others say what it takes. -/
structure Columns where
  key : Nat → Bool
  name : String → Option String
  text : String → Bool
  json : Json → Bool

def storableText (text : String) : Bool := !text.toList.contains '\x00'

/-- INTEGER, VARCHAR(255), TEXT and JSON. A text has no NUL character, JSON is strict, and a name that
is too long is refused unless only blanks stand behind its length, which are cut off. -/
def Columns.postgres (driver : Driver) : Columns where
  key := fun id => decide (id < 2147483648)
  name := fun name =>
    if driver.encodable name && storableText name && (name.toList.drop 255).all (· == ' ') then
      some (String.ofList (name.toList.take 255))
    else none
  text := fun text => driver.encodable text && storableText text
  json := fun value => driver.dumpable value && value.strict

theorem storableText_append (first second : String) :
    storableText (first ++ second) = (storableText first && storableText second) := by
  simp [storableText]

namespace Columns

variable (driver : Driver)

theorem postgres_append (first second : String) :
    (postgres driver).text (first ++ second) =
      ((postgres driver).text first && (postgres driver).text second) := by
  simp only [Columns.postgres, driver.encodable_append, storableText_append]
  ac_rfl

theorem postgres_ascii (text : String)
    (ascii : text.toList.all (fun c => decide (c.val < 128)) = true)
    (solid : storableText text = true) : (postgres driver).text text = true :=
  Bool.and_eq_true_iff.mpr ⟨driver.encodable_ascii text ascii, solid⟩

theorem postgres_null : (postgres driver).json .null = true :=
  Bool.and_eq_true_iff.mpr ⟨driver.dumpable_null, rfl⟩

theorem postgres_strings (texts : List String) :
    (postgres driver).json (.arr (texts.map .str)) = true := by
  have strict : (Json.arr (texts.map .str)).strict = true := by
    rw [Json.strict_arr]
    simp [Json.strict]
  exact Bool.and_eq_true_iff.mpr ⟨driver.dumpable_strings texts, strict⟩

theorem postgres_error (kind message : String) :
    (postgres driver).json (.obj (errorObject kind message [])) = true := by
  have strict : (Json.obj (errorObject kind message [])).strict = true := by
    rw [Json.strict_obj]
    simp [errorObject, Json.strict]
  exact Bool.and_eq_true_iff.mpr ⟨driver.dumpable_error kind message, strict⟩

end Columns

/-- On values that `json.loads` gives for text without lone surrogates, only the nesting counts. -/
def Driver.nested (limit : Nat) (room : 0 < limit) : Driver where
  encodable := fun _ => true
  dumpable := fun value => decide (value.nesting ≤ limit)
  encodable_append := fun _ _ => rfl
  encodable_ascii := fun _ _ => rfl
  dumpable_null := decide_eq_true (Nat.zero_le limit)
  dumpable_strings := fun texts => decide_eq_true (Json.nesting_strings texts ▸ room)
  dumpable_error := fun _ _ => decide_eq_true room

/-- Values as deep as CPython's recursion limit allows in `json.dumps`. -/
def Driver.plain : Driver := .nested 900 (Nat.succ_pos 899)

end Evalynx
