import Mathlib.Data.List.Basic
import Mathlib.Data.List.Nodup

/-! Tables with an integer primary key handed out by a sequence. -/

namespace Relational

class Row (ρ : Type) where
  id : ρ → Nat

variable {ρ : Type} [Row ρ]

/-- `next` is the sequence behind the key. A reserved key is never handed out again,
also when the transaction that reserved it rolls back. -/
structure Table (ρ : Type) [Row ρ] where
  rows : List ρ
  next : Nat
  nodup : (rows.map Row.id).Nodup
  below : ∀ row ∈ rows, Row.id row < next

namespace Table

def empty : Table ρ where
  rows := []
  next := 1
  nodup := List.nodup_nil
  below := by simp

def get? (table : Table ρ) (id : Nat) : Option ρ :=
  table.rows.find? (fun row => Row.id row == id)

def reserve (table : Table ρ) (count : Nat) : Table ρ where
  rows := table.rows
  next := table.next + count
  nodup := table.nodup
  below := fun row member => Nat.lt_add_right count (table.below row member)

/-- A row becomes visible under a key the sequence has already handed out. -/
def adopt (table : Table ρ) (row : ρ) : Table ρ :=
  if fresh : Row.id row ∉ table.rows.map Row.id ∧ Row.id row < table.next then
    { rows := table.rows ++ [row]
      next := table.next
      nodup := by
        rw [List.map_append, List.map_singleton]
        exact List.nodup_append.mpr ⟨table.nodup, List.nodup_singleton _, by
          intro key member other single same
          rw [List.mem_singleton] at single
          exact fresh.1 (single ▸ same ▸ member)⟩
      below := by
        intro other member
        rcases List.mem_append.mp member with old | new
        · exact table.below other old
        · rw [List.mem_singleton.mp new]
          exact fresh.2 }
  else table

def put (table : Table ρ) (row : ρ) : Table ρ where
  rows := table.rows.map (fun old => if Row.id old = Row.id row then row else old)
  next := table.next
  nodup := by
    have keys : (table.rows.map (fun old => if Row.id old = Row.id row then row else old)).map
        Row.id = table.rows.map Row.id := by
      rw [List.map_map]
      apply List.map_congr_left
      intro old _
      by_cases same : Row.id old = Row.id row <;> simp [same]
    rw [keys]
    exact table.nodup
  below := by
    intro other member
    obtain ⟨old, present, rfl⟩ := List.mem_map.mp member
    by_cases same : Row.id old = Row.id row
    · rw [if_pos same, ← same]
      exact table.below old present
    · rw [if_neg same]
      exact table.below old present

def map {σ : Type} [Row σ] (table : Table ρ) (change : ρ → σ)
    (keeps : ∀ row, Row.id (change row) = Row.id row) : Table σ where
  rows := table.rows.map change
  next := table.next
  nodup := by
    have keys : (table.rows.map change).map Row.id = table.rows.map Row.id := by
      rw [List.map_map]
      apply List.map_congr_left
      intro row _
      exact keeps row
    rw [keys]
    exact table.nodup
  below := by
    intro row member
    obtain ⟨old, present, rfl⟩ := List.mem_map.mp member
    rw [keeps]
    exact table.below old present

/-- `UPDATE .. SET .. WHERE id = .. AND ..` with its row count. -/
def update (table : Table ρ) (id : Nat) (matching : ρ → Bool) (set : ρ → ρ) : Table ρ × Nat :=
  match table.get? id with
  | some row => if matching row then (table.put (set row), 1) else (table, 0)
  | none => (table, 0)

theorem get?_eq_some (table : Table ρ) (id : Nat) (row : ρ) :
    table.get? id = some row ↔ row ∈ table.rows ∧ Row.id row = id := by
  constructor
  · intro found
    exact ⟨List.mem_of_find?_eq_some found, by simpa using List.find?_some found⟩
  · rintro ⟨member, rfl⟩
    cases found : table.get? (Row.id row) with
    | none =>
        have absent := List.find?_eq_none.mp found row member
        simp at absent
    | some other =>
        have key : Row.id other = Row.id row := by simpa using List.find?_some found
        exact congrArg some
          (List.inj_on_of_nodup_map table.nodup (List.mem_of_find?_eq_some found) member key)

theorem get?_eq_none (table : Table ρ) (id : Nat) :
    table.get? id = none ↔ ∀ row ∈ table.rows, Row.id row ≠ id := by
  simp [get?, List.find?_eq_none]

theorem get?_id {table : Table ρ} {id : Nat} {row : ρ} (found : table.get? id = some row) :
    Row.id row = id :=
  ((table.get?_eq_some id row).mp found).2

theorem get?_mem {table : Table ρ} {id : Nat} {row : ρ} (found : table.get? id = some row) :
    row ∈ table.rows :=
  ((table.get?_eq_some id row).mp found).1

theorem get?_of_mem {table : Table ρ} {row : ρ} (member : row ∈ table.rows) :
    table.get? (Row.id row) = some row :=
  (table.get?_eq_some _ row).mpr ⟨member, rfl⟩

theorem eq_of_mem {table : Table ρ} {id : Nat} {row other : ρ} (found : table.get? id = some row)
    (member : other ∈ table.rows) (same : Row.id other = id) : other = row := by
  have foundHere := get?_of_mem member
  rw [same, found] at foundHere
  exact (Option.some.inj foundHere).symm

theorem get?_lt_next {table : Table ρ} {id : Nat} {row : ρ} (found : table.get? id = some row) :
    id < table.next := by
  rw [← get?_id found]
  exact table.below row (get?_mem found)

theorem get?_next (table : Table ρ) (id : Nat) (unused : table.next ≤ id) :
    table.get? id = none := by
  rw [get?_eq_none]
  intro row member same
  have bound := table.below row member
  omega

@[simp] theorem get?_reserve (table : Table ρ) (count id : Nat) :
    (table.reserve count).get? id = table.get? id := rfl

@[simp] theorem rows_reserve (table : Table ρ) (count : Nat) :
    (table.reserve count).rows = table.rows := rfl

@[simp] theorem next_reserve (table : Table ρ) (count : Nat) :
    (table.reserve count).next = table.next + count := rfl

@[simp] theorem next_put (table : Table ρ) (row : ρ) : (table.put row).next = table.next := rfl

@[simp] theorem next_adopt (table : Table ρ) (row : ρ) : (table.adopt row).next = table.next := by
  unfold adopt
  split <;> rfl

theorem rows_put (table : Table ρ) (row : ρ) :
    (table.put row).rows = table.rows.map (fun old => if Row.id old = Row.id row then row else old) :=
  rfl

theorem ids_put (table : Table ρ) (row : ρ) :
    (table.put row).rows.map Row.id = table.rows.map Row.id := by
  rw [rows_put, List.map_map]
  apply List.map_congr_left
  intro old _
  by_cases same : Row.id old = Row.id row <;> simp [same]

theorem rows_put_change {table : Table ρ} {row : ρ} (change : ρ → ρ)
    (keeps : Row.id (change row) = Row.id row) (found : table.get? (Row.id row) = some row) :
    (table.put (change row)).rows =
      table.rows.map (fun old => if Row.id old = Row.id row then change old else old) := by
  rw [rows_put, keeps]
  apply List.map_congr_left
  intro old member
  by_cases same : Row.id old = Row.id row
  · rw [if_pos same, if_pos same, eq_of_mem found member same]
  · rw [if_neg same, if_neg same]

theorem rows_adopt (table : Table ρ) (row : ρ) (fresh : table.get? (Row.id row) = none)
    (reserved : Row.id row < table.next) : (table.adopt row).rows = table.rows ++ [row] := by
  have absent : Row.id row ∉ table.rows.map Row.id := by
    intro member
    obtain ⟨other, present, same⟩ := List.mem_map.mp member
    exact (table.get?_eq_none _).mp fresh other present same
  rw [adopt, dif_pos ⟨absent, reserved⟩]

theorem mem_adopt (table : Table ρ) (row : ρ) (fresh : table.get? (Row.id row) = none)
    (reserved : Row.id row < table.next) (other : ρ) :
    other ∈ (table.adopt row).rows ↔ other ∈ table.rows ∨ other = row := by
  rw [rows_adopt table row fresh reserved, List.mem_append, List.mem_singleton]

theorem get?_adopt_other {table : Table ρ} {row : ρ} (fresh : table.get? (Row.id row) = none)
    (reserved : Row.id row < table.next) {id : Nat} (other : id ≠ Row.id row) :
    (table.adopt row).get? id = table.get? id := by
  rw [get?, get?, rows_adopt table row fresh reserved, List.find?_append, List.find?_singleton]
  simp [Ne.symm other]

theorem get?_put (table : Table ρ) (row : ρ) (id : Nat) :
    (table.put row).get? id =
      if id = Row.id row then (table.get? id).map (fun _ => row) else table.get? id := by
  have pointwise (old : ρ) :
      Row.id (if Row.id old = Row.id row then row else old) = Row.id old := by
    by_cases same : Row.id old = Row.id row <;> simp [same]
  have found : (table.put row).get? id =
      (table.get? id).map (fun old => if Row.id old = Row.id row then row else old) := by
    simp only [get?, rows_put, List.find?_map]
    congr 2
    funext old
    simp only [Function.comp_apply, pointwise]
  rw [found]
  cases old : table.get? id with
  | none => simp
  | some version =>
      have key := get?_id old
      by_cases same : id = Row.id row
      · simp [key, same]
      · simp [key, same]

theorem get?_put_self {table : Table ρ} (row : ρ) {old : ρ}
    (found : table.get? (Row.id row) = some old) :
    (table.put row).get? (Row.id row) = some row := by
  rw [get?_put, if_pos rfl, found, Option.map_some]

theorem put_put (table : Table ρ) (row later : ρ) (same : Row.id later = Row.id row) :
    (table.put row).put later = table.put later := by
  have rows : ((table.put row).put later).rows = (table.put later).rows := by
    simp only [rows_put, List.map_map]
    apply List.map_congr_left
    intro old _
    by_cases key : Row.id old = Row.id row
    · simp [key, same]
    · simp [key, same]
  cases table
  simp only [put, mk.injEq] at rows ⊢
  exact ⟨rows, trivial⟩

theorem put_comm (table : Table ρ) (row other : ρ) (different : Row.id row ≠ Row.id other) :
    (table.put row).put other = (table.put other).put row := by
  have rows : ((table.put row).put other).rows = ((table.put other).put row).rows := by
    simp only [rows_put, List.map_map]
    apply List.map_congr_left
    intro old _
    by_cases first : Row.id old = Row.id row
    · have second : Row.id old ≠ Row.id other := fun same => different (first.symm.trans same)
      simp [first, different]
    · by_cases second : Row.id old = Row.id other
      · simp [second, Ne.symm different]
      · simp [first, second]
  cases table
  simp only [put, mk.injEq] at rows ⊢
  exact ⟨rows, trivial⟩

theorem get?_map (table : Table ρ) (change : ρ → ρ) (keeps : ∀ row, Row.id (change row) = Row.id row)
    (id : Nat) : (table.map change keeps).get? id = (table.get? id).map change := by
  have same : (fun row => Row.id row == id) ∘ change = fun row => Row.id row == id := by
    funext row
    simp only [Function.comp_apply, keeps]
  simp only [get?, map, List.find?_map, same]

theorem map_put (table : Table ρ) (change : ρ → ρ) (keeps : ∀ row, Row.id (change row) = Row.id row)
    (row : ρ) : (table.put row).map change keeps = (table.map change keeps).put (change row) := by
  have rows : ((table.put row).map change keeps).rows =
      ((table.map change keeps).put (change row)).rows := by
    simp only [map, put, List.map_map]
    apply List.map_congr_left
    intro old _
    by_cases key : Row.id old = Row.id row <;> simp [keeps, key]
  simp only [map, put, mk.injEq] at rows ⊢
  exact ⟨rows, trivial⟩

theorem mem_put {table : Table ρ} (row : ρ) {old : ρ} (found : table.get? (Row.id row) = some old)
    (other : ρ) :
    other ∈ (table.put row).rows ↔
      other = row ∨ (other ∈ table.rows ∧ Row.id other ≠ Row.id row) := by
  rw [rows_put, List.mem_map]
  constructor
  · rintro ⟨version, member, rfl⟩
    by_cases same : Row.id version = Row.id row
    · exact Or.inl (if_pos same)
    · rw [if_neg same]
      exact Or.inr ⟨member, same⟩
  · rintro (rfl | ⟨member, different⟩)
    · exact ⟨old, get?_mem found, if_pos (get?_id found)⟩
    · exact ⟨other, member, if_neg different⟩

theorem filter_put (table : Table ρ) (row : ρ) (condition : ρ → Bool)
    (stable : ∀ old ∈ table.rows, Row.id old = Row.id row → condition old = condition row) :
    (table.put row).rows.filter condition =
      (table.rows.filter condition).map (fun old => if Row.id old = Row.id row then row else old) := by
  rw [rows_put, List.filter_map]
  congr 1
  apply List.filter_congr
  intro old member
  by_cases same : Row.id old = Row.id row
  · simp [same, stable old member same]
  · simp [same]

omit [Row ρ] in
theorem exists_all_some {σ : Type} {load : ρ → Option σ} {rows : List ρ}
    (total : ∀ row ∈ rows, ∃ loaded, load row = some loaded) :
    ∃ loaded : List σ, rows.map load = loaded.map some := by
  induction rows with
  | nil => exact ⟨[], rfl⟩
  | cons row rest ih =>
      obtain ⟨first, here⟩ := total row List.mem_cons_self
      obtain ⟨others, there⟩ := ih fun other member => total other (List.mem_cons_of_mem _ member)
      exact ⟨first :: others, by rw [List.map_cons, here, there, List.map_cons]⟩

theorem exists_loaded {σ : Type} [Row σ] (table : Table ρ) (load : ρ → Option σ)
    (keeps : ∀ row loaded, load row = some loaded → Row.id loaded = Row.id row)
    (total : ∀ row ∈ table.rows, ∃ loaded, load row = some loaded) :
    ∃ other : Table σ, table.rows.map load = other.rows.map some := by
  obtain ⟨loaded, same⟩ := exists_all_some total
  have keys : loaded.map Row.id = table.rows.map Row.id := by
    have both := congrArg (List.map (Option.map Row.id)) same
    rw [List.map_map, List.map_map] at both
    have here : table.rows.map (Option.map Row.id ∘ load) =
        (table.rows.map Row.id).map some := by
      rw [List.map_map]
      apply List.map_congr_left
      intro row member
      obtain ⟨version, read⟩ := total row member
      rw [Function.comp_apply, read, Option.map_some, keeps row version read, Function.comp_apply]
    have there : loaded.map (Option.map Row.id ∘ some) = (loaded.map Row.id).map some := by
      rw [List.map_map]
      rfl
    rw [here, there] at both
    exact (List.map_injective_iff.mpr (fun _ _ => Option.some.inj) both).symm
  refine ⟨⟨loaded, table.next, keys ▸ table.nodup, ?_⟩, same⟩
  intro row member
  have key : Row.id row ∈ table.rows.map Row.id := keys ▸ List.mem_map_of_mem member
  obtain ⟨source, present, sameKey⟩ := List.mem_map.mp key
  rw [← sameKey]
  exact table.below source present

theorem update_of_match (table : Table ρ) (id : Nat) (matching : ρ → Bool) (set : ρ → ρ) (row : ρ)
    (found : table.get? id = some row) (matched : matching row = true) :
    table.update id matching set = (table.put (set row), 1) := by
  simp [update, found, matched]

theorem update_count (table : Table ρ) (id : Nat) (matching : ρ → Bool) (set : ρ → ρ) :
    (table.update id matching set).2 = 1 ↔ ∃ row, table.get? id = some row ∧ matching row = true := by
  unfold update
  cases found : table.get? id with
  | none => simp
  | some row => by_cases matched : matching row = true <;> simp [matched]

end Table

end Relational
