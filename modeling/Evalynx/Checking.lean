import Mathlib.Init

/-! Checks made one after the other, each of which returns what it read or raises. -/

namespace Checking

variable {ε ε' α β : Type}

theorem bind_ok (first : Except ε α) (next : α → Except ε β) (result : β) :
    first >>= next = .ok result ↔ ∃ value, first = .ok value ∧ next value = .ok result := by
  cases first with
  | error raised =>
      constructor
      · intro parsed
        cases parsed
      · intro given
        rcases given with ⟨value, same, -⟩
        cases same
  | ok value =>
      constructor
      · intro parsed
        exact ⟨value, rfl, parsed⟩
      · intro given
        rcases given with ⟨other, same, parsed⟩
        cases same
        exact parsed

theorem pure_ok (value result : α) : (pure value : Except ε α) = .ok result ↔ value = result := by
  constructor
  · intro same
    exact Except.ok.inj same
  · rintro rfl
    rfl

theorem mapError_ok (describe : ε → ε') (checked : Except ε α) (result : α) :
    checked.mapError describe = .ok result ↔ checked = .ok result := by
  cases checked with
  | error raised =>
      constructor
      · intro same
        cases same
      · intro same
        cases same
  | ok value =>
      constructor
      · intro same
        cases same
        rfl
      · intro same
        cases same
        rfl

def raiseIf (bad : Prop) [Decidable bad] (error : ε) : Except ε Unit :=
  if bad then .error error else .ok ()

theorem raiseIf_ok (bad : Prop) [Decidable bad] (error : ε) (done : Unit) :
    raiseIf bad error = .ok done ↔ ¬ bad := by
  by_cases broken : bad <;> simp [raiseIf, broken]

/-- `[check(index, item) for index, item in enumerate(items, start)]` -/
def readAll (check : Nat → β → Except ε α) : Nat → List β → Except ε (List α)
  | _, [] => return []
  | index, item :: items => do
      let value ← check index item
      let values ← readAll check (index + 1) items
      return value :: values

theorem readAll_ok {check : Nat → β → Except ε α} {encode : α → β}
    (reads : ∀ index item value, check index item = .ok value ↔ item = encode value)
    (index : Nat) (items : List β) (values : List α) :
    readAll check index items = .ok values ↔ items = values.map encode := by
  induction items generalizing index values with
  | nil =>
      rw [readAll, pure_ok]
      cases values <;> simp
  | cons item items ih =>
      rw [readAll, bind_ok]
      constructor
      · intro given
        rcases given with ⟨value, first, tail⟩
        obtain ⟨rest, others, last⟩ := (bind_ok _ _ _).mp tail
        have same := (pure_ok _ _).mp last
        rw [← same, List.map_cons, ← (reads index item value).mp first, ← (ih _ _).mp others]
      · intro encoded
        cases values with
        | nil => cases encoded
        | cons value rest =>
            obtain ⟨rfl, rfl⟩ := List.cons.inj encoded
            refine ⟨value, (reads _ _ _).mpr rfl, (bind_ok _ _ _).mpr ⟨rest, ?_, rfl⟩⟩
            exact (ih _ _).mpr rfl

theorem foldlM_ok {step : β → α → Except ε β} {invariant : List α → β → Prop}
    (advances : ∀ item rest state, invariant (item :: rest) state →
      ∃ next, step state item = .ok next ∧ invariant rest next)
    (items : List α) (state : β) (holds : invariant items state) :
    ∃ final, items.foldlM step state = .ok final ∧ invariant [] final := by
  induction items generalizing state with
  | nil => exact ⟨state, rfl, holds⟩
  | cons item rest ih =>
      obtain ⟨next, stepped, kept⟩ := advances item rest state holds
      obtain ⟨final, looped, done⟩ := ih next kept
      refine ⟨final, ?_, done⟩
      calc
        (item :: rest).foldlM step state = step state item >>= rest.foldlM step :=
          List.foldlM_cons
        _ = rest.foldlM step next := by rw [stepped]; rfl
        _ = .ok final := looped

theorem foldlM_rounds {step : β → α → Except ε β} {items : List α} {state final : β}
    (looped : items.foldlM step state = .ok final) :
    ∀ item ∈ items, ∃ before after, step before item = .ok after := by
  induction items generalizing state with
  | nil =>
      intro item member
      cases member
  | cons item rest ih =>
      rw [List.foldlM_cons] at looped
      obtain ⟨next, stepped, looped⟩ := (bind_ok _ _ _).mp looped
      intro other member
      rcases List.mem_cons.mp member with rfl | later
      · exact ⟨state, next, stepped⟩
      · exact ih looped other later

def RaisesOnly (allowed : ε → Prop) (checked : Except ε α) : Prop :=
  ∀ error, checked = .error error → allowed error

section Raises

variable {allowed : ε → Prop}

theorem raisesOnly_ok (value : α) : RaisesOnly allowed (.ok value : Except ε α) := by
  intro error raised
  cases raised

theorem raisesOnly_pure (value : α) : RaisesOnly allowed (pure value : Except ε α) :=
  raisesOnly_ok value

theorem raisesOnly_error (error : ε) :
    RaisesOnly allowed (.error error : Except ε α) ↔ allowed error := by
  constructor
  · intro raises
    exact raises error rfl
  · intro fits other raised
    cases raised
    exact fits

theorem raisesOnly_iff_ok {checked : Except ε α}
    (never : RaisesOnly (fun error => ¬ allowed error) checked) :
    RaisesOnly allowed checked ↔ ∃ value, checked = .ok value := by
  cases checked with
  | error error =>
      constructor
      · intro raises
        exact absurd (raises error rfl) (never error rfl)
      · intro given
        rcases given with ⟨value, same⟩
        cases same
  | ok value =>
      constructor
      · intro _
        exact ⟨value, rfl⟩
      · intro _
        exact raisesOnly_ok value

theorem raisesOnly_bind (first : Except ε α) (next : α → Except ε β) :
    RaisesOnly allowed (first >>= next) ↔
      RaisesOnly allowed first ∧ ∀ value, first = .ok value → RaisesOnly allowed (next value) := by
  cases first with
  | error error =>
      constructor
      · intro raises
        refine ⟨(raisesOnly_error error).mpr (raises error rfl), ?_⟩
        intro value same
        cases same
      · intro given other raised
        cases raised
        exact given.1 error rfl
  | ok value =>
      constructor
      · intro raises
        refine ⟨raisesOnly_ok value, ?_⟩
        intro other same
        cases same
        exact raises
      · intro given
        exact given.2 value rfl

theorem raisesOnly_read {first : Except ε α} {value : α} (read : first = .ok value)
    (next : α → Except ε β) :
    RaisesOnly allowed (first >>= next) ↔ RaisesOnly allowed (next value) := by
  rw [read]
  rfl

theorem raisesOnly_mapError {allowed : ε' → Prop} (describe : ε → ε') (checked : Except ε α) :
    RaisesOnly allowed (checked.mapError describe) ↔
      RaisesOnly (fun error => allowed (describe error)) checked := by
  cases checked with
  | error error =>
      constructor
      · intro raises
        exact (raisesOnly_error error).mpr (raises _ rfl)
      · intro raises
        exact (raisesOnly_error _).mpr (raises error rfl)
  | ok value =>
      constructor
      · intro _
        exact raisesOnly_ok value
      · intro _
        exact raisesOnly_ok value

theorem raisesOnly_raiseIf (bad : Prop) [Decidable bad] {error : ε} (fits : allowed error) :
    RaisesOnly allowed (raiseIf bad error) := by
  by_cases broken : bad
  · rw [raiseIf, if_pos broken]
    exact (raisesOnly_error error).mpr fits
  · rw [raiseIf, if_neg broken]
    exact raisesOnly_ok ()

theorem raisesOnly_readAll {check : Nat → β → Except ε α}
    (each : ∀ index item, RaisesOnly allowed (check index item)) (index : Nat) (items : List β) :
    RaisesOnly allowed (readAll check index items) := by
  induction items generalizing index with
  | nil => exact raisesOnly_pure []
  | cons item items ih =>
      refine (raisesOnly_bind _ _).mpr ⟨each index item, ?_⟩
      intro value _
      refine (raisesOnly_bind _ _).mpr ⟨ih (index + 1), ?_⟩
      intro values _
      exact raisesOnly_pure (value :: values)

end Raises

end Checking
