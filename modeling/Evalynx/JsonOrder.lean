import Evalynx.Json
import Mathlib.Data.List.Sort

/-! Values up to the order of object members, and the sorted form that stands for each. -/

namespace Json

mutual

def sortKeys : Json → Json
  | .arr items => .arr (sortItems items)
  | .obj members => .obj ((sortMembers members).insertionSort (fun a b => a.1 ≤ b.1))
  | .null => .null
  | .bool b => .bool b
  | .int n => .int n
  | .float x => .float x
  | .str s => .str s
termination_by structural value => value

def sortItems : List Json → List Json
  | [] => []
  | item :: items => sortKeys item :: sortItems items
termination_by structural items => items

def sortMembers : List (String × Json) → List (String × Json)
  | [] => []
  | (key, value) :: members => (key, sortKeys value) :: sortMembers members
termination_by structural members => members

end

/-- The same value up to the order of object members at every depth: the least equivalence
that lets members be permuted and reaches inside arrays and objects. -/
inductive Reorders : Json → Json → Prop where
  | refl (value : Json) : Reorders value value
  | symm {first second : Json} : Reorders first second → Reorders second first
  | trans {first second third : Json} : Reorders first second → Reorders second third →
      Reorders first third
  | permute {first second : JsonObject} : first.Perm second → Reorders (.obj first) (.obj second)
  | item (front back : List Json) {first second : Json} : Reorders first second →
      Reorders (.arr (front ++ first :: back)) (.arr (front ++ second :: back))
  | member (front back : JsonObject) (key : String) {first second : Json} :
      Reorders first second →
      Reorders (.obj (front ++ (key, first) :: back)) (.obj (front ++ (key, second) :: back))

theorem sortItems_map (items : List Json) : sortItems items = items.map sortKeys := by
  induction items with
  | nil => rfl
  | cons item items ih => simp [sortItems, ih]

theorem sortMembers_map (members : JsonObject) :
    sortMembers members = members.map fun member => (member.1, member.2.sortKeys) := by
  induction members with
  | nil => rfl
  | cons member members ih => simp [sortMembers, ih]

theorem sortMembers_keys (members : JsonObject) :
    (sortMembers members).map Prod.fst = members.keys := by
  simp only [sortMembers_map, List.map_map, JsonObject.keys]
  rfl

theorem reorders_items (front items : List Json) (f : Json → Json)
    (each : ∀ item ∈ items, Reorders item (f item)) :
    Reorders (.arr (front ++ items)) (.arr (front ++ items.map f)) := by
  induction items generalizing front with
  | nil => exact .refl _
  | cons item items ih =>
      have first : Reorders (.arr (front ++ item :: items)) (.arr (front ++ f item :: items)) :=
        .item front items (each item List.mem_cons_self)
      have rest := ih (front ++ [f item]) fun other member =>
        each other (List.mem_cons_of_mem _ member)
      rw [List.append_assoc, List.append_assoc] at rest
      exact .trans first rest

theorem reorders_members (front members : JsonObject) (f : Json → Json)
    (each : ∀ member ∈ members, Reorders member.2 (f member.2)) :
    Reorders (.obj (front ++ members))
      (.obj (front ++ members.map fun member => (member.1, f member.2))) := by
  induction members generalizing front with
  | nil => exact .refl _
  | cons member members ih =>
      have first : Reorders (.obj (front ++ member :: members))
          (.obj (front ++ (member.1, f member.2) :: members)) :=
        .member front members member.1 (each member List.mem_cons_self)
      have rest := ih (front ++ [(member.1, f member.2)]) fun other present =>
        each other (List.mem_cons_of_mem _ present)
      rw [List.append_assoc, List.append_assoc] at rest
      exact .trans first rest

theorem reorders_sortKeys (value : Json) : Reorders value value.sortKeys := by
  induction value using Json.induct with
  | arr items ih =>
      rw [sortKeys, sortItems_map]
      exact reorders_items [] items sortKeys ih
  | obj members ih =>
      have inside := reorders_members [] members sortKeys ih
      rw [List.nil_append, List.nil_append, ← sortMembers_map] at inside
      rw [sortKeys]
      exact .trans inside (.permute (List.perm_insertionSort _ _).symm)
  | null | bool | int | float | str => exact .refl _

theorem distinctKeys_of_reorders {first second : Json} (same : Reorders first second) :
    first.distinctKeys = true ↔ second.distinctKeys = true := by
  induction same with
  | refl => exact Iff.rfl
  | symm _ ih => exact ih.symm
  | trans _ _ left right => exact left.trans right
  | permute perm =>
      rw [distinctKeys_obj, distinctKeys_obj, JsonObject.keys, JsonObject.keys,
        (perm.map Prod.fst).nodup_iff]
      simp only [perm.mem_iff]
  | item front back _ ih =>
      rw [distinctKeys_arr, distinctKeys_arr]
      simp only [List.mem_append, List.mem_cons, or_imp, forall_and, forall_eq, ih]
  | member front back key _ ih =>
      rw [distinctKeys_obj, distinctKeys_obj]
      simp only [JsonObject.keys, List.map_append, List.map_cons, List.mem_append, List.mem_cons,
        or_imp, forall_and, forall_eq, ih]

theorem sorted_pairwise (members : JsonObject) :
    (members.insertionSort (fun a b => a.1 ≤ b.1)).Pairwise (fun a b => a.1 ≤ b.1) := by
  have total : Std.Total (fun a b : String × Json => a.1 ≤ b.1) := ⟨fun a b => String.le_total a.1 b.1⟩
  have transitive : IsTrans (String × Json) (fun a b => a.1 ≤ b.1) :=
    ⟨fun _ _ _ first second => String.le_trans first second⟩
  exact List.pairwise_insertionSort _ _

theorem sort_eq_of_perm (first second : JsonObject) (perm : first.Perm second)
    (distinct : first.keys.Nodup) :
    first.insertionSort (fun a b => a.1 ≤ b.1) = second.insertionSort (fun a b => a.1 ≤ b.1) := by
  have same : (first.insertionSort (fun a b => a.1 ≤ b.1)).Perm
      (second.insertionSort (fun a b => a.1 ≤ b.1)) := by
    calc
      List.Perm _ first := List.perm_insertionSort _ first
      List.Perm _ second := perm
      List.Perm _ _ := (List.perm_insertionSort _ second).symm
  apply List.Perm.eq_of_pairwise _ (sorted_pairwise first) (sorted_pairwise second) same
  intro a b left right le ge
  have inFirst : a ∈ first := (List.mem_insertionSort _).mp left
  have inSecond : b ∈ first := perm.mem_iff.mpr ((List.mem_insertionSort _).mp right)
  exact List.inj_on_of_nodup_map distinct inFirst inSecond (String.le_antisymm le ge)

theorem sortKeys_eq_of_reorders {first second : Json} (same : Reorders first second)
    (distinct : first.distinctKeys = true) : first.sortKeys = second.sortKeys := by
  induction same with
  | refl => rfl
  | symm inner ih => exact (ih ((distinctKeys_of_reorders inner).mpr distinct)).symm
  | trans inner _ left right =>
      exact (left distinct).trans (right ((distinctKeys_of_reorders inner).mp distinct))
  | permute perm =>
      have keys := ((distinctKeys_obj _).mp distinct).1
      rw [sortKeys, sortKeys]
      congr 1
      apply sort_eq_of_perm
      · rw [sortMembers_map, sortMembers_map]
        exact perm.map _
      · rw [JsonObject.keys, sortMembers_keys]
        exact keys
  | item front back _ ih =>
      have each := (distinctKeys_arr _).mp distinct
      have inner := ih (each _ (List.mem_append_right _ List.mem_cons_self))
      simp only [sortKeys, sortItems_map, List.map_append, List.map_cons, inner]
  | member front back key _ ih =>
      have each := ((distinctKeys_obj _).mp distinct).2
      have inner := ih (each (key, _) (List.mem_append_right _ List.mem_cons_self))
      simp only [sortKeys, sortMembers_map, List.map_append, List.map_cons, inner]

theorem distinctKeys_sortKeys (value : Json) :
    value.sortKeys.distinctKeys = true ↔ value.distinctKeys = true :=
  (distinctKeys_of_reorders (reorders_sortKeys value)).symm

theorem sortKeys_sortKeys (value : Json) (distinct : value.distinctKeys = true) :
    value.sortKeys.sortKeys = value.sortKeys :=
  (sortKeys_eq_of_reorders (reorders_sortKeys value) distinct).symm

theorem sortKeys_eq_iff (first second : Json) (distinct : first.distinctKeys = true) :
    first.sortKeys = second.sortKeys ↔ Reorders first second := by
  constructor
  · intro same
    have back := (reorders_sortKeys second).symm
    rw [← same] at back
    exact .trans (reorders_sortKeys first) back
  · intro same
    exact sortKeys_eq_of_reorders same distinct

end Json

def JsonObject.sortKeys (members : JsonObject) : JsonObject :=
  (Json.sortMembers members).insertionSort (fun a b => a.1 ≤ b.1)

theorem Json.sortKeys_obj (members : JsonObject) :
    (Json.obj members).sortKeys = .obj members.sortKeys := rfl

theorem lookup_iff_mem {κ ν : Type} [BEq κ] [LawfulBEq κ] {entries : List (κ × ν)}
    (distinct : (entries.map Prod.fst).Nodup) (key : κ) (value : ν) :
    entries.lookup key = some value ↔ (key, value) ∈ entries := by
  induction entries with
  | nil => simp
  | cons entry entries ih =>
      rcases entry with ⟨name, stored⟩
      rw [List.map_cons, List.nodup_cons] at distinct
      by_cases same : key = name
      · have later : (key, value) ∉ entries := by
          intro present
          exact distinct.1 (List.mem_map.mpr ⟨(key, value), present, same⟩)
        rw [same, List.lookup_cons_self, ← same, List.mem_cons, or_iff_left later, Option.some.injEq,
          Prod.mk.injEq, and_iff_right rfl, eq_comm]
      · have other : (key == name) = false := by simp [same]
        rw [List.lookup_cons, other, List.mem_cons, Prod.mk.injEq, ih distinct.2]
        simp [same]

theorem JsonObject.sortKeys_keys (members : JsonObject) :
    (JsonObject.keys members.sortKeys).Perm (JsonObject.keys members) := by
  have sorted := List.perm_insertionSort (fun a b => a.1 ≤ b.1) (Json.sortMembers members)
  rw [← Json.sortMembers_keys members]
  exact sorted.map Prod.fst

theorem JsonObject.get_sortKeys {members : JsonObject} (distinct : members.keys.Nodup)
    (key : String) : JsonObject.get members.sortKeys key = (members.get key).sortKeys := by
  have keys := (JsonObject.sortKeys_keys members).nodup_iff.mpr distinct
  cases found : members.lookup key with
  | none =>
      have absent : List.lookup key members.sortKeys = none := by
        cases kept : List.lookup key members.sortKeys with
        | none => rfl
        | some value =>
            have present := (lookup_iff_mem keys key value).mp kept
            have member : (key, value) ∈ Json.sortMembers members :=
              (List.mem_insertionSort _).mp present
            rw [Json.sortMembers_map] at member
            rcases List.mem_map.mp member with ⟨entry, listed, same⟩
            have name : entry.1 = key := congrArg Prod.fst same
            have stored := (lookup_iff_mem distinct entry.1 entry.2).mpr listed
            rw [name, found] at stored
            cases stored
      rw [JsonObject.get, JsonObject.get, absent, found]
      rfl
  | some value =>
      have listed := (lookup_iff_mem distinct key value).mp found
      have member : (key, value.sortKeys) ∈ Json.sortMembers members := by
        rw [Json.sortMembers_map]
        exact List.mem_map.mpr ⟨(key, value), listed, rfl⟩
      have present : (key, value.sortKeys) ∈ members.sortKeys :=
        (List.mem_insertionSort _).mpr member
      rw [JsonObject.get, JsonObject.get, found, (lookup_iff_mem keys key _).mpr present]
      rfl

theorem Json.get_of_reorders {first second : JsonObject}
    (same : Json.Reorders (.obj first) (.obj second))
    (distinct : (Json.obj first).distinctKeys = true) (key : String) :
    (first.get key).sortKeys = (second.get key).sortKeys := by
  have secondDistinct := (Json.distinctKeys_of_reorders same).mp distinct
  have sorted : first.sortKeys = second.sortKeys :=
    Json.obj.inj (Json.sortKeys_eq_of_reorders same distinct)
  rw [← JsonObject.get_sortKeys ((Json.distinctKeys_obj _).mp distinct).1 key, sorted,
    JsonObject.get_sortKeys ((Json.distinctKeys_obj _).mp secondDistinct).1 key]
