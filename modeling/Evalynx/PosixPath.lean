import Mathlib.Data.List.Basic
import Mathlib.Data.List.Infix

/-! Pure POSIX paths of `pathlib`: a root and the components below it. -/

namespace Posix

def IsComponent (name : List Char) : Prop := '/' ∉ name ∧ name ≠ [] ∧ name ≠ ['.']

instance (name : List Char) : Decidable (IsComponent name) :=
  inferInstanceAs (Decidable (_ ∧ _ ∧ _))

/-- Two slashes at the start are a root of their own, three or more are one slash. -/
inductive Root where
  | relative
  | slash
  | doubleSlash
  deriving DecidableEq, Repr

def Root.text : Root → List Char
  | .relative => []
  | .slash => ['/']
  | .doubleSlash => ['/', '/']

@[ext]
structure PurePath where
  root : Root
  parts : List (List Char)
  components : ∀ name ∈ parts, IsComponent name

theorem splitOn_clean (c : Char) (cs : List Char) : ∀ name ∈ cs.splitOn c, c ∉ name := by
  induction cs with
  | nil =>
      intro name member
      rw [List.splitOn_nil, List.mem_singleton] at member
      simp [member]
  | cons d cs ih =>
      intro name member
      rw [List.splitOn_cons_eq_if_modifyHead] at member
      split at member
      · rcases List.mem_cons.mp member with rfl | later
        · exact List.not_mem_nil
        · exact ih name later
      · rename_i other
        cases rest : cs.splitOn c with
        | nil => simp [rest] at member
        | cons first others =>
            rw [rest, List.modifyHead_cons] at member
            rcases List.mem_cons.mp member with rfl | later
            · have clean := ih first (rest ▸ List.mem_cons_self)
              rw [beq_iff_eq] at other
              simp [clean, Ne.symm other]
            · exact ih name (rest ▸ List.mem_cons_of_mem _ later)

namespace PurePath

def rootOf : List Char → Root
  | '/' :: '/' :: '/' :: _ => .slash
  | '/' :: '/' :: _ => .doubleSlash
  | '/' :: _ => .slash
  | _ => .relative

def parse (text : String) : PurePath where
  root := rootOf text.toList
  parts := (text.toList.splitOn '/').filter (fun name => name ≠ [] ∧ name ≠ ['.'])
  components := by
    intro name member
    obtain ⟨piece, proper⟩ := List.mem_filter.mp member
    exact ⟨splitOn_clean '/' _ name piece, of_decide_eq_true proper⟩

def asPosix (path : PurePath) : String :=
  match path.root, path.parts with
  | .relative, [] => "."
  | root, parts => String.ofList (root.text ++ ['/'].intercalate parts)

def isAbsolute (path : PurePath) : Bool := path.root ≠ .relative

def join (base path : PurePath) : PurePath :=
  if path.isAbsolute then path
  else
    { root := base.root
      parts := base.parts ++ path.parts
      components := by
        intro name member
        rcases List.mem_append.mp member with front | back
        · exact base.components name front
        · exact path.components name back }

/-- `path.relative_to(base)`; `none` is the ValueError. -/
def relativeTo (path base : PurePath) : Option PurePath :=
  if base.root = path.root ∧ base.parts <+: path.parts then
    some
      { root := .relative
        parts := path.parts.drop base.parts.length
        components := fun name member => path.components name (List.mem_of_mem_drop member) }
  else none

def Inside (base path : PurePath) : Prop := base.root = path.root ∧ base.parts <+: path.parts

instance (base path : PurePath) : Decidable (Inside base path) :=
  inferInstanceAs (Decidable (_ ∧ _))

theorem relativeTo_eq_none (path base : PurePath) :
    path.relativeTo base = none ↔ ¬ Inside base path := by
  unfold relativeTo Inside
  split
  · rename_i inside
    simp [inside]
  · rename_i outside
    simp [outside]

theorem isAbsolute_eq_false (path : PurePath) : path.isAbsolute = false ↔ path.root = .relative := by
  simp [isAbsolute]

theorem join_relative (base path : PurePath) (relative : path.root = .relative) :
    (base.join path).root = base.root ∧ (base.join path).parts = base.parts ++ path.parts := by
  rw [join, if_neg (by simp [isAbsolute, relative])]
  exact ⟨rfl, rfl⟩

theorem join_absolute (base path : PurePath) (absolute : path.isAbsolute = true) :
    base.join path = path := by
  rw [join, if_pos absolute]

theorem join_candidate (base path : PurePath) :
    (if path.isAbsolute then path else base.join path) = base.join path := by
  by_cases absolute : path.isAbsolute = true
  · rw [if_pos absolute, join_absolute base path absolute]
  · rw [if_neg absolute]

theorem relativeTo_eq_some (path base rest : PurePath) :
    path.relativeTo base = some rest ↔ rest.root = .relative ∧ base.join rest = path := by
  constructor
  · intro stripped
    unfold relativeTo at stripped
    split at stripped
    · rename_i inside
      obtain rfl := Option.some.inj stripped
      refine ⟨rfl, ?_⟩
      obtain ⟨root, parts⟩ := base.join_relative
        ⟨.relative, path.parts.drop base.parts.length, fun name member =>
          path.components name (List.mem_of_mem_drop member)⟩ rfl
      apply PurePath.ext
      · exact root.trans inside.1
      · rw [parts]
        exact (List.prefix_append_drop inside.2).symm
    · cases stripped
  · intro given
    rcases given with ⟨relative, rfl⟩
    obtain ⟨root, parts⟩ := base.join_relative rest relative
    have inside : base.root = (base.join rest).root ∧ base.parts <+: (base.join rest).parts :=
      ⟨root.symm, parts ▸ List.prefix_append _ _⟩
    rw [relativeTo, if_pos inside]
    congr 1
    apply PurePath.ext
    · exact relative.symm
    · simp only [parts, List.drop_left]

theorem rootOf_relative (cs : List Char) (front : cs.head? ≠ some '/') : rootOf cs = .relative := by
  cases cs with
  | nil => rfl
  | cons c cs =>
      have other : c ≠ '/' := by simpa using front
      unfold rootOf
      split <;> simp_all

section Relative

variable (path : PurePath) (relative : path.root = .relative) (below : path.parts ≠ [])

include relative below

theorem asPosix_relative : path.asPosix = String.ofList (['/'].intercalate path.parts) := by
  unfold asPosix
  split
  · rename_i parts
    exact absurd parts below
  · rw [relative]
    rfl

theorem asPosix_splitOn : path.asPosix.toList.splitOn '/' = path.parts := by
  rw [asPosix_relative path relative below, String.toList_ofList]
  exact List.splitOn_intercalate '/' (fun name member => (path.components name member).1) below

theorem parse_asPosix : parse path.asPosix = path := by
  have pieces := asPosix_splitOn path relative below
  have parts : (parse path.asPosix).parts = path.parts := by
    have split : (parse path.asPosix).parts =
        (path.asPosix.toList.splitOn '/').filter (fun name => name ≠ [] ∧ name ≠ ['.']) := rfl
    rw [split, pieces]
    apply List.filter_eq_self.mpr
    intro name member
    exact decide_eq_true (path.components name member).2
  have root : (parse path.asPosix).root = path.root := by
    rw [relative]
    apply rootOf_relative
    intro slash
    cases text : path.asPosix.toList with
    | nil => simp [text] at slash
    | cons c cs =>
        rw [text, List.head?_cons, Option.some.injEq] at slash
        subst slash
        rw [text, List.splitOn_cons_eq_if_modifyHead, beq_self_eq_true, if_pos rfl] at pieces
        have empty : [] ∈ path.parts := pieces ▸ List.mem_cons_self
        exact (path.components [] empty).2.1 rfl
  exact PurePath.ext root parts

end Relative

end PurePath

end Posix
