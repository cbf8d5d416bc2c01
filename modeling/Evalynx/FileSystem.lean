import Evalynx.PosixPath

/-! What `pathlib` asks the file system, and what it promises about the answers. -/

namespace Posix

inductive FileKind where
  | regular
  | directory
  | other
  deriving DecidableEq, Repr

/-- `home` is `os.path.expanduser` on a component that starts with "~", and `none` where it finds no
home directory. `resolve` is `path.resolve(strict=False)`. `stat` is what `exists`, `is_file` and
`is_dir` go by. An error is the text of an exception. -/
structure FileSystem where
  home : List Char → Option PurePath
  resolve : PurePath → Except String PurePath
  stat : PurePath → Except String (Option FileKind)

namespace PurePath

def startsTilde (path : PurePath) : Bool :=
  !path.isAbsolute && path.parts.head?.bind List.head? == some '~'

def tail (path : PurePath) : PurePath where
  root := .relative
  parts := path.parts.tail
  components := fun name member => path.components name (List.mem_of_mem_tail member)

def underHome (fs : FileSystem) (path : PurePath) : Option PurePath :=
  (fs.home (path.parts.headD [])).map (fun home => home.join path.tail)

def expandUser (fs : FileSystem) (path : PurePath) : Except String PurePath :=
  if path.startsTilde then
    match path.underHome fs with
    | some expanded => .ok expanded
    | none => .error "Could not determine home directory."
  else .ok path

theorem expandUser_plain (fs : FileSystem) (path : PurePath) (plain : path.startsTilde = false) :
    path.expandUser fs = .ok path := by
  rw [expandUser, plain, if_neg Bool.false_ne_true]

theorem expandUser_tilde (fs : FileSystem) (path expanded : PurePath)
    (tilde : path.startsTilde = true) :
    path.expandUser fs = .ok expanded ↔ path.underHome fs = some expanded := by
  rw [expandUser, if_pos tilde]
  cases path.underHome fs <;> simp

end PurePath

namespace FileSystem

/-- What `resolve` promises: an absolute path without "..", which stands for itself. -/
structure Lawful (fs : FileSystem) : Prop where
  absolute : ∀ path resolved, fs.resolve path = .ok resolved → resolved.isAbsolute = true
  dotless : ∀ path resolved, fs.resolve path = .ok resolved → ['.', '.'] ∉ resolved.parts
  idempotent : ∀ path resolved, fs.resolve path = .ok resolved → fs.resolve resolved = .ok resolved

def climb : List (List Char) → List (List Char) → List (List Char)
  | walked, [] => walked
  | walked, name :: names =>
      if name = ['.', '.'] then climb walked.dropLast names else climb (walked ++ [name]) names

theorem climb_mem (walked names : List (List Char)) :
    ∀ name ∈ climb walked names, name ∈ walked ∨ (name ∈ names ∧ name ≠ ['.', '.']) := by
  induction names generalizing walked with
  | nil => exact fun name member => Or.inl member
  | cons first names ih =>
      intro name member
      rw [climb] at member
      split at member
      · rcases ih _ name member with old | ⟨later, proper⟩
        · exact Or.inl (List.mem_of_mem_dropLast old)
        · exact Or.inr ⟨List.mem_cons_of_mem _ later, proper⟩
      · rename_i proper
        rcases ih _ name member with old | ⟨later, other⟩
        · rcases List.mem_append.mp old with old | last
          · exact Or.inl old
          · rw [List.mem_singleton] at last
            exact Or.inr ⟨last ▸ List.mem_cons_self, last ▸ proper⟩
        · exact Or.inr ⟨List.mem_cons_of_mem _ later, other⟩

theorem climb_dotless (walked names : List (List Char)) (dotless : ['.', '.'] ∉ names) :
    climb walked names = walked ++ names := by
  induction names generalizing walked with
  | nil => rw [climb, List.append_nil]
  | cons first names ih =>
      rw [List.mem_cons, not_or] at dotless
      rw [climb, if_neg (Ne.symm dotless.1), ih _ dotless.2, List.append_assoc]
      rfl

def climbed (path : PurePath) : PurePath where
  root := .slash
  parts := climb [] path.parts
  components := by
    intro name member
    rcases climb_mem [] path.parts name member with nothing | ⟨here, -⟩
    · cases nothing
    · exact path.components name here

/-- Every path is below the root directory, the working directory too, and nothing is a link. -/
def plain (home : List Char → Option PurePath) (entries : List (List (List Char) × FileKind)) :
    FileSystem where
  home := home
  resolve := fun path => .ok (climbed path)
  stat := fun path => .ok (entries.lookup (climbed path).parts)

theorem plain_lawful (home : List Char → Option PurePath)
    (entries : List (List (List Char) × FileKind)) : (plain home entries).Lawful where
  absolute := by
    intro path resolved same
    obtain rfl := Except.ok.inj same
    rfl
  dotless := by
    intro path resolved same
    obtain rfl := Except.ok.inj same
    intro member
    rcases climb_mem [] path.parts _ member with nothing | ⟨-, other⟩
    · cases nothing
    · exact other rfl
  idempotent := by
    intro path resolved same
    obtain rfl := Except.ok.inj same
    have dotless : ['.', '.'] ∉ climb [] path.parts := by
      intro member
      rcases climb_mem [] path.parts _ member with nothing | ⟨-, other⟩
      · cases nothing
      · exact other rfl
    have twice : climbed (climbed path) = climbed path :=
      PurePath.ext rfl (climb_dotless [] _ dotless)
    exact congrArg Except.ok twice

end FileSystem

end Posix
