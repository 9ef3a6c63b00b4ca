/-
# Fs.CreateDir -- a directory and all that is missing above it

`create_dir_all` climbs from the path towards the root as long as `create_dir` says that
the parent is missing, and then creates what it has passed on its way, from the top down.

* A `FileTree` says what is at every path; whatever exists lies in a directory.  A path is
  its names from the last one to the first, so its parent is its tail, and the paths above
  it, itself included, are its suffixes.
* `CreateDir` is what is relied on of `create_dir`.  `CreateDir.posix` is one such.
* `climb_descend`: the two loops together turn every path above into a directory, whatever
  was on the stack before.
* `create_dir_all_spec`: success exactly if no file is in the way, and then nothing else has
  changed; otherwise nothing has changed at all.
-/
import Mathlib.Data.List.Infix
import Vibeio.Fs.Paths

namespace Vibeio.Fs

set_option autoImplicit false

open Vibeio.Driver (IoError ErrorKind ENOENT)

def ENOTDIR : Nat := 20

/-- `err.kind() == ErrorKind::AlreadyExists`. -/
def isAlreadyExists : IoError → Bool
  | .os code => code == EEXIST
  | .custom kind _ => kind == .alreadyExists

/-- `err.kind() == ErrorKind::NotFound`. -/
def isNotFound : IoError → Bool
  | .os code => code == ENOENT
  | .custom kind _ => kind == .notFound

section Tree

variable {Name : Type}

inductive Node where
  | directory
  | file
  deriving DecidableEq, Repr

@[ext] structure FileTree (Name : Type) where
  node : List Name → Option Node
  root : node [] = some .directory
  inDirectory : ∀ name parent, node (name :: parent) ≠ none → node parent = some .directory

namespace FileTree

/-- `metadata`. -/
def metadata (t : FileTree Name) (path : List Name) : Except IoError Node :=
  match t.node path with
  | some node => .ok node
  | none => .error (.os ENOENT)

/-- A path that is taken to be there already is looked at. -/
def isDir (t : FileTree Name) (path : List Name) : Bool :=
  match t.metadata path with
  | .ok node => node == .directory
  | .error _ => false

theorem isDir_eq (t : FileTree Name) (path : List Name) : t.isDir path = decide (t.node path = some .directory) := by
  unfold isDir metadata
  cases t.node path with
  | none => rfl
  | some node => cases node <;> rfl

/-- Everything above what exists is a directory. -/
theorem directory_above {t : FileTree Name} {path : List Name} (exists_ : t.node path ≠ none) {above : List Name}
    (suffix : above <:+ path) : above = path ∨ t.node above = some .directory := by
  induction path with
  | nil => exact .inl (List.eq_nil_of_suffix_nil suffix)
  | cons name parent ih =>
      rcases List.suffix_cons_iff.mp suffix with same | higher
      · exact .inl same
      · have holds := t.inDirectory name parent exists_
        rcases ih (by simp [holds]) higher with same | directory
        · exact .inr (same ▸ holds)
        · exact .inr directory

/-- A file is in the way: at the path or above it. -/
def Blocked (t : FileTree Name) (path : List Name) : Prop := ∃ above, above <:+ path ∧ t.node above = some .file

theorem any_tails_iff (t : FileTree Name) (path : List Name) :
    path.tails.any (fun above => t.node above == some .file) = true ↔ t.Blocked path := by
  simp [Blocked, List.any_eq_true, List.mem_tails]

/-- Nothing exists below a file. -/
theorem Blocked.below {t : FileTree Name} {parent : List Name} (blocked : t.Blocked parent) (name : Name) :
    t.node (name :: parent) = none ∧ t.node parent ≠ some .directory := by
  obtain ⟨above, suffix, file⟩ := blocked
  constructor
  · by_contra present
    rcases directory_above present (List.suffix_cons_iff.mpr (.inr suffix)) with same | directory
    · exact absurd (congrArg List.length same) (by have := suffix.length_le; simp; omega)
    · cases file.symm.trans directory
  · intro directory
    have present : t.node parent ≠ none := by simp [directory]
    rcases directory_above present suffix with same | directory'
    · rw [← same, file] at directory
      cases directory
    · cases file.symm.trans directory'

theorem Blocked.of_parent {t : FileTree Name} {name : Name} {parent : List Name} (blocked : t.Blocked parent) :
    t.Blocked (name :: parent) := by
  obtain ⟨above, suffix, file⟩ := blocked
  exact ⟨above, suffix.trans (List.suffix_cons name parent), file⟩

variable [DecidableEq Name]

/-- The tree with a directory put into a directory. -/
def insert (t : FileTree Name) (name : Name) (parent : List Name) (room : t.node parent = some .directory) :
    FileTree Name where
  node path := if path = name :: parent then some .directory else t.node path
  root := by simp [t.root]
  inDirectory other path present := by
    by_cases same : path = name :: parent
    · exact if_pos same
    · rw [if_neg same]
      by_cases new : other :: path = name :: parent
      · cases new
        exact room
      · rw [if_neg new] at present
        exact t.inDirectory other path present

/-- The tree with directories all the way to `path`. -/
def withDirectories (t : FileTree Name) (path : List Name) : FileTree Name where
  node above := if above <:+ path then some .directory else t.node above
  root := if_pos List.nil_suffix
  inDirectory name parent present := by
    by_cases above : parent <:+ path
    · exact if_pos above
    · have other : ¬ name :: parent <:+ path := fun within => above ((List.suffix_cons name parent).trans within)
      rw [if_neg above]
      rw [if_neg other] at present
      exact t.inDirectory name parent present

end FileTree

/-! ## `create_dir` -/

variable [DecidableEq Name]

/-- What is relied on of `create_dir`. -/
structure CreateDir (Name : Type) [DecidableEq Name] where
  create : FileTree Name → List Name → Except IoError Unit × FileTree Name
  made : ∀ (t : FileTree Name) (name : Name) (parent : List Name) (room : t.node parent = some .directory),
    t.node (name :: parent) = none → create t (name :: parent) = (.ok (), t.insert name parent room)
  present : ∀ (t : FileTree Name) (name : Name) (parent : List Name), t.node (name :: parent) ≠ none →
    ∃ err, create t (name :: parent) = (.error err, t) ∧ isAlreadyExists err = true
  missing : ∀ (t : FileTree Name) (name : Name) (parent : List Name), t.node parent = none → ¬ t.Blocked parent →
    ∃ err, create t (name :: parent) = (.error err, t) ∧ isAlreadyExists err = false ∧ isNotFound err = true
  blocked : ∀ (t : FileTree Name) (name : Name) (parent : List Name), t.Blocked parent →
    ∃ err, create t (name :: parent) = (.error err, t) ∧ isAlreadyExists err = false ∧ isNotFound err = false

/-- `mkdir(2)`. -/
def mkdir (t : FileTree Name) : List Name → Except IoError Unit × FileTree Name
  | [] => (.error (.os EEXIST), t)
  | name :: parent =>
      if (t.node (name :: parent)).isSome then (.error (.os EEXIST), t)
      else if room : t.node parent = some .directory then (.ok (), t.insert name parent room)
      else if parent.tails.any (fun above => t.node above == some .file) then (.error (.os ENOTDIR), t)
      else (.error (.os ENOENT), t)

def CreateDir.posix : CreateDir Name where
  create := mkdir
  made t name parent room missing := by simp [mkdir, missing, room]
  present t name parent present := by
    refine ⟨.os EEXIST, ?_, rfl⟩
    simp [mkdir, Option.isSome_iff_ne_none.mpr present]
  missing t name parent absent free := by
    refine ⟨.os ENOENT, ?_, rfl, rfl⟩
    have nothing : t.node (name :: parent) = none := by
      by_contra present
      have room := t.inDirectory name parent present
      rw [absent] at room
      cases room
    rw [← FileTree.any_tails_iff] at free
    simp [mkdir, nothing, absent, free]
  blocked t name parent blocked := by
    refine ⟨.os ENOTDIR, ?_, rfl, rfl⟩
    obtain ⟨nothing, closed⟩ := blocked.below name
    rw [← FileTree.any_tails_iff] at blocked
    simp [mkdir, nothing, closed, blocked]

/-! ## `create_dir_all` -/

/-- The first loop.  The result has the stack, the latest path pushed first. -/
def climb (api : CreateDir Name) (t : FileTree Name) :
    List Name → List (List Name) → Except IoError (List (List Name)) × FileTree Name
  | [], stack =>
      match api.create t [] with
      | (.ok (), t) => (.ok stack, t)
      | (.error err, t) =>
          if isAlreadyExists err then if t.isDir [] then (.ok stack, t) else (.error err, t)
          -- the root has no parent
          else (.error err, t)
  | name :: parent, stack =>
      match api.create t (name :: parent) with
      | (.ok (), t) => (.ok stack, t)
      | (.error err, t) =>
          if isAlreadyExists err then
            if t.isDir (name :: parent) then (.ok stack, t) else (.error err, t)
          else if isNotFound err then climb api t parent ((name :: parent) :: stack)
          else (.error err, t)

/-- The second loop. -/
def descend (api : CreateDir Name) (t : FileTree Name) : List (List Name) → Except IoError Unit × FileTree Name
  | [] => (.ok (), t)
  | path :: stack =>
      match api.create t path with
      | (.ok (), t) => descend api t stack
      | (.error err, t) =>
          if isAlreadyExists err then
            if t.isDir path then descend api t stack else (.error err, t)
          else (.error err, t)

/-- What follows the first loop. -/
def afterClimb (api : CreateDir Name) :
    Except IoError (List (List Name)) × FileTree Name → Except IoError Unit × FileTree Name
  | (.ok stack, t) => descend api t stack
  | (.error err, t) => (.error err, t)

def createDirAll (api : CreateDir Name) (t : FileTree Name) (path : List Name) : Except IoError Unit × FileTree Name :=
  afterClimb api (climb api t path [])

/-! ## Both loops -/

variable {t : FileTree Name}

theorem FileTree.node_withDirectories {above path : List Name} (suffix : above <:+ path) :
    (t.withDirectories path).node above = some .directory := if_pos suffix

/-- Where a path exists and no file is in the way, all directories are there. -/
theorem FileTree.withDirectories_of_present {path : List Name} (present : t.node path ≠ none)
    (free : ¬ t.Blocked path) : t.withDirectories path = t := by
  ext1
  funext above
  simp only [withDirectories, ite_eq_right_iff]
  intro suffix
  rcases directory_above present suffix with rfl | directory
  · cases here : t.node above with
    | none => exact absurd here present
    | some node =>
        cases node with
        | directory => rfl
        | file => exact absurd ⟨above, suffix, here⟩ free
  · exact directory.symm

/-- One directory more. -/
theorem FileTree.insert_withDirectories (t : FileTree Name) (name : Name) (parent : List Name)
    (room : (t.withDirectories parent).node parent = some .directory) :
    (t.withDirectories parent).insert name parent room = t.withDirectories (name :: parent) := by
  ext1
  funext above
  simp only [insert, withDirectories, List.suffix_cons_iff]
  by_cases last : above = name :: parent
  · rw [if_pos last, if_pos (.inl last)]
  · by_cases higher : above <:+ parent
    · rw [if_neg last, if_pos higher, if_pos (.inr higher)]
    · rw [if_neg last, if_neg higher, if_neg (by simp [last, higher])]

/-- The second loop with a path on top of its stack whose parent is there. -/
theorem descend_cons (api : CreateDir Name) (name : Name) (parent : List Name) (stack : List (List Name))
    (absent : t.node (name :: parent) = none) :
    descend api (t.withDirectories parent) ((name :: parent) :: stack) =
      descend api (t.withDirectories (name :: parent)) stack := by
  have room := FileTree.node_withDirectories (t := t) (List.suffix_refl parent)
  have below : ¬ name :: parent <:+ parent := fun suffix => by
    have length := suffix.length_le
    simp only [List.length_cons] at length
    omega
  have absent' : (t.withDirectories parent).node (name :: parent) = none := by
    simp only [FileTree.withDirectories, if_neg below, absent]
  rw [descend, api.made _ name parent room absent', FileTree.insert_withDirectories]

/-- **The two loops**: from a path with no file in the way, and whatever was on the stack,
they make every path above it a directory and go on with the stack. -/
theorem climb_descend (api : CreateDir Name) (path : List Name) (named : path ≠ []) (free : ¬ t.Blocked path)
    (stack : List (List Name)) :
    afterClimb api (climb api t path stack) = descend api (t.withDirectories path) stack := by
  induction path generalizing stack with
  | nil => exact absurd rfl named
  | cons name parent ih =>
      have free' : ¬ t.Blocked parent := fun blocked => free blocked.of_parent
      by_cases absent : t.node (name :: parent) = none
      · cases above : t.node parent with
        | none =>
            -- the parent is missing: one step up, and later down again
            obtain ⟨err, refused, taken, missing⟩ := api.missing t name parent above free'
            have named' : parent ≠ [] := by
              rintro rfl
              rw [t.root] at above
              cases above
            simp only [climb, refused, taken, missing, if_true, Bool.false_eq_true, if_false]
            rw [ih named' free', descend_cons api name parent stack absent]
        | some node =>
            cases node with
            | file => exact absurd ⟨parent, List.suffix_rfl, above⟩ free'
            | directory =>
                have here : t.withDirectories parent = t :=
                  FileTree.withDirectories_of_present (by simp [above]) free'
                simp only [climb, api.made t name parent above absent, afterClimb]
                rw [← descend_cons api name parent stack absent, here, descend,
                  api.made t name parent above absent]
      · obtain ⟨err, refused, taken⟩ := api.present t name parent absent
        have whole := FileTree.withDirectories_of_present absent free
        have directory : t.node (name :: parent) = some .directory := by
          rw [← whole]
          exact FileTree.node_withDirectories List.suffix_rfl
        simp only [climb, refused, taken, if_true, FileTree.isDir_eq, directory, decide_true, afterClimb, whole]

theorem createDirAll_free (api : CreateDir Name) {path : List Name} (named : path ≠ []) (free : ¬ t.Blocked path) :
    createDirAll api t path = (.ok (), t.withDirectories path) := by
  rw [createDirAll, climb_descend api path named free]
  rfl

/-- With a file in the way nothing is created. -/
theorem createDirAll_blocked (api : CreateDir Name) {path : List Name} (named : path ≠ []) (blocked : t.Blocked path) :
    ∃ err, createDirAll api t path = (.error err, t) := by
  cases path with
  | nil => exact absurd rfl named
  | cons name parent =>
      by_cases absent : t.node (name :: parent) = none
      · have higher : t.Blocked parent := by
          obtain ⟨above, suffix, file⟩ := blocked
          rcases List.suffix_cons_iff.mp suffix with rfl | suffix'
          · cases absent.symm.trans file
          · exact ⟨above, suffix', file⟩
        obtain ⟨err, refused, taken, missing⟩ := api.blocked t name parent higher
        refine ⟨err, ?_⟩
        simp only [createDirAll, climb, refused, taken, missing, Bool.false_eq_true, if_false, afterClimb]
      · obtain ⟨err, refused, taken⟩ := api.present t name parent absent
        have file : t.node (name :: parent) ≠ some .directory := by
          intro directory
          obtain ⟨above, suffix, file⟩ := blocked
          rcases FileTree.directory_above absent suffix with rfl | directory'
          · cases file.symm.trans directory
          · cases file.symm.trans directory'
        refine ⟨err, ?_⟩
        simp only [createDirAll, climb, refused, taken, if_true, FileTree.isDir_eq, decide_eq_false file,
          Bool.false_eq_true, if_false, afterClimb]

/-- **`create_dir_all`** on any tree and any path that has a name: it ends, successfully if and
only if there is no file at the path or above it; then these are all directories, nothing
else has changed and a second call changes nothing; and if it fails nothing has changed. -/
theorem create_dir_all_spec (api : CreateDir Name) (t : FileTree Name) (name : Name) (parent : List Name) :
    ((createDirAll api t (name :: parent)).1 = .ok () ↔
      ∀ above, above <:+ name :: parent → t.node above ≠ some .file) ∧
    ((createDirAll api t (name :: parent)).1 = .ok () →
      (∀ path, (createDirAll api t (name :: parent)).2.node path =
        if path <:+ name :: parent then some .directory else t.node path) ∧
      createDirAll api (createDirAll api t (name :: parent)).2 (name :: parent) =
        (.ok (), (createDirAll api t (name :: parent)).2)) ∧
    (∀ err, (createDirAll api t (name :: parent)).1 = .error err → (createDirAll api t (name :: parent)).2 = t) := by
  have named : name :: parent ≠ [] := List.cons_ne_nil _ _
  by_cases blocked : t.Blocked (name :: parent)
  · obtain ⟨err, failed⟩ := createDirAll_blocked api named blocked
    rw [failed]
    refine ⟨⟨fun ended => (by cases ended), fun free => ?_⟩, fun ended => (by cases ended), fun _ _ => rfl⟩
    obtain ⟨above, suffix, file⟩ := blocked
    exact absurd file (free above suffix)
  · rw [createDirAll_free api named blocked]
    refine ⟨⟨fun _ above suffix file => blocked ⟨above, suffix, file⟩, fun _ => rfl⟩, fun _ => ⟨fun _ => rfl, ?_⟩,
      fun err failed => (by cases failed)⟩
    have free : ¬ (t.withDirectories (name :: parent)).Blocked (name :: parent) := by
      rintro ⟨above, suffix, file⟩
      rw [FileTree.node_withDirectories suffix] at file
      cases file
    have present : (t.withDirectories (name :: parent)).node (name :: parent) ≠ none := by
      rw [FileTree.node_withDirectories List.suffix_rfl]
      exact Option.some_ne_none _
    rw [createDirAll_free api named free, FileTree.withDirectories_of_present present free]

end Tree

/-- An empty tree, and a path of three names in it. -/
theorem create_dir_all_spec_example :
    ((createDirAll .posix (⟨fun path => if path = [] then some .directory else none, rfl, by simp⟩ : FileTree Nat)
        [3, 2, 1]).2.node [2, 1]) = some .directory := by
  have spec := create_dir_all_spec .posix
    (⟨fun path => if path = [] then some .directory else none, rfl, by simp⟩ : FileTree Nat) 3 [2, 1]
  have ended := spec.1.mpr (by
    intro above _
    show (if above = [] then some Node.directory else none) ≠ some Node.file
    split <;> simp)
  rw [(spec.2.1 ended).1 [2, 1]]
  rfl

end Vibeio.Fs
