import Mathlib

/-!
# Directories with atomic operations

A directory maps names to files. A file keeps its identity when it is renamed or when its name is
taken by another file, and it can be read and written by whoever holds it open even when it has no
name any more. Identities are never used again.
-/

/-- The names, the contents of all files there ever were, and the next identity. -/
structure FileTable (ν γ : Type) where
  dir : ν → Option Nat
  files : Nat → γ
  next : Nat

namespace FileTable

variable {ν γ : Type} [DecidableEq ν]

/-- Create a file under a name. -/
def create (fs : FileTable ν γ) (name : ν) (content : γ) : FileTable ν γ where
  dir := Function.update fs.dir name (some fs.next)
  files := Function.update fs.files fs.next content
  next := fs.next + 1

/-- Write to an open file. -/
def write (fs : FileTable ν γ) (id : Nat) (content : γ) : FileTable ν γ :=
  { fs with files := Function.update fs.files id content }

/-- Remove a name. -/
def unlink (fs : FileTable ν γ) (name : ν) : FileTable ν γ :=
  { fs with dir := Function.update fs.dir name none }

/-- Move a file to another name, in place of the file there. -/
def rename (fs : FileTable ν γ) (source target : ν) : FileTable ν γ :=
  { fs with
    dir := Function.update (Function.update fs.dir source none) target (fs.dir source) }

/-- Every name belongs to a file that was created. -/
def Bounded (fs : FileTable ν γ) : Prop := ∀ name id, fs.dir name = some id → id < fs.next

section

variable (fs : FileTable ν γ) (name other source target : ν) (id held : Nat) (content : γ)

theorem dir_create :
    (fs.create name content).dir other = if other = name then some fs.next else fs.dir other :=
  Function.update_apply _ _ _ _

theorem files_create_of_lt (old : held < fs.next) :
    (fs.create name content).files held = fs.files held :=
  Function.update_of_ne old.ne _ _

@[simp] theorem files_create_self : (fs.create name content).files fs.next = content :=
  Function.update_self _ _ _

@[simp] theorem next_create : (fs.create name content).next = fs.next + 1 := rfl

omit [DecidableEq ν] in
@[simp] theorem dir_write : (fs.write id content).dir = fs.dir := rfl

omit [DecidableEq ν] in
@[simp] theorem next_write : (fs.write id content).next = fs.next := rfl

omit [DecidableEq ν] in
@[simp] theorem files_write_self : (fs.write id content).files id = content :=
  Function.update_self _ _ _

omit [DecidableEq ν] in
theorem files_write_of_ne (different : held ≠ id) :
    (fs.write id content).files held = fs.files held :=
  Function.update_of_ne different _ _

theorem dir_unlink : (fs.unlink name).dir other = if other = name then none else fs.dir other :=
  Function.update_apply _ _ _ _

@[simp] theorem files_unlink : (fs.unlink name).files = fs.files := rfl

@[simp] theorem next_unlink : (fs.unlink name).next = fs.next := rfl

theorem dir_rename : (fs.rename source target).dir other =
    if other = target then fs.dir source else if other = source then none else fs.dir other := by
  rw [rename]
  dsimp only
  rw [Function.update_apply, Function.update_apply]

@[simp] theorem files_rename : (fs.rename source target).files = fs.files := rfl

@[simp] theorem next_rename : (fs.rename source target).next = fs.next := rfl

end

variable {fs : FileTable ν γ} {name source target : ν} {id : Nat} {content : γ}

theorem Bounded.create (bounded : fs.Bounded) : (fs.create name content).Bounded := by
  intro other held found
  rw [dir_create] at found
  rw [next_create]
  split at found
  · rw [← Option.some.inj found]
    exact Nat.lt_succ_self _
  · exact Nat.lt_succ_of_lt (bounded other held found)

omit [DecidableEq ν] in
theorem Bounded.write (bounded : fs.Bounded) : (fs.write id content).Bounded := bounded

theorem Bounded.unlink (bounded : fs.Bounded) : (fs.unlink name).Bounded := by
  intro other held found
  rw [dir_unlink] at found
  split at found
  · cases found
  · exact bounded other held found

theorem Bounded.rename (bounded : fs.Bounded) : (fs.rename source target).Bounded := by
  intro other held found
  rw [dir_rename] at found
  split at found
  · exact bounded source held found
  · split at found
    · cases found
    · exact bounded other held found

end FileTable
