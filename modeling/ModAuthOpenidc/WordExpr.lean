import Mathlib

/-!
# Arithmetic of machine words

An expression over fixed-width integers has two readings: the value that the machine computes,
reduced after every operation, and the value over the integers. The two agree when no operation
leaves the range of its type. What an expression says about memory is said about regions, which are
intervals of addresses.
-/

/-- An integer type, by its width in bits. -/
inductive IntType
  | unsigned (bits : Nat)
  | signed (bits : Nat)
  deriving DecidableEq, Repr

namespace IntType

/-- The values of a type. -/
def InRange : IntType → Int → Prop
  | unsigned bits, n => 0 ≤ n ∧ n < 2 ^ bits
  | signed bits, n => -(((2 ^ bits : Nat) : Int) / 2) ≤ n ∧ n < (((2 ^ bits : Nat) : Int) + 1) / 2

@[simp] theorem inRange_unsigned (bits : Nat) (n : Int) :
    (unsigned bits).InRange n ↔ 0 ≤ n ∧ n < 2 ^ bits := Iff.rfl

@[simp] theorem inRange_signed (bits : Nat) (n : Int) :
    (signed bits).InRange n ↔
      -(((2 ^ bits : Nat) : Int) / 2) ≤ n ∧ n < (((2 ^ bits : Nat) : Int) + 1) / 2 := Iff.rfl

/-- Conversion to a type. -/
def wrap : IntType → Int → Int
  | unsigned bits, n => n % 2 ^ bits
  | signed bits, n => n.bmod (2 ^ bits)

theorem wrap_of_inRange {type : IntType} {n : Int} (inside : type.InRange n) : type.wrap n = n := by
  cases type with
  | unsigned bits => exact Int.emod_eq_of_lt inside.1 inside.2
  | signed bits =>
      obtain ⟨low, high⟩ := inside
      exact Int.bmod_eq_of_le low high

end IntType

/-- The operations that can leave the range of a type. -/
inductive WordOp
  | add
  | sub
  | mul
  deriving DecidableEq, Repr

/-- An operation over the integers. -/
def WordOp.apply : WordOp → Int → Int → Int
  | add, a, b => a + b
  | sub, a, b => a - b
  | mul, a, b => a * b

/-- An expression over machine words. -/
inductive WordExpr
  /-- An operand. -/
  | value (n : Int)
  /-- A conversion. -/
  | cast (type : IntType) (expr : WordExpr)
  /-- An operation carried out in a type. -/
  | binary (op : WordOp) (type : IntType) (left right : WordExpr)
  /-- Clear low bits: `expr & ~(2 ^ bits - 1)`. -/
  | clearLow (bits : Nat) (expr : WordExpr)
  deriving DecidableEq, Repr

namespace WordExpr

/-- What the machine computes. -/
def machine : WordExpr → Int
  | value n => n
  | cast type expr => type.wrap expr.machine
  | binary op type left right => type.wrap (op.apply left.machine right.machine)
  | clearLow bits expr => expr.machine / 2 ^ bits * 2 ^ bits

/-- The value over the integers. -/
def exact : WordExpr → Int
  | value n => n
  | cast _ expr => expr.exact
  | binary op _ left right => op.apply left.exact right.exact
  | clearLow bits expr => expr.exact / 2 ^ bits * 2 ^ bits

/-- No conversion and no operation leaves the range of its type. -/
def NoWrap : WordExpr → Prop
  | value _ => True
  | cast type expr => expr.NoWrap ∧ type.InRange expr.exact
  | binary op type left right =>
      left.NoWrap ∧ right.NoWrap ∧ type.InRange (op.apply left.exact right.exact)
  | clearLow _ expr => expr.NoWrap

section

variable (type : IntType) (expr left right : WordExpr) (bits : Nat) (n : Int)

@[simp] theorem exact_value : (value n).exact = n := rfl

@[simp] theorem exact_cast : (cast type expr).exact = expr.exact := rfl

@[simp] theorem exact_add : (binary .add type left right).exact = left.exact + right.exact := rfl

@[simp] theorem exact_sub : (binary .sub type left right).exact = left.exact - right.exact := rfl

@[simp] theorem exact_mul : (binary .mul type left right).exact = left.exact * right.exact := rfl

@[simp] theorem exact_clearLow :
    (clearLow bits expr).exact = expr.exact / 2 ^ bits * 2 ^ bits := rfl

@[simp] theorem noWrap_value : (value n).NoWrap := trivial

@[simp] theorem noWrap_cast :
    (cast type expr).NoWrap ↔ expr.NoWrap ∧ type.InRange expr.exact := Iff.rfl

@[simp] theorem noWrap_add : (binary .add type left right).NoWrap ↔
    left.NoWrap ∧ right.NoWrap ∧ type.InRange (left.exact + right.exact) := Iff.rfl

@[simp] theorem noWrap_sub : (binary .sub type left right).NoWrap ↔
    left.NoWrap ∧ right.NoWrap ∧ type.InRange (left.exact - right.exact) := Iff.rfl

@[simp] theorem noWrap_mul : (binary .mul type left right).NoWrap ↔
    left.NoWrap ∧ right.NoWrap ∧ type.InRange (left.exact * right.exact) := Iff.rfl

@[simp] theorem noWrap_clearLow : (clearLow bits expr).NoWrap ↔ expr.NoWrap := Iff.rfl

end

/-- Without a wrap the machine computes the value over the integers. -/
theorem machine_eq_exact {expr : WordExpr} (fits : expr.NoWrap) : expr.machine = expr.exact := by
  induction expr with
  | value n => rfl
  | cast type expr ih =>
      obtain ⟨inner, inside⟩ := fits
      rw [machine, ih inner, IntType.wrap_of_inRange inside, exact]
  | binary op type left right ihLeft ihRight =>
      obtain ⟨leftFits, rightFits, inside⟩ := fits
      rw [machine, ihLeft leftFits, ihRight rightFits, IntType.wrap_of_inRange inside, exact]
  | clearLow bits expr ih => rw [machine, ih fits, exact]

end WordExpr

/-! ## Regions of memory -/

/-- An interval of addresses. -/
structure Region where
  start : Int
  size : Int
  deriving DecidableEq, Repr

namespace Region

/-- The first address behind a region. -/
def stop (region : Region) : Int := region.start + region.size

/-- No address belongs to both regions. -/
def Disjoint (region other : Region) : Prop := region.stop ≤ other.start ∨ other.stop ≤ region.start

/-- A part of a region. -/
def Inside (region whole : Region) : Prop := whole.start ≤ region.start ∧ region.stop ≤ whole.stop

theorem Disjoint.symm {region other : Region} (apart : region.Disjoint other) :
    other.Disjoint region :=
  Or.symm apart

/-- Parts of disjoint regions are disjoint. -/
theorem Disjoint.mono {region other whole whole' : Region} (apart : whole.Disjoint whole')
    (inside : region.Inside whole) (inside' : other.Inside whole') : region.Disjoint other := by
  obtain ⟨low, high⟩ := inside
  obtain ⟨low', high'⟩ := inside'
  rcases apart with before | behind
  · exact .inl (by omega)
  · exact .inr (by omega)

theorem Inside.trans {region whole outer : Region} (inside : region.Inside whole)
    (outside : whole.Inside outer) : region.Inside outer :=
  ⟨outside.1.trans inside.1, inside.2.trans outside.2⟩

/-- Consecutive regions of one size. -/
def array (start size : Int) (count : Nat) : List Region :=
  (List.range count).map fun i : Nat => ⟨start + i * size, size⟩

variable {start size : Int}

theorem array_pairwise (start : Int) (positive : 0 ≤ size) (count : Nat) :
    (array start size count).Pairwise Disjoint := by
  rw [array, List.pairwise_map]
  apply List.pairwise_lt_range.imp
  intro i j before
  have room : ((i : Int) + 1) * size ≤ j * size :=
    Int.mul_le_mul_of_nonneg_right (by omega) positive
  left
  rw [stop]
  dsimp only
  rw [Int.add_mul] at room
  omega

theorem array_inside (positive : 0 ≤ size) {count : Nat} {region : Region}
    (member : region ∈ array start size count) : region.Inside ⟨start, count * size⟩ := by
  obtain ⟨i, bound, rfl⟩ := List.mem_map.mp member
  rw [List.mem_range] at bound
  have before : 0 ≤ (i : Int) * size := Int.mul_nonneg (by omega) positive
  have room : ((i : Int) + 1) * size ≤ count * size :=
    Int.mul_le_mul_of_nonneg_right (by omega) positive
  rw [Int.add_mul] at room
  constructor
  · dsimp only
    omega
  · rw [stop, stop]
    dsimp only
    omega

theorem array_aligned {unit : Int} (aligned : unit ∣ start) (whole : unit ∣ size) {count : Nat}
    {region : Region} (member : region ∈ array start size count) : unit ∣ region.start := by
  obtain ⟨i, -, rfl⟩ := List.mem_map.mp member
  exact Dvd.dvd.add aligned (Dvd.dvd.mul_left whole _)

end Region
