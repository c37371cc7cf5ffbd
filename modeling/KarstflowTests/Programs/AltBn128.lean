import KarstflowTests.Library.LittleEndian
import KarstflowTests.Library.PrimeCertificate
import Mathlib.AlgebraicGeometry.EllipticCurve.Affine.Point

/-!
# The alt_bn128 group

The curve `y ^ 2 = x ^ 3 + 3` over the alt_bn128 field, the 64-byte form of its
points, and what programs rely on when they ask the runtime for an operation
of the group.
-/

namespace KarstflowTests.Programs

open KarstflowTests.Library

/-! ## The field -/

def fieldModulus : ℕ :=
  21888242871839275222246405745257275088696311157297823662689037894645226208583

def fieldCertificate : List CertificateLine :=
  [⟨fieldModulus, 3,
        [2, 3, 3, 13, 29, 67, 229, 311, 983, 11003, 405928799, 11465965001,
          13427688667394608761327070753331941386769]⟩,
    ⟨13427688667394608761327070753331941386769, 17,
        [2, 2, 2, 2, 3, 7, 11, 1853641, 4562087, 173171039, 2480874801745591]⟩,
    ⟨2480874801745591, 6, [2, 3, 3, 5, 19, 41, 35385462869]⟩,
    ⟨35385462869, 2, [2, 2, 7, 1263766531]⟩,
    ⟨11465965001, 3, [2, 2, 2, 5, 5, 5, 5, 7, 327599]⟩,
    ⟨1263766531, 10, [2, 3, 5, 13, 911, 3557]⟩,
    ⟨405928799, 22, [2, 11, 3691, 4999]⟩,
    ⟨173171039, 13, [2, 73, 89, 13327]⟩,
    ⟨4562087, 5, [2, 17, 109, 1231]⟩,
    ⟨1853641, 17, [2, 2, 2, 3, 3, 5, 19, 271]⟩,
    ⟨327599, 19, [2, 19, 37, 233]⟩,
    ⟨13327, 3, [2, 3, 2221]⟩,
    ⟨11003, 2, [2, 5501]⟩,
    ⟨5501, 2, [2, 2, 5, 5, 5, 11]⟩,
    ⟨4999, 3, [2, 3, 7, 7, 17]⟩,
    ⟨3691, 2, [2, 3, 3, 5, 41]⟩,
    ⟨3557, 2, [2, 2, 7, 127]⟩,
    ⟨2221, 2, [2, 2, 3, 5, 37]⟩,
    ⟨1231, 3, [2, 3, 5, 41]⟩,
    ⟨983, 5, [2, 491]⟩,
    ⟨911, 17, [2, 5, 7, 13]⟩,
    ⟨491, 2, [2, 5, 7, 7]⟩,
    ⟨311, 17, [2, 5, 31]⟩,
    ⟨271, 6, [2, 3, 3, 3, 5]⟩,
    ⟨233, 3, [2, 2, 2, 29]⟩,
    ⟨229, 6, [2, 2, 3, 19]⟩,
    ⟨127, 3, [2, 3, 3, 7]⟩,
    ⟨109, 6, [2, 2, 3, 3, 3]⟩,
    ⟨89, 3, [2, 2, 2, 11]⟩,
    ⟨73, 5, [2, 2, 2, 3, 3]⟩,
    ⟨67, 2, [2, 3, 11]⟩,
    ⟨41, 6, [2, 2, 2, 5]⟩,
    ⟨37, 2, [2, 2, 3, 3]⟩,
    ⟨31, 3, [2, 3, 5]⟩,
    ⟨29, 2, [2, 2, 7]⟩,
    ⟨19, 2, [2, 3, 3]⟩,
    ⟨17, 3, [2, 2, 2, 2]⟩,
    ⟨13, 2, [2, 2, 3]⟩,
    ⟨11, 2, [2, 5]⟩,
    ⟨7, 3, [2, 3]⟩,
    ⟨5, 2, [2, 2]⟩,
    ⟨3, 2, [2]⟩,
    ⟨2, 1, []⟩]

theorem prime_fieldModulus : fieldModulus.Prime := by
  have valid : certificateValid fieldCertificate = true := by
    decide +kernel
  exact prime_of_certificateValid valid _ List.mem_cons_self

instance : Fact fieldModulus.Prime :=
  ⟨prime_fieldModulus⟩

abbrev Coordinate := ZMod fieldModulus

/-! ## The curve -/

def altBn128 : WeierstrassCurve Coordinate where
  a₁ := 0
  a₂ := 0
  a₃ := 0
  a₄ := 0
  a₆ := 3

abbrev Point := altBn128.toAffine.Point

theorem discriminant_eq : altBn128.Δ = -((3888 : ℕ) : Coordinate) := by
  simp only [WeierstrassCurve.Δ, WeierstrassCurve.b₂, WeierstrassCurve.b₄,
    WeierstrassCurve.b₆, WeierstrassCurve.b₈, altBn128]
  norm_num

theorem discriminant_ne_zero : altBn128.Δ ≠ 0 := by
  intro zero
  rw [discriminant_eq, neg_eq_zero, ZMod.natCast_eq_zero_iff] at zero
  have small : fieldModulus ≤ 3888 := Nat.le_of_dvd (by decide) zero
  exact absurd small (by decide)

def OnCurve (x y : Coordinate) : Prop :=
  y ^ 2 = x ^ 3 + 3

instance (x y : Coordinate) : Decidable (OnCurve x y) :=
  inferInstanceAs (Decidable (y ^ 2 = x ^ 3 + 3))

theorem equation_iff_onCurve (x y : Coordinate) :
    altBn128.toAffine.Equation x y ↔ OnCurve x y := by
  have equation := altBn128.toAffine.equation_iff x y
  simpa only [altBn128, zero_mul, add_zero, OnCurve] using equation

theorem nonsingular_iff_onCurve {x y : Coordinate} :
    altBn128.toAffine.Nonsingular x y ↔ OnCurve x y := by
  rw [← equation_iff_onCurve]
  exact
    (altBn128.toAffine.equation_iff_nonsingular_of_Δ_ne_zero
      discriminant_ne_zero).symm

/-! ## The bytes of a point -/

/-- Two big-endian coordinates; zeros for the point at infinity. -/
def encodePoint : Point → Bytes
  | .zero => List.replicate 64 0
  | .some x y _ => beBytes 32 x.val ++ beBytes 32 y.val

def decodePoint (data : Bytes) : Option Point :=
  let x := beValue (data.take 32)
  let y := beValue (data.drop 32)
  if x = 0 ∧ y = 0 then
    some .zero
  else if x < fieldModulus ∧ y < fieldModulus then
    if valid : OnCurve x y then
      some (.some x y (nonsingular_iff_onCurve.mpr valid))
    else
      none
  else
    none

theorem length_encodePoint (point : Point) :
    (encodePoint point).length = 64 := by
  cases point with
  | zero => rfl
  | some x y valid =>
      rw [encodePoint, List.length_append, length_beBytes, length_beBytes]

theorem fieldModulus_lt : fieldModulus < 256 ^ 32 := by
  decide

theorem beValue_coordinate (x : Coordinate) :
    beValue (beBytes 32 x.val) = x.val :=
  beValue_beBytes ((ZMod.val_lt x).trans fieldModulus_lt)

theorem not_onCurve_zero {y : Coordinate} (zero : y = 0) :
    ¬ OnCurve 0 y := by
  intro valid
  rw [OnCurve, zero] at valid
  have three : ((3 : ℕ) : Coordinate) = 0 := by
    simpa using valid.symm
  rw [ZMod.natCast_eq_zero_iff] at three
  have small : fieldModulus ≤ 3 := Nat.le_of_dvd (by decide) three
  exact absurd small (by decide)

theorem decodePoint_encodePoint (point : Point) :
    decodePoint (encodePoint point) = some point := by
  cases point with
  | zero => rfl
  | some x y valid =>
      have front :
          (beBytes 32 x.val ++ beBytes 32 y.val).take 32 = beBytes 32 x.val :=
        List.take_left' (length_beBytes 32 x.val)
      have back :
          (beBytes 32 x.val ++ beBytes 32 y.val).drop 32 = beBytes 32 y.val :=
        List.drop_left' (length_beBytes 32 x.val)
      have nonzero : ¬ (x.val = 0 ∧ y.val = 0) := by
        intro zeros
        have xZero : x = 0 := (ZMod.val_eq_zero x).mp zeros.1
        have yZero : y = 0 := (ZMod.val_eq_zero y).mp zeros.2
        rw [nonsingular_iff_onCurve, xZero] at valid
        exact not_onCurve_zero yZero valid
      have inField : x.val < fieldModulus ∧ y.val < fieldModulus :=
        ⟨ZMod.val_lt x, ZMod.val_lt y⟩
      have same : OnCurve (x.val : Coordinate) (y.val : Coordinate) := by
        rw [ZMod.natCast_zmod_val, ZMod.natCast_zmod_val]
        exact nonsingular_iff_onCurve.mp valid
      simp only [decodePoint, encodePoint, front, back, beValue_coordinate]
      rw [if_neg nonzero, if_pos inField, dif_pos same]
      simp only [ZMod.natCast_zmod_val]

/-! ## The group operation of the runtime -/

inductive GroupOpReply where
  /-- the return code, and what was written to the result buffer -/
  | returned (code : ℕ) (result : Bytes)
  | aborted
  deriving DecidableEq

abbrev GroupOp := ℕ → Bytes → GroupOpReply

/-- What a program relies on: 0 adds two points, 2 multiplies a point by a
big-endian scalar, and 1, subtraction, is not supported. -/
structure GroupRuntime (groupOp : GroupOp) : Prop where
  adds :
    ∀ first second : Point,
      groupOp 0 (encodePoint first ++ encodePoint second) =
        .returned 0 (encodePoint (first + second))
  multiplies :
    ∀ (point : Point) (scalar : BitVec 256),
      groupOp 2 (encodePoint point ++ beBytes 32 scalar.toNat) =
        .returned 0 (encodePoint (scalar.toNat • point))
  subtraction_unsupported :
    ∀ input result, groupOp 1 input ≠ .returned 0 result

/-- A runtime that computes the two operations; pairings, which it lacks, are
not asked for by any program here. -/
def referenceGroupOp : GroupOp := fun operation input =>
  match operation with
  | 0 =>
      match decodePoint (input.take 64), decodePoint (input.drop 64) with
      | some first, some second =>
          .returned 0 (encodePoint (first + second))
      | _, _ => .returned 1 []
  | 2 =>
      match decodePoint (input.take 64) with
      | some point =>
          .returned 0 (encodePoint (beValue (input.drop 64) • point))
      | none => .returned 1 []
  | _ => .aborted

theorem groupRuntime_reference : GroupRuntime referenceGroupOp where
  adds := by
    intro first second
    have front :
        (encodePoint first ++ encodePoint second).take 64 =
          encodePoint first :=
      List.take_left' (length_encodePoint first)
    have back :
        (encodePoint first ++ encodePoint second).drop 64 =
          encodePoint second :=
      List.drop_left' (length_encodePoint first)
    simp only [referenceGroupOp, front, back, decodePoint_encodePoint]
  multiplies := by
    intro point scalar
    have front :
        (encodePoint point ++ beBytes 32 scalar.toNat).take 64 =
          encodePoint point :=
      List.take_left' (length_encodePoint point)
    have back :
        (encodePoint point ++ beBytes 32 scalar.toNat).drop 64 =
          beBytes 32 scalar.toNat :=
      List.drop_left' (length_encodePoint point)
    have fits : scalar.toNat < 256 ^ 32 := scalar.isLt
    simp only [referenceGroupOp, front, back, decodePoint_encodePoint,
      beValue_beBytes fits]
  subtraction_unsupported := by
    intro input result impossible
    cases impossible

end KarstflowTests.Programs
