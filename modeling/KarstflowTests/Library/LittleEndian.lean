import Mathlib.Tactic.Ring

/-!
# Fixed-width numbers
-/

namespace KarstflowTests.Library

abbrev Bytes := List UInt8

/-- The low `width` bytes of a number, least significant byte first. -/
def leBytes : (width value : ℕ) → Bytes
  | 0, _ => []
  | width + 1, value =>
      UInt8.ofNat (value % 256) :: leBytes width (value / 256)

/-- The number with the given little-endian bytes. -/
def leValue : Bytes → ℕ
  | [] => 0
  | byte :: bytes => byte.toNat + 256 * leValue bytes

@[simp]
theorem length_leBytes (width value : ℕ) :
    (leBytes width value).length = width := by
  induction width generalizing value with
  | zero => rfl
  | succ width inductionHypothesis =>
      rw [leBytes, List.length_cons, inductionHypothesis]

theorem leValue_leBytes_mod (width value : ℕ) :
    leValue (leBytes width value) = value % 256 ^ width := by
  induction width generalizing value with
  | zero =>
      rw [pow_zero, Nat.mod_one]
      rfl
  | succ width inductionHypothesis =>
      have byteBound : value % 256 < 2 ^ 8 := Nat.mod_lt _ (by decide)
      rw [leBytes, leValue, inductionHypothesis, UInt8.toNat_ofNat',
        Nat.mod_eq_of_lt byteBound, pow_succ', Nat.mod_mul]

theorem leValue_leBytes {width value : ℕ} (bound : value < 256 ^ width) :
    leValue (leBytes width value) = value := by
  rw [leValue_leBytes_mod, Nat.mod_eq_of_lt bound]

theorem leValue_lt (bytes : Bytes) : leValue bytes < 256 ^ bytes.length := by
  induction bytes with
  | nil => exact Nat.one_pos
  | cons byte bytes inductionHypothesis =>
      have byteBound : byte.toNat < 256 := byte.toNat_lt
      rw [leValue, List.length_cons, pow_succ']
      omega

/-- Only the low bytes of a number matter. -/
theorem leBytes_mod (width value : ℕ) :
    leBytes width (value % 256 ^ width) = leBytes width value := by
  induction width generalizing value with
  | zero => rfl
  | succ width inductionHypothesis =>
      have low : value % 256 ^ (width + 1) % 256 = value % 256 :=
        Nat.mod_mod_of_dvd value (Dvd.intro_left (256 ^ width) rfl)
      have high :
          value % 256 ^ (width + 1) / 256 = value / 256 % 256 ^ width := by
        rw [pow_succ', Nat.mod_mul_right_div_self]
      rw [leBytes, leBytes, low, high, inductionHypothesis]

/-- Read a number of `width` bytes from the front. -/
def readLe (width : ℕ) (data : Bytes) : Option (ℕ × Bytes) :=
  if width ≤ data.length then
    some (leValue (data.take width), data.drop width)
  else
    none

theorem readLe_leBytes_append
    {width value : ℕ} (fits : value < 256 ^ width) (rest : Bytes) :
    readLe width (leBytes width value ++ rest) = some (value, rest) := by
  have longEnough : width ≤ (leBytes width value ++ rest).length := by
    rw [List.length_append, length_leBytes]
    exact Nat.le_add_right width rest.length
  have front : (leBytes width value ++ rest).take width =
      leBytes width value :=
    List.take_left' (length_leBytes width value)
  have back : (leBytes width value ++ rest).drop width = rest :=
    List.drop_left' (length_leBytes width value)
  rw [readLe, if_pos longEnough, front, back, leValue_leBytes fits]

/-! ## Big-endian -/

/-- The low `width` bytes of a number, most significant byte first. -/
def beBytes (width value : ℕ) : Bytes :=
  (leBytes width value).reverse

def beValue (bytes : Bytes) : ℕ :=
  leValue bytes.reverse

@[simp]
theorem length_beBytes (width value : ℕ) :
    (beBytes width value).length = width := by
  rw [beBytes, List.length_reverse, length_leBytes]

theorem beValue_beBytes
    {width value : ℕ} (fits : value < 256 ^ width) :
    beValue (beBytes width value) = value := by
  rw [beValue, beBytes, List.reverse_reverse, leValue_leBytes fits]

end KarstflowTests.Library
