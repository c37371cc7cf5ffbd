import Mathlib.Data.List.Prime
import Mathlib.NumberTheory.LucasPrimality

/-!
# Prime certificates

A certificate lists numbers, each with a primitive root and with the prime
factors of its predecessor, which come later in the list.  Checking a
certificate is a computation; the numbers of a valid one are prime.
-/

namespace KarstflowTests.Library

/-- `base ^ exponent % modulus` for an exponent below `2 ^ digits`. -/
def powMod (modulus base : ℕ) : (digits exponent : ℕ) → ℕ
  | 0, _ => 1 % modulus
  | digits + 1, exponent =>
      let half := powMod modulus base digits (exponent / 2)
      if exponent % 2 = 0 then
        half * half % modulus
      else
        half * half % modulus * base % modulus

theorem powMod_eq (modulus base : ℕ) {digits : ℕ} :
    ∀ {exponent : ℕ}, exponent < 2 ^ digits →
      powMod modulus base digits exponent = base ^ exponent % modulus := by
  induction digits with
  | zero =>
      intro exponent bound
      have zero : exponent = 0 := by simpa using bound
      rw [zero, pow_zero]
      rfl
  | succ digits inductionHypothesis =>
      intro exponent bound
      have halfBound : exponent / 2 < 2 ^ digits := by
        rw [pow_succ] at bound
        omega
      have square :
          base ^ (exponent / 2) % modulus * (base ^ (exponent / 2) % modulus) %
              modulus =
            base ^ (2 * (exponent / 2)) % modulus := by
        rw [← Nat.mul_mod, ← pow_two, ← pow_mul, Nat.mul_comm 2]
      rw [powMod, inductionHypothesis halfBound, square]
      by_cases even : exponent % 2 = 0
      · rw [if_pos even, Nat.mul_div_cancel' (Nat.dvd_of_mod_eq_zero even)]
      · have odd : exponent = 2 * (exponent / 2) + 1 := by omega
        rw [if_neg even, Nat.mod_mul_mod, ← pow_succ, ← odd]

structure CertificateLine where
  number : ℕ
  root : ℕ
  /-- the prime factors of `number - 1`, with multiplicity -/
  factors : List ℕ

/-- Lucas's test, with the factors among the given numbers. -/
def CertificateLine.passes
    (line : CertificateLine) (known : List ℕ) : Bool :=
  let power := powMod line.number line.root (line.number.log2 + 1)
  2 ≤ line.number && line.factors.prod == line.number - 1 &&
    power (line.number - 1) == 1 &&
    line.factors.all fun factor =>
      known.contains factor && power ((line.number - 1) / factor) != 1

/-- Every line passes, with factors among the lines that follow it. -/
def certificateValid : List CertificateLine → Bool
  | [] => true
  | line :: lines =>
      line.passes (lines.map CertificateLine.number) &&
        certificateValid lines

theorem natCast_pow_eq_one_iff
    {modulus : ℕ} (large : 2 ≤ modulus) (base exponent : ℕ) :
    (base : ZMod modulus) ^ exponent = 1 ↔ base ^ exponent % modulus = 1 := by
  have residues :=
    ZMod.natCast_eq_natCast_iff' (base ^ exponent) 1 modulus
  rw [Nat.mod_eq_of_lt large, Nat.cast_pow, Nat.cast_one] at residues
  exact residues

theorem CertificateLine.prime_of_passes
    {line : CertificateLine} {known : List ℕ}
    (primes : ∀ number ∈ known, number.Prime)
    (passes : line.passes known = true) :
    line.number.Prime := by
  simp only [CertificateLine.passes, Bool.and_eq_true, decide_eq_true_eq,
    List.all_eq_true, beq_iff_eq, bne_iff_ne, List.contains_eq_mem] at passes
  obtain ⟨⟨⟨large, product⟩, full⟩, each⟩ := passes
  have bound : line.number < 2 ^ (line.number.log2 + 1) := Nat.lt_log2_self
  have fits : ∀ exponent, exponent ≤ line.number - 1 →
      exponent < 2 ^ (line.number.log2 + 1) := by
    intro exponent atMost
    omega
  apply lucas_primality line.number (line.root : ZMod line.number)
  · rw [natCast_pow_eq_one_iff large, ← powMod_eq _ _ (fits _ le_rfl)]
    exact full
  · intro divisor prime divides
    rw [← product] at divides
    obtain ⟨factor, member, factorDivides⟩ :=
      (Prime.dvd_prod_iff prime.prime).mp divides
    obtain ⟨isKnown, proper⟩ := each factor member
    have same : divisor = factor :=
      (Nat.prime_dvd_prime_iff_eq prime (primes factor isKnown)).mp
        factorDivides
    rw [same, ne_eq, natCast_pow_eq_one_iff large,
      ← powMod_eq _ _ (fits _ (Nat.div_le_self _ _))]
    exact proper

theorem prime_of_certificateValid
    {lines : List CertificateLine}
    (valid : certificateValid lines = true) :
    ∀ line ∈ lines, line.number.Prime := by
  induction lines with
  | nil =>
      intro line member
      cases member
  | cons first lines inductionHypothesis =>
      rw [certificateValid, Bool.and_eq_true] at valid
      have later := inductionHypothesis valid.2
      have firstPrime : first.number.Prime := by
        apply first.prime_of_passes _ valid.1
        intro number member
        obtain ⟨line, lineMember, same⟩ := List.mem_map.mp member
        rw [← same]
        exact later line lineMember
      intro line member
      cases member with
      | head => exact firstPrime
      | tail _ member => exact later line member

end KarstflowTests.Library
