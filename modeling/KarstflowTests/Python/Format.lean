import Mathlib.Data.Rat.Defs
import Mathlib.Data.String.Basic
import Mathlib.Order.WithBot

/-!
# Format specifications

The reports of the repository are tables: cells are padded with spaces to a
width, and never cut off; times are rounded to a fixed number of decimals, a
tie to the even digit.
-/

namespace KarstflowTests

/-- `character * count` -/
def repeated (character : Char) (count : ℕ) : String :=
  String.ofList (List.replicate count character)

/-- `f"{text:<width}"` -/
def alignLeft (width : ℕ) (text : String) : String :=
  text ++ repeated ' ' (width - text.length)

/-- `f"{text:>width}"` -/
def alignRight (width : ℕ) (text : String) : String :=
  repeated ' ' (width - text.length) ++ text

/-- The quotient rounded to the nearest integer, a tie to the even one. -/
def roundHalfEven (numerator denominator : ℕ) : ℕ :=
  let quotient := numerator / denominator
  let doubled := 2 * (numerator % denominator)
  if doubled < denominator then quotient
  else if denominator < doubled then quotient + 1
  else if quotient % 2 = 0 then quotient
  else quotient + 1

/-- `f"{value:.{digits}f}"` -/
def fixed (digits : ℕ) (value : ℚ) : String :=
  let scaled := roundHalfEven (value.num.natAbs * 10 ^ digits) value.den
  let decimals := toString (scaled % 10 ^ digits)
  (if value < 0 then "-" else "") ++ toString (scaled / 10 ^ digits) ++ "." ++
    repeated '0' (digits - decimals.length) ++ decimals

/-- The same for a float that may be `inf`. -/
def fixedOrInf (digits : ℕ) : WithTop ℚ → String
  | ⊤ => "inf"
  | (value : ℚ) => fixed digits value

example : fixed 1 (1 / 4) = "0.2" := by decide +kernel

end KarstflowTests
