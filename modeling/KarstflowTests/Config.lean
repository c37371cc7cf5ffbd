import Mathlib.Data.Rat.Defs

/-!
# Commitment levels and the retry policy
-/

namespace KarstflowTests

/-- The commitment levels a transaction passes through, in order. -/
inductive Commitment where
  | processed
  | confirmed
  | finalized
  deriving DecidableEq

namespace Commitment

def value : Commitment → String
  | .processed => "processed"
  | .confirmed => "confirmed"
  | .finalized => "finalized"

/-- The position of a level in the order processed, confirmed, finalized. -/
def rank : Commitment → ℕ
  | .processed => 0
  | .confirmed => 1
  | .finalized => 2

end Commitment

structure RetryPolicy where
  maxRetries : ℤ := 3
  backoffBase : ℚ := 1 / 2
  backoffMax : ℚ := 10
  /-- node behind, slot skipped -/
  retryableCodes : List ℤ := [-32005, -32016]

end KarstflowTests
