/-
Rounding a ratio of naturals to the nearest natural, a tie going to the even one.
-/

namespace RouteExpr

/-- The natural number nearest to `num / den`, a tie going to the even one. -/
def roundHalfEven (num den : Nat) : Nat :=
  let quotient := num / den
  let twice := 2 * (num % den)
  if twice < den || (twice = den && quotient % 2 = 0) then quotient else quotient + 1

end RouteExpr
