import Calculator.Diagnostic

/-!
# Reduction

The tokens of one scope are joined tier by tier: powers first, then products, then sums.  Within a
tier every operator takes the token before it and the token after it, from left to right, so all
operators associate to the left.

## Main definitions

* `reduceTier tier tokens`: `tokens` with every operator of `tier` joined to its neighbours
* `reduceAll tokens`: the three tiers one after the other
-/

namespace Calculator

/-- Joins the operators of one tier.  The first list holds the tokens already passed, the latest
first; the second those to come. -/
def joinTier (tier : Tier) : List Token → List Token → Except Fault (List Token)
  | passed, [] => .ok passed.reverse
  | passed, .expression tree offset :: rest =>
    joinTier tier (.expression tree offset :: passed) rest
  | passed, .operator op offset :: rest =>
    if op.tier = tier then
      match passed, rest with
      | .expression left _ :: passed, .expression right _ :: rest =>
        joinTier tier (.expression (.operation op left right) offset :: passed) rest
      | left :: _, right :: _ => .error ⟨.invalidOperands op left right, offset⟩
      | _, _ => .error ⟨.missingOperand op, offset⟩
    else
      joinTier tier (.operator op offset :: passed) rest

/-- The tokens with every operator of one tier joined to its neighbours. -/
def reduceTier (tier : Tier) (tokens : List Token) : Except Fault (List Token) :=
  joinTier tier [] tokens

/-- The tokens after the tiers of powers, products and sums. -/
def reduceAll (tokens : List Token) : Except Fault (List Token) := do
  let tokens ← reduceTier .power tokens
  let tokens ← reduceTier .product tokens
  reduceTier .sum tokens

end Calculator
