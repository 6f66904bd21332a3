import EntityModel.Numeral.Binary64

/-!
# Sums and products of floating point numbers

A finite number is a whole count of the least positive one, which is `2 ^ (-1074)`. So sums and products are
found exactly on such counts and rounded once.
-/

namespace EntityModel.Numeral.Binary64

/-- The exponent of the least positive number, without its sign. -/
def leastExponent : Nat := 1074

/-- How many of the least positive number make up a finite one. -/
def count? (x : Binary64) : Option Int :=
  if infinityBits ≤ x.magnitude then none
  else
    let (n, q) := x.steps
    let count : Nat := n * Nat.pow 2 (q + leastExponent).toNat
    some (if x.isNegative then -(count : Int) else count)

/-- The number nearest to a quotient, with a sign. -/
def ofQuotient (negative : Bool) (num den : Nat) : Binary64 :=
  ofMagnitude negative (if num = 0 then 0 else magnitudeOfQuotient num den)

/-- The number with the other sign. -/
def negate (x : Binary64) : Binary64 := ofMagnitude (!x.isNegative) x.magnitude

/-- The sum. Opposite infinities have none. -/
def add (x y : Binary64) : Binary64 :=
  match x.count?, y.count? with
  | some a, some b =>
      let negative := if a + b = 0 then x.isNegative && y.isNegative else a + b < 0
      ofQuotient negative (a + b).natAbs (Nat.pow 2 leastExponent)
  | none, some _ => x
  | some _, none => y
  | none, none => if x = y then x else nan

/-- The product. Zero and infinity have none. -/
def mul (x y : Binary64) : Binary64 :=
  let negative := x.isNegative != y.isNegative
  match x.count?, y.count? with
  | some a, some b => ofQuotient negative (a * b).natAbs (Nat.pow 2 (2 * leastExponent))
  | _, _ =>
      if x.isNaN || y.isNaN || x.magnitude = 0 || y.magnitude = 0 then nan else infinity negative

end EntityModel.Numeral.Binary64
