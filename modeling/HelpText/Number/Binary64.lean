import HelpText.Text.Basic

/-!
Binary floating-point numbers with 53 significant bits, as exact integers and powers of two. A
quotient is rounded to the nearest of them, a tie to the even significand.
-/

namespace HelpText

/-- A number `significand * 2 ^ exponent` with a sign, an infinity, or no number at all. -/
inductive Binary64 where
  | finite (negative : Bool) (significand : Nat) (exponent : Int)
  | infinite (negative : Bool)
  | notANumber
  deriving DecidableEq, Repr, Inhabited

/-- The quotient rounded to the nearest integer, a tie to the even one. -/
def roundQuotient (numerator denominator : Nat) : Nat :=
  let quotient := numerator / denominator
  let twice := 2 * (numerator % denominator)
  if twice > denominator ∨ (twice = denominator ∧ quotient % 2 = 1) then quotient + 1 else quotient

/-- An exact quotient is not changed by rounding. -/
theorem roundQuotient_mul (n d : Nat) (h : 0 < d) : roundQuotient (n * d) d = n := by
  have hd : ¬ 0 = d := by omega
  simp [roundQuotient, Nat.mul_div_cancel _ h, hd]

namespace Binary64

/-- The exponent of the smallest numbers and of the largest. -/
def minExponent : Int := -1074

def maxExponent : Int := 971

/-- `numerator / denominator * 2 ^ (-exponent)` as a quotient of two naturals. -/
def scaled (numerator denominator : Nat) (exponent : Int) : Nat × Nat :=
  (numerator * Nat.pow 2 (-exponent).toNat, denominator * Nat.pow 2 exponent.toNat)

/-- The exponent with which a positive quotient gets 53 significant bits, but never one below the
smallest. -/
def exponentFor (numerator denominator : Nat) : Int :=
  let guess : Int := (Nat.log2 numerator : Int) - Nat.log2 denominator - 52
  let (n, d) := scaled numerator denominator guess
  -- The guess is one too large where the quotient of the leading parts lies below one.
  max minExponent (if n / d < Nat.pow 2 52 then guess - 1 else guess)

def ofQuotient (negative : Bool) (numerator denominator : Nat) : Binary64 :=
  if numerator = 0 then .finite negative 0 minExponent
  else
    let exponent := exponentFor numerator denominator
    let (n, d) := scaled numerator denominator exponent
    let rounded := roundQuotient n d
    -- Rounding up may need one more bit.
    let (significand, exponent) :=
      if rounded = Nat.pow 2 53 then (Nat.pow 2 52, exponent + 1) else (rounded, exponent)
    if exponent > maxExponent then .infinite negative else .finite negative significand exponent

/-- The number nearest to `digits * 10 ^ power`, where `digits` has `count` decimal digits at most.
-/
def ofDecimal (negative : Bool) (digits count : Nat) (power : Int) : Binary64 :=
  if digits = 0 ∨ (count : Int) + power < -330 then .finite negative 0 minExponent
  else if power > 310 then .infinite negative
  else ofQuotient negative (digits * Nat.pow 10 power.toNat) (Nat.pow 10 (-power).toNat)

def digitValue (c : Char) : Nat := c.toNat - '0'.toNat

def natOfDigits (digits : Text) : Nat := digits.foldl (fun n c => 10 * n + digitValue c) 0

def splitSign : Text → Bool × Text
  | '-' :: rest => (true, rest)
  | '+' :: rest => (false, rest)
  | t => (false, t)

def exponentOf (t : Text) : Option Int :=
  let (negative, digits) := splitSign t
  if digits.isEmpty || !digits.all Char.isDigit then none
  else some (if negative then -(natOfDigits digits : Int) else natOfDigits digits)

/-- The number that a decimal text spells: digits with an optional fraction and exponent, or one of
`inf` and `nan`, behind an optional sign. -/
def read? (t : Text) : Option Binary64 :=
  let (negative, body) := splitSign t
  if body = ['i', 'n', 'f'] then some (.infinite negative)
  else if body = ['n', 'a', 'n'] then some .notANumber
  else
    let whole := body.takeWhile Char.isDigit
    let (fraction, rest) := match body.dropWhile Char.isDigit with
      | '.' :: rest => (rest.takeWhile Char.isDigit, rest.dropWhile Char.isDigit)
      | rest => ([], rest)
    let digits := whole ++ fraction
    if digits.isEmpty then none
    else
      let number (power : Int) :=
        ofDecimal negative (natOfDigits digits) digits.length (power - fraction.length)
      match rest with
      | [] => some (number 0)
      | mark :: tail =>
        if mark = 'e' ∨ mark = 'E' then (exponentOf tail).map number else none

end Binary64

end HelpText
