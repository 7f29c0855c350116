import HelpText.Number.Shortest

/-!
Decimal texts of binary numbers to a given number of places, rounded to nearest with a tie going to
the even digit.
-/

namespace HelpText

namespace Binary64

/-- How the digits of a number are laid out. -/
inductive Style where
  | fixed
  | scientific
  | general
  deriving DecidableEq, Repr

/-- `significand * 2 ^ exponent` as a quotient of two naturals. -/
def quotient (significand : Nat) (exponent : Int) : Nat × Nat :=
  (significand * Nat.pow 2 exponent.toNat, Nat.pow 2 (-exponent).toNat)

/-- Digits with a point before the last `places` of them; `keepPoint` writes it even before nothing.
-/
def withPoint (keepPoint : Bool) (places digits : Nat) : Text :=
  let whole := Text.padLeft '0' (places + 1) (Text.decimal digits)
  let count := whole.length - places
  whole.take count ++ (if places = 0 && !keepPoint then [] else ['.']) ++ whole.drop count

def fixedText (keepPoint : Bool) (places numerator denominator : Nat) : Text :=
  withPoint keepPoint places (roundQuotient (numerator * Nat.pow 10 places) denominator)

/-- The `places + 1` leading digits of a quotient, and the power of ten of the first of them. -/
def leadingDigits (places numerator denominator : Nat) : Nat × Int :=
  if numerator = 0 then (0, 0)
  else
    let leading := leadingPower numerator denominator
    let power := leading - places
    let digits :=
      roundQuotient (numerator * Nat.pow 10 (-power).toNat) (denominator * Nat.pow 10 power.toNat)
    if digits = Nat.pow 10 (places + 1) then (digits / 10, leading + 1) else (digits, leading)

def exponentText (power : Int) : Text :=
  ['e', if power < 0 then '-' else '+'] ++ Text.padLeft '0' 2 (Text.decimal power.natAbs)

/-- A quotient with `places` digits after the point and an exponent. -/
def scientificText (keepPoint : Bool) (places numerator denominator : Nat) : Text :=
  let (digits, power) := leadingDigits places numerator denominator
  withPoint keepPoint places digits ++ exponentText power

/-- Digits behind a point without the zeros at their end, and without a point before nothing. -/
def dropPlaces (t : Text) : Text :=
  if t.contains '.' then
    let kept := dropZeros t
    if kept.getLast? = some '.' then kept.dropLast else kept
  else t

/-- A quotient with `count` significant digits, laid out by its size. -/
def generalText (keepZeros : Bool) (count numerator denominator : Nat) : Text :=
  let (digits, power) := leadingDigits (count - 1) numerator denominator
  if -4 ≤ power ∧ power < count then
    let t := fixedText keepZeros ((count : Int) - 1 - power).toNat numerator denominator
    if keepZeros then t else dropPlaces t
  else
    let t := withPoint keepZeros (count - 1) digits
    (if keepZeros then t else dropPlaces t) ++ exponentText power

def placesText (style : Style) (full : Bool) (places : Nat) : Binary64 → Text
  | .notANumber => ['n', 'a', 'n']
  | .infinite _ => ['i', 'n', 'f']
  | .finite _ significand exponent =>
    let (n, d) := quotient significand exponent
    match style with
    | .fixed => fixedText full places n d
    | .scientific => scientificText full places n d
    | .general => generalText full (max places 1) n d

def isNegative : Binary64 → Bool
  | .finite negative _ _ | .infinite negative => negative
  | .notANumber => false

def truncated (negative : Bool) (significand : Nat) (exponent : Int) : Int :=
  let (n, d) := quotient significand exponent
  if negative then -((n / d : Nat) : Int) else (n / d : Nat)

def ofInt (n : Int) : Binary64 := ofQuotient (n < 0) n.natAbs 1

end Binary64

end HelpText
