import HelpText.Number.Binary64

/-!
The shortest decimal text of a binary number: of the decimals that read back as the number those
with the fewest digits, and of these the nearest. Written positionally while the point stands close
to the digits.
-/

namespace HelpText

namespace Binary64

/-- A decimal `digits * 10 ^ power`. -/
structure Decimal where
  digits : Nat
  power : Int
  deriving DecidableEq, Repr

/-- The numbers around a finite one as numerators over a common denominator: the lower and upper
ends of what rounds to it, and the number itself. -/
structure Neighbourhood where
  lower : Nat
  centre : Nat
  upper : Nat
  denominator : Nat
  closed : Bool

/-- What rounds to `significand * 2 ^ exponent`. Below a power of two the numbers lie twice as
close. -/
def neighbourhood (significand : Nat) (exponent : Int) : Neighbourhood :=
  let factor := Nat.pow 2 (exponent - 2).toNat
  let below := if significand = Nat.pow 2 52 ∧ exponent > minExponent then 1 else 2
  { lower := (4 * significand - below) * factor
    centre := 4 * significand * factor
    upper := (4 * significand + 2) * factor
    denominator := Nat.pow 2 (2 - exponent).toNat
    closed := significand % 2 = 0 }

/-- Whether `numerator / denominator` lies in the neighbourhood. -/
def Neighbourhood.contains (area : Neighbourhood) (numerator denominator : Nat) : Bool :=
  let lower := area.lower * denominator
  let upper := area.upper * denominator
  let here := numerator * area.denominator
  if area.closed then lower ≤ here && here ≤ upper else lower < here && here < upper

/-- The least `j` from `start` on with `denominator ≤ numerator * 10 ^ j`, within `fuel` steps. -/
def leadingZeros (numerator denominator : Nat) : (fuel start : Nat) → Nat
  | 0, start => start
  | fuel + 1, start =>
    if denominator ≤ numerator * Nat.pow 10 start then start
    else leadingZeros numerator denominator fuel (start + 1)

/-- The power of ten of the leading digit of a positive quotient. -/
def leadingPower (numerator denominator : Nat) : Int :=
  let whole := numerator / denominator
  if whole > 0 then ((Nat.toDigits 10 whole).length : Int) - 1
  else -(leadingZeros numerator denominator 400 0 : Int)

/-- The decimal with `count` digits that lies in the neighbourhood and nearest to its centre; a tie
goes to the even digits. -/
def decimalWith? (area : Neighbourhood) (count : Nat) : Option Decimal :=
  let power := leadingPower area.centre area.denominator - (count : Int) + 1
  let up := Nat.pow 10 (-power).toNat
  let down := Nat.pow 10 power.toNat
  let digits := area.centre * up / (area.denominator * down)
  let inside (d : Nat) : Bool := area.contains (d * down) up
  let rest := area.centre * up - digits * down * area.denominator
  let step := down * area.denominator
  match inside digits, inside (digits + 1) with
  | true, true =>
    if 2 * rest < step ∨ (2 * rest = step ∧ digits % 2 = 0) then some ⟨digits, power⟩
    else some ⟨digits + 1, power⟩
  | true, false => some ⟨digits, power⟩
  | false, true => some ⟨digits + 1, power⟩
  | false, false => none

/-- The shortest decimal that reads back as `significand * 2 ^ exponent`; seventeen digits always
do. -/
def shortest (significand : Nat) (exponent : Int) : Decimal :=
  let area := neighbourhood significand exponent
  ((List.range 17).findSome? fun i => decimalWith? area (i + 1)).getD ⟨significand, exponent⟩

def dropZeros (digits : Text) : Text := (digits.reverse.dropWhile (· = '0')).reverse

/-- Writes digits, the first of which stands for `10 ^ leading`: with a point among them from
`10 ^ -4` up to below `10 ^ 16`, else with an exponent of two digits at least. -/
def layout (digits : Text) (leading : Int) : Text :=
  if -4 ≤ leading ∧ leading < 16 then
    if leading < 0 then ['0', '.'] ++ List.replicate (-leading - 1).toNat '0' ++ digits
    else
      let count := leading.toNat + 1
      let whole := digits.take count ++ List.replicate (count - digits.length) '0'
      let fraction := digits.drop count
      whole ++ ['.'] ++ (if fraction.isEmpty then ['0'] else fraction)
  else
    let mantissa := match digits with
      | first :: second :: rest => first :: '.' :: second :: rest
      | short => short
    mantissa ++ ['e', if leading < 0 then '-' else '+'] ++
      Text.padLeft '0' 2 (Text.decimal leading.natAbs)

def text : Binary64 → Text
  | .notANumber => ['n', 'a', 'n']
  | .infinite negative => (if negative then ['-'] else []) ++ ['i', 'n', 'f']
  | .finite negative significand exponent =>
    (if negative then ['-'] else []) ++
      if significand = 0 then ['0', '.', '0']
      else
        let decimal := shortest significand exponent
        let digits := Nat.toDigits 10 decimal.digits
        layout (dropZeros digits) (decimal.power + digits.length - 1)

end Binary64

end HelpText
