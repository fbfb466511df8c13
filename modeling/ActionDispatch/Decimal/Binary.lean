/-!
# Decimal numbers with 53 binary digits

A decimal text stands for the nearest number `m * 2 ^ q` with `m < 2 ^ 53` and `-1074 ≤ q ≤ 971`, and
such a number is shown with the fewest decimal digits that stand for it. All arithmetic is exact.
-/

namespace ActionDispatch.Decimal

/-- A quotient rounded to the nearest integer, a half to the even one. -/
def roundDiv (num den : Nat) : Nat :=
  let q := num / den
  let r := num % den
  if 2 * r < den || (2 * r == den && q % 2 == 0) then q else q + 1

/-- The largest `e` with `2 ^ e ≤ num / den`. -/
def floorLog2 (num den : Nat) : Int :=
  let e : Int := (Nat.log2 num : Int) - Nat.log2 den
  let fits := if 0 ≤ e then den * Nat.pow 2 e.toNat ≤ num else den ≤ num * Nat.pow 2 (-e).toNat
  if fits then e else e - 1

/-- The nearest number with 53 binary digits to a positive quotient, as a pair of `m` and `q`; `none` if
it is too large. -/
def nearest? (num den : Nat) : Option (Nat × Int) :=
  let q := max (floorLog2 num den - 52) (-1074)
  let m :=
    if 0 ≤ q then roundDiv num (den * Nat.pow 2 q.toNat)
    else roundDiv (num * Nat.pow 2 (-q).toNat) den
  let (m, q) := if m = Nat.pow 2 53 then (Nat.pow 2 52, q + 1) else (m, q)
  if 971 < q then none else some (m, q)

/-- Whether `d * 10 ^ k` stands for `m * 2 ^ q`, that is, lies within half a step of it. The ends count
when `m` is even; below a power of two the step is half as wide. -/
def standsFor (d : Nat) (k : Int) (m : Nat) (q : Int) : Bool :=
  let narrow := m == Nat.pow 2 52 && -1074 < q
  let q' := q - 2
  let scale (n : Nat) (two ten : Int) : Nat := n * Nat.pow 2 two.toNat * Nat.pow 10 ten.toNat
  let point := scale d (-q') k
  let low := scale (4 * m - if narrow then 1 else 2) q' (-k)
  let high := scale (4 * m + 2) q' (-k)
  if m % 2 == 0 then low ≤ point && point ≤ high else low < point && point < high

def digitCount (n : Nat) : Nat := (Nat.toDigits 10 n).length

/-- The fewest digits that stand for `m * 2 ^ q`, as a pair of `d` and `k` for `d * 10 ^ k`. Of two
candidates with equally many digits the nearer one counts, and in the middle the upper one. `top` is the
decimal exponent above the number's first digit. -/
def shortestFrom (m : Nat) (q : Int) (top : Int) : Nat → Nat → Nat × Int
  | 0, _ => (m, 0)
  | fuel + 1, n =>
    let k := top - n
    let num := m * Nat.pow 2 q.toNat * Nat.pow 10 (-k).toNat
    let den := Nat.pow 2 (-q).toNat * Nat.pow 10 k.toNat
    let d := num / den
    let below := standsFor d k m q
    let above := standsFor (d + 1) k m q
    if below && above then
      (if 2 * (num % den) < den then d else d + 1, k)
    else if below then (d, k)
    else if above then (d + 1, k)
    else shortestFrom m q top fuel (n + 1)

/-- The decimal exponent above the first digit of a positive quotient. -/
def topExponent (num den : Nat) : Int :=
  let e : Int := (digitCount num : Int) - digitCount den
  let below := if 0 ≤ e then num < den * Nat.pow 10 e.toNat else num * Nat.pow 10 (-e).toNat < den
  if below then e else e + 1

/-- A positive number in positional notation, with at least one digit on each side of the point. -/
def positional (d : Nat) (k : Int) : List Char :=
  let digits := Nat.toDigits 10 d
  if 0 ≤ k then digits ++ List.replicate k.toNat '0' ++ ['.', '0']
  else
    let places := (-k).toNat
    let digits := List.replicate (places + 1 - digits.length) '0' ++ digits
    digits.take (digits.length - places) ++ '.' :: digits.drop (digits.length - places)

/-- `d * 10 ^ k` without zeros at the end of `d`. -/
def normalize : Nat → Nat → Int → Nat × Int
  | 0, d, k => (d, k)
  | fuel + 1, d, k => if d ≠ 0 && d % 10 == 0 then normalize fuel (d / 10) (k + 1) else (d, k)

/-- The text of `m * 2 ^ q`. -/
def text (m : Nat) (q : Int) : List Char :=
  if m = 0 then ['0', '.', '0']
  else
    let top := topExponent (m * Nat.pow 2 q.toNat) (Nat.pow 2 (-q).toNat)
    let (d, k) := shortestFrom m q top 17 1
    let (d, k) := normalize (digitCount d) d k
    positional d k

def digitsValue (cs : List Char) : Nat := cs.foldl (fun n c => 10 * n + (c.toNat - 48)) 0

/-- A decimal number without sign as a pair of `d` and `k` for `d * 10 ^ k`: digits with or without a
point, at least one of them, and perhaps an exponent. -/
def parse? (cs : List Char) : Option (Nat × Int) := do
  let whole := cs.takeWhile Char.isDigit
  let rest := cs.dropWhile Char.isDigit
  let (part, rest) := match rest with
    | '.' :: rest => (rest.takeWhile Char.isDigit, rest.dropWhile Char.isDigit)
    | _ => ([], rest)
  if whole.isEmpty && part.isEmpty then none
  else
    let mantissa := digitsValue (whole ++ part)
    match rest with
    | [] => some (mantissa, -(part.length : Int))
    | e :: rest =>
      if e != 'e' && e != 'E' then none
      else
        let (negative, digits) := match rest with
          | '-' :: digits => (true, digits)
          | '+' :: digits => (false, digits)
          | digits => (false, digits)
        if digits.isEmpty || !digits.all Char.isDigit then none
        else
          let value : Int := digitsValue digits
          some (mantissa, (if negative then -value else value) - part.length)

/-- The text of the number with 53 binary digits that is nearest to `d * 10 ^ k`; `none` if that is too
large. Far outside of the range the number is not worked out. -/
def shown? (d : Nat) (k : Int) : Option (List Char) :=
  let size : Int := digitCount d + k
  if d = 0 || size < -400 then some (text 0 0)
  else if 400 < size then none
  else (nearest? (d * Nat.pow 10 k.toNat) (Nat.pow 10 (-k).toNat)).map fun (m, q) => text m q

end ActionDispatch.Decimal
