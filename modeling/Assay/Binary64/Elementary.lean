import Assay.Binary64.Arith

/-!
# Elementary functions

A function is worked out in whole numbers of a unit that is far finer than the
last bit of its value, and rounded once. Arguments that are so small that only
the first term of a series counts are taken as they are.
-/

set_option autoImplicit false

namespace Assay.Binary64

def finePlaces : Nat := 256

def fineOne : Int := (Nat.pow 2 finePlaces : Nat)

def fineMul (a b : Int) : Int := a * b / fineOne

def fineDiv (a b : Int) : Int := a * fineOne / b

def ofFine (v power : Int) : Binary64 :=
  ofRatio (decide (v < 0)) (v.natAbs * unitsPerOne * Nat.pow 2 power.toNat)
    (Nat.pow 2 finePlaces * Nat.pow 2 (-power).toNat)

def scaled (places rank : Nat) : Nat := units rank * Nat.pow 2 places / unitsPerOne

def toFine (negative : Bool) (rank : Nat) : Int :=
  let n : Int := scaled finePlaces rank
  if negative then -n else n

def rootFrom (n : Nat) : Nat → Nat → Nat
  | 0, r => r
  | fuel + 1, r =>
    let next := (r + n / r) / 2
    if next < r then rootFrom n fuel next else r

def wholeRoot (n : Nat) : Nat :=
  if n = 0 then 0 else rootFrom n (Nat.log2 n + 2) (Nat.pow 2 (Nat.log2 n / 2 + 1))

def series (next : Nat → Int → Int) (first : Int) (count : Nat) : Int :=
  ((List.range count).foldl (fun (s : Int × Int) (n : Nat) => (s.1 + s.2, next n s.2)) (0, first)).1

def angleOfInverse (places n : Nat) : Int :=
  let first : Int := (Nat.pow 2 places / n : Nat)
  ((List.range (places / 4 + 4)).foldl (fun (s : Int × Int) (k : Nat) =>
    let part := s.2 / (2 * k + 1 : Nat)
    (if k % 2 = 0 then s.1 + part else s.1 - part, s.2 / (n * n : Nat))) (0, first)).1

/-- Half of the circumference of the unit circle, with some binary places. -/
def halfTurn (places : Nat) : Int :=
  16 * angleOfInverse places 5 - 4 * angleOfInverse places 239

/-- Twice the area below the inverse of a number from one on, for a ratio of a difference to a
sum, in fine units. -/
def logOfRatio (z : Int) : Int :=
  let square := fineMul z z
  2 * ((List.range 100).foldl (fun (s : Int × Int) (k : Nat) =>
    (s.1 + s.2 / (2 * k + 1 : Nat), fineMul s.2 square)) (0, z)).1

def fineLogTwo : Int := logOfRatio (fineOne / 3)

/-- The natural logarithm of a positive magnitude, in fine units. -/
def fineLog (rank : Nat) : Int :=
  let u := units rank
  let e := Nat.log2 u
  let m : Int := (u * Nat.pow 2 finePlaces / Nat.pow 2 e : Nat)
  logOfRatio (fineDiv (m - fineOne) (m + fineOne)) + ((e : Int) - 1074) * fineLogTwo

def expOfFine (v : Int) : Binary64 :=
  if v < -800 * fineOne then zero false
  else if 800 * fineOne < v then inf false
  else
    let k := (v + fineLogTwo / 2) / fineLogTwo
    let r := v - k * fineLogTwo
    ofFine (series (fun n term => fineMul term r / (n + 1)) fineOne 64) k

/-- Whether a magnitude is so small that only the first term of a series counts. -/
def isTiny (rank : Nat) : Bool := decide (units rank < Nat.pow 2 1040)

def isHuge (rank : Nat) : Bool := decide (Nat.pow 2 1100 < units rank)

def exp : Binary64 → Binary64
  | nan => nan
  | inf s => if s then zero false else inf false
  | finite s r =>
    if isHuge r.val then (if s then zero false else inf false) else expOfFine (toFine s r.val)

def log : Binary64 → Binary64
  | nan => nan
  | inf s => if s then nan else inf false
  | finite s r =>
    if r.val = 0 then inf true
    else if s then nan
    else ofFine (fineLog r.val) 0

def sqrt : Binary64 → Binary64
  | nan => nan
  | inf s => if s then nan else inf false
  | finite s r =>
    if r.val = 0 then finite s r
    else if s then nan
    else
      -- An odd number of half places more keeps what is not exact apart from what is.
      let n := units r.val * unitsPerOne * Nat.pow 2 120
      let root := wholeRoot n
      let rest := if root * root = n then 0 else 1
      ofRatio false (2 * root + rest) (Nat.pow 2 61)

/-- An angle less its quarter turns, in fine units, and their number modulo four. -/
def quarters (negative : Bool) (rank : Nat) : Int × Nat :=
  let more := Nat.log2 (units rank) - 1074
  let quarter := halfTurn (finePlaces + more) / 2
  let x : Int := scaled (finePlaces + more) rank
  let n := (x + quarter / 2) / quarter
  let r := (x - n * quarter) / (Nat.pow 2 more : Nat)
  if negative then (-r, ((-n) % 4).toNat) else (r, (n % 4).toNat)

def fineSine (v : Int) : Int :=
  let square := fineMul v v
  series (fun n term => -(fineMul term square / ((2 * n + 2) * (2 * n + 3)))) v 48

def fineCosine (v : Int) : Int :=
  let square := fineMul v v
  series (fun n term => -(fineMul term square / ((2 * n + 1) * (2 * n + 2)))) fineOne 48

def sin : Binary64 → Binary64
  | finite s r =>
    if isTiny r.val then finite s r
    else
      let (v, n) := quarters s r.val
      ofFine (match n with
        | 0 => fineSine v
        | 1 => fineCosine v
        | 2 => -fineSine v
        | _ => -fineCosine v) 0
  | _ => nan

def cos : Binary64 → Binary64
  | finite s r =>
    let (v, n) := quarters s r.val
    ofFine (match n with
      | 0 => fineCosine v
      | 1 => -fineSine v
      | 2 => -fineCosine v
      | _ => fineSine v) 0
  | _ => nan

/-- The angle with a tangent of at most one, in fine units. It is halved before the series. -/
def fineAngle (t : Int) : Int :=
  let half := fun (t : Int) =>
    fineDiv t (fineOne + wholeRoot ((fineOne * fineOne + t * t).toNat))
  let u := half (half (half t))
  let square := fineMul u u
  8 * ((List.range 60).foldl (fun (s : Int × Int) (k : Nat) =>
    let part := s.2 / (2 * k + 1 : Nat)
    (if k % 2 = 0 then s.1 + part else s.1 - part, fineMul s.2 square)) (0, u)).1

/-- The angle of a point with positive coordinates, in units: first the height. -/
def angleOfUnits (y x : Nat) : Int :=
  if y ≤ x then fineAngle (y * Nat.pow 2 finePlaces / x : Nat)
  else halfTurn finePlaces / 2 - fineAngle (x * Nat.pow 2 finePlaces / y : Nat)

def atan2 (y x : Binary64) : Binary64 :=
  let turned := fun (part : Int) (negative : Bool) =>
    ofFine (if negative then -part else part) 0
  let turn := halfTurn finePlaces
  match y, x with
  | nan, _ => nan
  | _, nan => nan
  | inf s, inf t => turned (if t then 3 * turn / 4 else turn / 4) s
  | inf s, finite _ _ => turned (turn / 2) s
  | finite s _, inf t => if t then turned turn s else zero s
  | finite s a, finite t b =>
    if a.val = 0 then (if t then turned turn s else finite s a)
    else if b.val = 0 then turned (turn / 2) s
    else
      let (h, w) := (units a.val, units b.val)
      if !t && decide (h * Nat.pow 2 30 < w) then ofRatio s (h * unitsPerOne) w
      else turned (if t then turn - angleOfUnits h w else angleOfUnits h w) s

def remainder : Binary64 → Binary64 → Binary64
  | nan, _ => nan
  | _, nan => nan
  | inf _, _ => nan
  | finite s a, inf _ => finite s a
  | finite s a, finite _ b =>
    if b.val = 0 then nan else ofRatio s (units a.val % units b.val) 1

def wholePart : Binary64 → Binary64
  | finite s r => ofRatio s (units r.val / unitsPerOne * unitsPerOne) 1
  | x => x

def whole? : Binary64 → Option Int
  | finite s r =>
    let u := units r.val
    if u % unitsPerOne = 0 then
      let n : Int := (u / unitsPerOne : Nat)
      some (if s then -n else n)
    else none
  | _ => none

def powWhole (negative : Bool) (rank : Nat) (n : Int) : Binary64 :=
  let k := n.natAbs
  let odd := negative && k % 2 = 1
  let top := Nat.pow (units rank) k
  let bottom := Nat.pow unitsPerOne k
  if 0 ≤ n then ofRatio odd (top * unitsPerOne) bottom
  else ofRatio odd (bottom * unitsPerOne) top

def pow (x y : Binary64) : Binary64 :=
  let isWhole := y.whole?.isSome
  let isOdd := match y.whole? with
    | some n => n % 2 == 1
    | none => false
  let one := ofNat 1
  if y.isZero || x.equal one then one
  else
    match x, y with
    | nan, _ => nan
    | _, nan => nan
    | x, inf s =>
      let m := x.abs
      if m.equal one then one
      else if lt one m == s then zero false
      else inf false
    | inf s, y =>
      let negative := s && isOdd
      if y.isNegative then zero negative else inf negative
    | finite s a, finite t b =>
      if a.val = 0 then
        if t then inf (s && isOdd) else zero (s && isOdd)
      else if s && !isWhole then nan
      else
        match y.whole? with
        | some n =>
          if n.natAbs ≤ 40 then powWhole s a.val n
          else
            let size := byLogarithm a.val t b.val
            if s && isOdd then size.neg else size
        | none => byLogarithm a.val t b.val
where
  byLogarithm (rank : Nat) (negative : Bool) (exponent : Nat) : Binary64 :=
    let l := fineLog rank
    let u : Int := units exponent
    expOfFine (l * (if negative then -u else u) / (unitsPerOne : Int))

end Assay.Binary64
