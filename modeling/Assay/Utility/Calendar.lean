import Assay.Utility.Basic

/-!
# Calendar

A time is a number of nanoseconds since the start of the year 1970, and is
shown as a date and a time of the day by a format. Texts that name a time are
read as a row of parts: dates, times of the day, zones, weekdays and distances.
-/

set_option autoImplicit false

namespace Assay.Utility

/-- Days from the start of 1970 to a day of the calendar; months may lie outside a year. -/
def dayNumber (year month day : Int) : Int :=
  let years := year + (month - 1).fdiv 12
  let month := (month - 1).fmod 12 + 1
  let y := if month ≤ 2 then years - 1 else years
  let era := y.fdiv 400
  let ofEra := y - era * 400
  let ofYear := (153 * (if 2 < month then month - 3 else month + 9) + 2) / 5 + day - 1
  era * 146097 + ofEra * 365 + ofEra / 4 - ofEra / 100 + ofYear - 719468

def calendarDay (days : Int) : Int × Int × Int :=
  let z := days + 719468
  let era := z.fdiv 146097
  let ofEra := z - era * 146097
  let years := (ofEra - ofEra / 1460 + ofEra / 36524 - ofEra / 146096) / 365
  let ofYear := ofEra - (365 * years + years / 4 - years / 100)
  let part := (5 * ofYear + 2) / 153
  let month := if part < 10 then part + 3 else part - 9
  (years + era * 400 + (if month ≤ 2 then 1 else 0), month, ofYear - (153 * part + 2) / 5 + 1)

def billion : Int := 1000000000

def daySeconds : Int := 86400

structure Moment where
  time : Int
  year : Int
  month : Int
  day : Int
  hour : Int
  minute : Int
  second : Int
  nano : Int
  weekday : Int
  yearDay : Int

namespace Moment

def ofTime (time : Int) : Moment :=
  let seconds := time.fdiv billion
  let days := seconds.fdiv daySeconds
  let rest := seconds.fmod daySeconds
  let (year, month, day) := calendarDay days
  { time, year, month, day
    hour := rest / 3600
    minute := rest / 60 % 60
    second := rest % 60
    nano := time.fmod billion
    weekday := (days + 4).fmod 7
    yearDay := days - dayNumber year 1 1 }

def weekdays : List String :=
  ["Sunday", "Monday", "Tuesday", "Wednesday", "Thursday", "Friday", "Saturday"]

def months : List String :=
  ["January", "February", "March", "April", "May", "June", "July", "August", "September",
    "October", "November", "December"]

def nameOf (names : List String) (n : Int) : String := (names[n.toNat]?).getD ""

def week (m : Moment) : Int × Int :=
  let thursday := m.yearDay - (m.weekday + 6).fmod 7 + 3
  let year := if thursday < 0 then m.year - 1
    else if dayNumber (m.year + 1) 1 1 - dayNumber m.year 1 1 ≤ thursday then m.year + 1
    else m.year
  let ofYear := dayNumber m.year 1 1 + thursday - dayNumber year 1 1
  (year, ofYear / 7 + 1)

def filled (pad : Char) (width : Nat) (n : Int) : String :=
  let digits := toString n.natAbs
  let sign := if n < 0 then "-" else ""
  sign ++ String.ofList (List.replicate (width - digits.length - sign.length) pad) ++ digits

/-- What stands between a percent sign and a letter: a mark for the padding, a width, and
how often a colon stands there. -/
structure Shape where
  mark : Option Char
  width : Option Nat
  upper : Bool
  colons : Nat

namespace Shape

def number (s : Shape) (pad : Char) (width : Nat) (n : Int) : String :=
  match s.mark with
  | some '-' => filled ' ' 0 n
  | some '_' => filled ' ' (s.width.getD width) n
  | some '0' => filled '0' (s.width.getD width) n
  | _ => filled pad (s.width.getD width) n

def text (s : Shape) (t : String) : String :=
  let t := if s.upper then t.map Char.toUpper else t
  match s.width with
  | some w =>
    String.ofList (List.replicate (w - t.length) (if s.mark == some '0' then '0' else ' ')) ++ t
  | none => t

end Shape

/-- What a letter stands for in a format that is made up of simpler ones. -/
def compound? (c : Char) : Option String :=
  match c with
  | 'c' => some "%a %b %e %H:%M:%S %Y"
  | 'D' | 'x' => some "%m/%d/%y"
  | 'F' => some "%Y-%m-%d"
  | 'r' => some "%I:%M:%S %p"
  | 'R' => some "%H:%M"
  | 'T' | 'X' => some "%H:%M:%S"
  | _ => none

def simple? (m : Moment) (s : Shape) (c : Char) : Option String :=
  let twelve := if m.hour % 12 = 0 then 12 else m.hour % 12
  match c with
  | '%' => some "%"
  | 'n' => some "\n"
  | 't' => some "\t"
  | 'a' => some (s.text ((nameOf weekdays m.weekday).take 3).toString)
  | 'A' => some (s.text (nameOf weekdays m.weekday))
  | 'b' | 'h' => some (s.text ((nameOf months (m.month - 1)).take 3).toString)
  | 'B' => some (s.text (nameOf months (m.month - 1)))
  | 'C' => some (s.number '0' 2 (m.year.fdiv 100))
  | 'd' => some (s.number '0' 2 m.day)
  | 'e' => some (s.number ' ' 2 m.day)
  | 'g' => some (s.number '0' 2 (m.week.1.fmod 100))
  | 'G' => some (s.number '0' 4 m.week.1)
  | 'H' => some (s.number '0' 2 m.hour)
  | 'I' => some (s.number '0' 2 twelve)
  | 'j' => some (s.number '0' 3 (m.yearDay + 1))
  | 'k' => some (s.number ' ' 2 m.hour)
  | 'l' => some (s.number ' ' 2 twelve)
  | 'm' => some (s.number '0' 2 m.month)
  | 'M' => some (s.number '0' 2 m.minute)
  | 'N' =>
    let digits := filled '0' 9 m.nano
    some (match s.mark, s.width with
      | some '-', _ => String.ofList (digits.toList.reverse.dropWhile (· == '0')).reverse
      | _, some w => (digits.take w).toString
      | _, none => digits)
  | 'p' => some (s.text (if m.hour < 12 then "AM" else "PM"))
  | 'P' => some (s.text (if m.hour < 12 then "am" else "pm"))
  | 'q' => some (s.number '0' 1 ((m.month + 2) / 3))
  | 's' => some (s.number '0' 1 (m.time.fdiv billion))
  | 'S' => some (s.number '0' 2 m.second)
  | 'u' => some (s.number '0' 1 (if m.weekday = 0 then 7 else m.weekday))
  | 'U' => some (s.number '0' 2 ((m.yearDay + 7 - m.weekday) / 7))
  | 'V' => some (s.number '0' 2 m.week.2)
  | 'w' => some (s.number '0' 1 m.weekday)
  | 'W' => some (s.number '0' 2 ((m.yearDay + 7 - (m.weekday + 6).fmod 7) / 7))
  | 'y' => some (s.number '0' 2 (m.year.fmod 100))
  | 'Y' => some (s.number '0' (if 0 ≤ m.year then 4 else 5) m.year)
  | 'z' =>
    some (if s.colons = 0 then "+0000" else if s.colons = 1 then "+00:00"
      else if s.colons = 2 then "+00:00:00" else "+00")
  | 'Z' => some (s.text "UTC")
  | _ => none

/-- Reads what stands between a percent sign and a letter. -/
def shape (cs : List Char) : Shape × List Char :=
  let (marks, rest) := cs.span fun c => "-_0^#+".toList.contains c
  let (digits, rest) := rest.span Char.isDigit
  let (colons, rest) := rest.span (· == ':')
  let rest := match rest with
    | 'E' :: more | 'O' :: more => if more.isEmpty then rest else more
    | _ => rest
  (⟨(marks.filter fun c => "-_0+".toList.contains c).getLast?,
    if digits.isEmpty then none else (String.ofList digits).toNat?,
    marks.contains '^' || marks.contains '#', colons.length⟩, rest)

def format (m : Moment) : Nat → List Char → String
  | 0, _ => ""
  | _, [] => ""
  | fuel + 1, '%' :: cs =>
    match shape cs with
    | (_, []) => "%" ++ String.ofList cs
    | (s, c :: rest) =>
      match compound? c with
      | some f => s.text (m.format fuel f.toList) ++ m.format fuel rest
      | none =>
        match m.simple? s c with
        | some text => text ++ m.format fuel rest
        | none => "%" ++ String.ofList (cs.take (cs.length - rest.length)) ++ m.format fuel rest
  | fuel + 1, c :: cs => String.singleton c ++ m.format fuel cs

def shown (m : Moment) (f : String) : String := m.format (2 * f.length + 100) f.toList

end Moment

/-- A part of a text that names a time. -/
inductive TimeWord where
  | number (sign : Option Char) (digits : List Char) (fraction : List Char)
  | word (w : String)
  | mark (c : Char)

structure TimeText where
  date : Option (Int × Int × Int)
  clock : Option Int
  zone : Option Int
  weekday : Option (Int × Int)
  years : Int
  months : Int
  days : Int
  nanos : Int
  stamp : Option Int

namespace TimeText

def empty : TimeText := ⟨none, none, none, none, 0, 0, 0, 0, none⟩

def split : Nat → List Char → List TimeWord
  | 0, _ => []
  | _, [] => []
  | fuel + 1, c :: cs =>
    if c = ' ' || c = ',' || ('\t' ≤ c && c ≤ '\r') then split fuel cs
    else if c.isAlpha then
      let (letters, rest) := (c :: cs).span fun c => c.isAlpha
      .word (String.ofList (letters.map Char.toLower)) ::
        split fuel (if rest.head? == some '.' then rest.tail else rest)
    else if c.isDigit || ((c = '+' || c = '-') && cs.head?.any Char.isDigit) then
      let (sign, digits) := if c.isDigit then (none, c :: cs) else (some c, cs)
      let (whole, rest) := digits.span Char.isDigit
      match rest with
      | '.' :: d :: more =>
        if d.isDigit then
          let (fraction, rest) := (d :: more).span Char.isDigit
          .number sign whole fraction :: split fuel rest
        else .number sign whole [] :: split fuel rest
      | _ => .number sign whole [] :: split fuel rest
    else .mark c :: split fuel cs

def valueOf (digits : List Char) : Int := ((String.ofList digits).toNat?).getD 0

def nanosOf (fraction : List Char) : Int :=
  valueOf ((fraction ++ List.replicate 9 '0').take 9)

def numberOf? (names : List String) (w : String) : Option Int :=
  let names := names.map fun n => n.map Char.toLower
  let fits := fun (n : String) => n == w || (n.take 3).toString == w
  (names.findIdx? fits).map Int.ofNat

def month? (w : String) : Option Int :=
  if w = "sept" then some 9 else (numberOf? Moment.months w).map (· + 1)

def weekday? (w : String) : Option Int :=
  if w = "tues" then some 2
  else if w = "wednes" then some 3
  else if w = "thur" || w = "thurs" then some 4
  else numberOf? Moment.weekdays w

def ordinals : List (String × Int) := [
  ("last", -1), ("this", 0), ("next", 1), ("first", 1), ("third", 3), ("fourth", 4), ("fifth", 5),
  ("sixth", 6), ("seventh", 7), ("eighth", 8), ("ninth", 9), ("tenth", 10), ("eleventh", 11),
  ("twelfth", 12)]

def ordinal? (w : String) : Option Int := (ordinals.find? fun o => o.1 == w).map Prod.snd

def zones : List (String × Int) := [
  ("utc", 0), ("gmt", 0), ("ut", 0), ("wet", 0), ("z", 0), ("est", -18000), ("edt", -14400),
  ("cst", -21600), ("cdt", -18000), ("mst", -25200), ("mdt", -21600), ("pst", -28800),
  ("pdt", -25200), ("cet", 3600), ("met", 3600), ("cest", 7200), ("bst", 3600), ("eet", 7200),
  ("msk", 10800), ("ist", 19800), ("jst", 32400)]

def zone? (w : String) : Option Int := (zones.find? fun z => z.1 == w).map Prod.snd

def shift? (t : TimeText) (n : Int) (fraction : Int) (unit : String) : Option TimeText :=
  let unit := if unit.endsWith "s" && 3 < unit.length then (unit.dropEnd 1).toString else unit
  match unit with
  | "year" => some { t with years := t.years + n }
  | "month" => some { t with months := t.months + n }
  | "fortnight" => some { t with days := t.days + 14 * n }
  | "week" => some { t with days := t.days + 7 * n }
  | "day" => some { t with days := t.days + n }
  | "hour" => some { t with nanos := t.nanos + 3600 * n * billion }
  | "minute" | "min" => some { t with nanos := t.nanos + 60 * n * billion }
  | "second" | "sec" => some { t with nanos := t.nanos + n * billion + fraction }
  | _ => none

/-- Turns around all distances read so far. -/
def reverse (t : TimeText) : TimeText :=
  { t with years := -t.years, months := -t.months, days := -t.days, nanos := -t.nanos }

def onDate? (t : TimeText) (year month day : Int) : Option TimeText :=
  if 1 ≤ month ∧ month ≤ 12 ∧ 1 ≤ day ∧ day ≤ dayNumber year (month + 1) 1 - dayNumber year month 1
  then some { t with date := some (year, month, day) }
  else none

def yearOf (digits : List Char) : Int :=
  let n := valueOf digits
  if digits.length = 2 then (if n < 69 then 2000 + n else 1900 + n) else n

def atClock? (t : TimeText) (hour minute second nano : Int) : Option TimeText :=
  if hour ≤ 24 ∧ minute < 60 ∧ second ≤ 60 ∧ (hour < 24 ∨ minute = 0 ∧ second = 0) then
    some { t with clock := some ((hour * 3600 + minute * 60 + second) * billion + nano) }
  else none

def offsetOf (sign : Char) (digits : List Char) (minutes : Option Int) : Int :=
  let n := valueOf digits
  let seconds := match minutes with
    | some m => n * 3600 + m * 60
    | none => if digits.length ≤ 2 then n * 3600 else n / 100 * 3600 + n % 100 * 60
  if sign = '-' then -seconds else seconds

def half? : List TimeWord → Option (Bool × List TimeWord)
  | .word "am" :: rest | .word "a" :: .word "m" :: rest => some (false, rest)
  | .word "pm" :: rest | .word "p" :: .word "m" :: rest => some (true, rest)
  | _ => none

def inHalf (hour : Int) (late : Bool) : Int := hour % 12 + if late then 12 else 0

def clockFrom? (t : TimeText) (hour : Int) (rest : List TimeWord) :
    Option (TimeText × List TimeWord) := do
  let (minute, second, nano, rest) ← match rest with
    | .mark ':' :: .number none m [] :: .mark ':' :: .number none s f :: rest =>
      some (valueOf m, valueOf s, nanosOf f, rest)
    | .mark ':' :: .number none m [] :: rest => some (valueOf m, 0, 0, rest)
    | rest => some (0, 0, 0, rest)
  match half? rest with
  | some (late, rest) =>
    if hour < 1 || 12 < hour then none
    else return (← t.atClock? (inHalf hour late) minute second nano, rest)
  | none =>
    let t ← t.atClock? hour minute second nano
    match rest with
    | .number (some sign) digits [] :: .mark ':' :: .number none m [] :: rest =>
      return ({ t with zone := some (offsetOf sign digits (some (valueOf m))) }, rest)
    | .number (some sign) digits [] :: .word w :: more =>
      if (t.shift? 0 0 w).isSome then return (t, .number (some sign) digits [] :: .word w :: more)
      else return ({ t with zone := some (offsetOf sign digits none) }, .word w :: more)
    | .number (some sign) digits [] :: rest =>
      return ({ t with zone := some (offsetOf sign digits none) }, rest)
    | _ => return (t, rest)

def digits? (t : TimeText) (digits : List Char) : Option TimeText :=
  if digits.length = 8 then
    t.onDate? (valueOf (digits.take 4)) (valueOf ((digits.drop 4).take 2)) (valueOf (digits.drop 6))
  else if t.date.isSome && t.clock.isSome && digits.length = 4 then
    t.date.bind fun (_, m, d) => t.onDate? (valueOf digits) m d
  else if digits.length ≤ 2 then t.atClock? (valueOf digits) 0 0 0
  else if digits.length = 4 then
    t.atClock? (valueOf (digits.take 2)) (valueOf (digits.drop 2)) 0 0
  else none

def fromNumber? (t : TimeText) (now : Moment) (digits fraction : List Char)
    (rest : List TimeWord) : Option (TimeText × List TimeWord) :=
  match rest with
  | .mark ':' :: _ => t.clockFrom? (valueOf digits) rest
  | .number (some '-') m [] :: .number (some '-') d [] :: rest =>
    (t.onDate? (yearOf digits) (valueOf m) (valueOf d)).map (·, rest)
  | .mark '/' :: .number none m [] :: .mark '/' :: .number none y [] :: rest =>
    if 4 ≤ digits.length then
      (t.onDate? (valueOf digits) (valueOf m) (valueOf y)).map (·, rest)
    else (t.onDate? (yearOf y) (valueOf digits) (valueOf m)).map (·, rest)
  | .mark '/' :: .number none d [] :: rest =>
    (t.onDate? now.year (valueOf digits) (valueOf d)).map (·, rest)
  | .word "t" :: .number none h [] :: more =>
    if digits.length = 8 then (t.digits? digits).map (·, .word "t" :: .number none h [] :: more)
    else none
  | .mark '-' :: .word w :: .number (some '-') y [] :: rest =>
    (month? w).bind fun m => (t.onDate? (yearOf y) m (valueOf digits)).map (·, rest)
  | .word w :: more =>
    match t.shift? (valueOf digits) (nanosOf fraction) w, month? w, half? rest with
    | some t, _, _ => some (t, more)
    | none, some m, _ =>
      match more with
      | .number none y [] :: .mark ':' :: _ =>
        (t.onDate? now.year m (valueOf digits)).map
          (·, .number none y [] :: more.tail)
      | .number none y [] :: rest | .number (some '-') y [] :: rest =>
        (t.onDate? (yearOf y) m (valueOf digits)).map (·, rest)
      | _ => (t.onDate? now.year m (valueOf digits)).map (·, more)
    | none, none, some _ => t.clockFrom? (valueOf digits) rest
    | none, none, none =>
      if fraction.isEmpty then (t.digits? digits).map (·, rest) else none
  | _ => if fraction.isEmpty then (t.digits? digits).map (·, rest) else none

def fromWord? (t : TimeText) (now : Moment) (w : String) (rest : List TimeWord) :
    Option (TimeText × List TimeWord) :=
  match w with
  | "now" | "today" => some (t, rest)
  | "yesterday" => some ({ t with days := t.days - 1 }, rest)
  | "tomorrow" => some ({ t with days := t.days + 1 }, rest)
  | "ago" => some (t.reverse, rest)
  | "midnight" => some ({ t with clock := some 0 }, rest)
  | "noon" => some ({ t with clock := some (12 * 3600 * billion) }, rest)
  | "t" => if t.date.isSome then some (t, rest) else none
  | _ =>
    match month? w, weekday? w, ordinal? w, zone? w with
    | some m, _, _, _ =>
      match rest with
      | .number none d [] :: .number none y [] :: .mark ':' :: more =>
        (t.onDate? now.year m (valueOf d)).map (·, .number none y [] :: .mark ':' :: more)
      | .number none d [] :: .number none y [] :: rest =>
        (t.onDate? (yearOf y) m (valueOf d)).map (·, rest)
      | .number none d [] :: rest => (t.onDate? now.year m (valueOf d)).map (·, rest)
      | _ => none
    | _, some d, _, _ => some ({ t with weekday := some (d, 0) }, rest)
    | _, _, some n, _ =>
      match rest with
      | .word unit :: more =>
        match t.shift? n 0 unit, weekday? unit with
        | some t, _ => some (t, more)
        | none, some d => some ({ t with weekday := some (d, n) }, more)
        | none, none => none
      | _ => none
    | _, _, _, some z =>
      match rest with
      | .number (some sign) digits [] :: .mark ':' :: .number none m [] :: rest =>
        some ({ t with zone := some (z + offsetOf sign digits (some (valueOf m))) }, rest)
      | .number (some sign) digits [] :: more =>
        match more with
        | .word u :: _ =>
          if (t.shift? 0 0 u).isSome then some ({ t with zone := some z }, rest)
          else some ({ t with zone := some (z + offsetOf sign digits none) }, more)
        | _ => some ({ t with zone := some (z + offsetOf sign digits none) }, more)
      | _ => some ({ t with zone := some z }, rest)
    | none, none, none, none => (t.shift? 1 0 w).map (·, rest)

def readFrom (now : Moment) : Nat → TimeText → List TimeWord → Option TimeText
  | 0, _, _ => none
  | _, t, [] => some t
  | fuel + 1, t, .number none digits fraction :: rest => do
    let (t, rest) ← t.fromNumber? now digits fraction rest
    readFrom now fuel t rest
  | fuel + 1, t, .number (some sign) digits fraction :: rest =>
    match rest with
    | .word w :: rest => do
      let n := valueOf digits
      let negative := sign = '-'
      let t ← t.shift? (if negative then -n else n)
        (if negative then -nanosOf fraction else nanosOf fraction) w
      readFrom now fuel t rest
    | _ => none
  | fuel + 1, t, .word w :: rest => do
    let (t, rest) ← t.fromWord? now w rest
    readFrom now fuel t rest
  | fuel + 1, t, .mark '@' :: .number sign digits fraction :: rest =>
    let n := valueOf digits * billion + nanosOf fraction
    let t := { t with stamp := some (if sign == some '-' then -n else n) }
    readFrom now fuel t rest
  | _, _, .mark _ :: _ => none

def time (t : TimeText) (now : Moment) : Int :=
  match t.stamp with
  | some time => time + t.days * daySeconds * billion + t.nanos
  | none =>
    let (year, month, day) := t.date.getD (now.year, now.month, now.day)
    let nowClock := (now.hour * 3600 + now.minute * 60 + now.second) * billion + now.nano
    let clock := match t.clock with
      | some c => c
      | none => if t.date.isSome || t.weekday.isSome then 0 else nowClock
    let start := dayNumber (year + t.years) (month + t.months) day + t.days
    let start := match t.weekday with
      | some (d, n) =>
        let ahead := (d - (start + 4)).fmod 7
        start + ahead + 7 * (n - if 0 < n && ahead ≠ 0 then 1 else 0)
      | none => start
    start * daySeconds * billion + clock + t.nanos - t.zone.getD 0 * billion

def read? (now : Int) (text : String) : Option Int :=
  let words := split (text.length + 1) text.toList
  let moment := Moment.ofTime now
  (readFrom moment (2 * words.length + 2) empty words).map fun t =>
    if words.isEmpty then now - now.fmod (daySeconds * billion) else t.time moment

end TimeText

end Assay.Utility
