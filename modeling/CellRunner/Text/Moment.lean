/-!
# Days and hours

A moment is counted in seconds from the beginning of 1970, without leap seconds. A day of the
calendar is found from the number of days since then.
-/

set_option autoImplicit false

namespace CellRunner

/-- A day of the calendar with a time of day. -/
structure Moment where
  year : Int
  month : Nat
  day : Nat
  hour : Nat := 0
  minute : Nat := 0
  second : Nat := 0
  /-- microseconds -/
  fraction : Nat := 0
  deriving DecidableEq, Repr

namespace Moment

/-- Days from the first of March of year zero to the first of 1970. -/
def epochDay : Int := 719468

/-- The number of a day since 1970; years begin in March, so that a leap day comes last. -/
def days (year : Int) (month day : Nat) : Int :=
  let y := if month ≤ 2 then year - 1 else year
  let era := y.fdiv 400
  let inEra := y - era * 400
  let shifted : Int := (month + 9) % 12
  let inYear := (153 * shifted + 2) / 5 + day - 1
  era * 146097 + inEra * 365 + inEra / 4 - inEra / 100 + inYear - epochDay

/-- The day of the calendar with a number. -/
def ofDays (n : Int) : Int × Nat × Nat :=
  let z := n + epochDay
  let era := z.fdiv 146097
  let inEra := (z - era * 146097).toNat
  let year := (inEra - inEra / 1460 + inEra / 36524 - inEra / 146096) / 365
  let inYear := inEra - (365 * year + year / 4 - year / 100)
  let shifted := (5 * inYear + 2) / 153
  let day := inYear - (153 * shifted + 2) / 5 + 1
  let month := if shifted < 10 then shifted + 3 else shifted - 9
  ((year : Int) + era * 400 + (if month ≤ 2 then 1 else 0), month, day)

/-- Microseconds since 1970. -/
def count (m : Moment) : Int :=
  (((days m.year m.month m.day * 24 + m.hour) * 60 + m.minute) * 60 + m.second) * 1000000 +
    m.fraction

def ofCount (n : Int) : Moment :=
  let seconds := n.fdiv 1000000
  let d := seconds.fdiv 86400
  let s := (seconds - d * 86400).toNat
  let (year, month, day) := ofDays d
  { year, month, day, hour := s / 3600, minute := s / 60 % 60, second := s % 60
    fraction := (n - seconds * 1000000).toNat }

/-- Days since Sunday. -/
def weekday (m : Moment) : Nat := ((days m.year m.month m.day + 4).fmod 7).toNat

/-- Days since the first of January. -/
def yearDay (m : Moment) : Nat := (days m.year m.month m.day - days m.year 1 1).toNat

def weekdayNames : List String :=
  ["Sunday", "Monday", "Tuesday", "Wednesday", "Thursday", "Friday", "Saturday"]

def monthNames : List String :=
  ["January", "February", "March", "April", "May", "June", "July", "August", "September",
    "October", "November", "December"]

def isLeap (y : Int) : Bool := (y % 4 = 0 && y % 100 ≠ 0) || y % 400 = 0

/-- The number of a week and the year that it belongs to, where weeks begin on Monday and
belong to the year of their Thursday. -/
def week (m : Moment) : Int × Nat :=
  let w := (m.weekday + 6) % 7
  let thursday : Int := (m.yearDay : Int) - w + 3
  if thursday < 0 then
    let len : Int := if isLeap (m.year - 1) then 366 else 365
    (m.year - 1, ((thursday + len) / 7 + 1).toNat)
  else
    let len : Int := if isLeap m.year then 366 else 365
    if thursday ≥ len then (m.year + 1, 1) else (m.year, (thursday / 7 + 1).toNat)

/-! ### Writing -/

def digitsOf (n : Nat) : List Char := Nat.toDigits 10 n

def signedDigits (n : Int) : List Char :=
  if n < 0 then '-' :: digitsOf n.natAbs else digitsOf n.natAbs

def valueOf (digits : List Char) : Nat := digits.foldl (fun n c => n * 10 + (c.toNat - 48)) 0

def padLeft (width : Nat) (cs : List Char) : List Char :=
  List.replicate (width - cs.length) ' ' ++ cs

def zeros (width n : Nat) : List Char :=
  let ds := digitsOf n
  List.replicate (width - ds.length) '0' ++ ds

def blanks (width n : Nat) : List Char := padLeft width (digitsOf n)

def yearText (y : Int) : List Char :=
  if y < 0 then '-' :: zeros 4 y.natAbs else zeros 4 y.toNat

def short (s : String) : List Char := s.toList.take 3

def twelve (hour : Nat) : Nat := if hour % 12 = 0 then 12 else hour % 12

/-- What a letter after a percent sign stands for. -/
def field (m : Moment) (c : Char) : Option (List Char) :=
  let date := zeros 2 m.month ++ '/' :: zeros 2 m.day ++ '/' :: zeros 2 (m.year % 100).toNat
  let time := zeros 2 m.hour ++ ':' :: zeros 2 m.minute ++ ':' :: zeros 2 m.second
  match c with
  | 'Y' => some (yearText m.year)
  | 'C' => some (zeros 2 (m.year / 100).toNat)
  | 'y' => some (zeros 2 (m.year % 100).toNat)
  | 'm' => some (zeros 2 m.month)
  | 'd' => some (zeros 2 m.day)
  | 'e' => some (blanks 2 m.day)
  | 'H' => some (zeros 2 m.hour)
  | 'k' => some (blanks 2 m.hour)
  | 'I' => some (zeros 2 (twelve m.hour))
  | 'l' => some (blanks 2 (twelve m.hour))
  | 'M' => some (zeros 2 m.minute)
  | 'S' => some (zeros 2 m.second)
  | 'N' => some (zeros 9 (m.fraction * 1000))
  | 's' => some (signedDigits (m.count.fdiv 1000000))
  | 'p' => some (if m.hour < 12 then "AM".toList else "PM".toList)
  | 'P' => some (if m.hour < 12 then "am".toList else "pm".toList)
  | 'a' => some (short (weekdayNames.getD m.weekday ""))
  | 'A' => some (weekdayNames.getD m.weekday "").toList
  | 'b' => some (short (monthNames.getD (m.month - 1) ""))
  | 'h' => some (short (monthNames.getD (m.month - 1) ""))
  | 'B' => some (monthNames.getD (m.month - 1) "").toList
  | 'j' => some (zeros 3 (m.yearDay + 1))
  | 'q' => some (digitsOf ((m.month - 1) / 3 + 1))
  | 'u' => some (digitsOf (if m.weekday = 0 then 7 else m.weekday))
  | 'w' => some (digitsOf m.weekday)
  | 'U' => some (zeros 2 ((m.yearDay + 7 - m.weekday) / 7))
  | 'W' => some (zeros 2 ((m.yearDay + 7 - (m.weekday + 6) % 7) / 7))
  | 'V' => some (zeros 2 m.week.2)
  | 'G' => some (yearText m.week.1)
  | 'g' => some (zeros 2 (m.week.1 % 100).toNat)
  | 'D' => some date
  | 'x' => some date
  | 'F' => some (yearText m.year ++ '-' :: zeros 2 m.month ++ '-' :: zeros 2 m.day)
  | 'T' => some time
  | 'X' => some time
  | 'R' => some (time.take 5)
  | 'r' =>
    some (zeros 2 (twelve m.hour) ++ time.drop 2 ++ (if m.hour < 12 then " AM" else " PM").toList)
  | 'c' =>
    some (short (weekdayNames.getD m.weekday "") ++ ' ' ::
      short (monthNames.getD (m.month - 1) "") ++ ' ' :: blanks 2 m.day ++ ' ' :: time ++ ' ' ::
      yearText m.year)
  | 'Z' => some "UTC".toList
  | 'z' => some "+0000".toList
  | 'n' => some ['\n']
  | 't' => some ['\t']
  | '%' => some ['%']
  | _ => none

/-- Fills a format. A dash, an underscore or a zero after the percent sign changes what stands
in front of numbers, and a caret makes letters capital. -/
def format (m : Moment) : Nat → List Char → List Char
  | 0, _ => []
  | _ + 1, [] => []
  | fuel + 1, c :: cs =>
    if c != '%' then c :: format m fuel cs
    else
      let flags := cs.takeWhile "-_0^#+:".toList.contains
      let rest := cs.drop flags.length
      let digits := rest.takeWhile Char.isDigit
      match rest.drop digits.length with
      | [] => '%' :: cs
      | letter :: rest =>
        match m.field letter with
        | none => '%' :: (cs.take (flags.length + digits.length + 1)) ++ format m fuel rest
        | some text =>
          let bare := text.dropWhile fun c => c = '0' || c = ' '
          let isNumber := text.all fun c => c.isDigit || c = ' '
          let bare := if bare.isEmpty then ['0'] else bare
          let text := if isNumber && flags.contains '-' then bare
            else if isNumber && flags.contains '_' then padLeft text.length bare
            else if isNumber && flags.contains '0' then
              List.replicate (text.length - bare.length) '0' ++ bare
            else text
          let text := if flags.contains '^' then text.map Char.toUpper else text
          let text := if letter = 'N' && !digits.isEmpty then
              text.take (valueOf digits)
            else if letter = 'z' && flags.contains ':' then "+00:00".toList
            else
              List.replicate (valueOf digits - text.length)
                (if isNumber then '0' else ' ') ++ text
          text ++ format m fuel rest

def text (m : Moment) (cs : List Char) : List Char := format m (cs.length + 1) cs

end Moment

end CellRunner
