import LightingDesk.Text.Blank
import LightingDesk.Text.Letter
/-!
Instants of the civil calendar in universal time, and their text: a date, a time of day with 0, 3,
6 or 9 fractional digits, and a zone. Reading is more lenient than writing; it takes any zone
offset, short numbers and blanks between the parts.
-/

namespace LightingDesk

namespace Calendar

def isLeapYear (year : Int) : Bool := year % 4 == 0 && (year % 100 != 0 || year % 400 == 0)

def daysInMonth (year : Int) (month : Nat) : Nat :=
  match month with
  | 4 | 6 | 9 | 11 => 30
  | 2 => if isLeapYear year then 29 else 28
  | _ => 31

/-- Days since the first of January 1970. The year is taken to begin in March, so that the leap
day is its last. -/
def dayNumber (year : Int) (month day : Nat) : Int :=
  let shifted := if month ≤ 2 then year - 1 else year
  let era := shifted / 400
  let yearOfEra := shifted - era * 400
  let monthFromMarch : Int := if month ≤ 2 then month + 9 else (month : Int) - 3
  let dayOfYear := (153 * monthFromMarch + 2) / 5 + day - 1
  let dayOfEra := yearOfEra * 365 + yearOfEra / 4 - yearOfEra / 100 + dayOfYear
  era * 146097 + dayOfEra - 719468

/-- The year, month and day of a day number. -/
def ofDayNumber (number : Int) : Int × Nat × Nat :=
  let shifted := number + 719468
  let era := shifted / 146097
  let dayOfEra := shifted - era * 146097
  let yearOfEra := (dayOfEra - dayOfEra / 1460 + dayOfEra / 36524 - dayOfEra / 146096) / 365
  let dayOfYear := dayOfEra - (365 * yearOfEra + yearOfEra / 4 - yearOfEra / 100)
  let monthFromMarch := (5 * dayOfYear + 2) / 153
  let day := dayOfYear - (153 * monthFromMarch + 2) / 5 + 1
  let month := if monthFromMarch < 10 then monthFromMarch + 3 else monthFromMarch - 9
  let year := yearOfEra + era * 400 + (if month ≤ 2 then 1 else 0)
  (year, month.toNat, day.toNat)

end Calendar

/-- What the fields of an instant may be. Nanoseconds of a billion and more belong to a leap second,
which follows the last second of a minute. -/
def Timestamp.Valid (year : Int) (month day second nanosecond : Nat) : Prop :=
  -262143 ≤ year ∧ year ≤ 262142 ∧ 1 ≤ month ∧ month ≤ 12 ∧ 1 ≤ day ∧
    day ≤ Calendar.daysInMonth year month ∧ second < 86400 ∧
    (nanosecond < 1000000000 ∨ (nanosecond < 2000000000 ∧ second % 60 = 59))

instance (year : Int) (month day second nanosecond : Nat) :
    Decidable (Timestamp.Valid year month day second nanosecond) := by
  unfold Timestamp.Valid
  infer_instance

/-- An instant in universal time; `second` counts from midnight. -/
structure Timestamp where
  year : Int
  month : Nat
  day : Nat
  second : Nat
  nanosecond : Nat
  valid : Timestamp.Valid year month day second nanosecond
deriving DecidableEq

namespace Timestamp

def epoch : Timestamp := ⟨1970, 1, 1, 0, 0, by decide⟩

instance : Inhabited Timestamp := ⟨epoch⟩

def ofFields? (year : Int) (month day second nanosecond : Nat) : Option Timestamp :=
  if valid : Valid year month day second nanosecond then
    some ⟨year, month, day, second, nanosecond, valid⟩
  else none

/-- The instant a number of seconds after the first of January 1970. -/
def ofEpoch? (seconds : Int) (nanosecond : Nat) : Option Timestamp :=
  let date := Calendar.ofDayNumber (seconds / 86400)
  ofFields? date.1 date.2.1 date.2.2 (seconds % 86400).toNat nanosecond

/-- The instant whose reading on a clock `offset` seconds ahead of universal time is given. -/
def shifted? (stamp : Timestamp) (offset : Int) : Option Timestamp :=
  if offset = 0 then some stamp
  else
    ofEpoch? (Calendar.dayNumber stamp.year stamp.month stamp.day * 86400 + stamp.second - offset)
      stamp.nanosecond

/-! ### Writing -/

/-- The last `count` decimal digits of a number. -/
def digits : Nat → Nat → List Char
  | 0, _ => []
  | count + 1, value => digits count (value / 10) ++ [Char.ofNat (48 + value % 10)]

def yearText (year : Int) : List Char :=
  if 0 ≤ year ∧ year ≤ 9999 then digits 4 year.toNat
  else
    let magnitude := year.natAbs
    (if year < 0 then '-' else '+') :: digits (if magnitude < 10000 then 4 else
      if magnitude < 100000 then 5 else 6) magnitude

/-- The fraction of a second, with as many groups of three digits as it needs. -/
def fractionText (nanosecond : Nat) : List Char :=
  if nanosecond = 0 then []
  else if nanosecond % 1000000 = 0 then '.' :: digits 3 (nanosecond / 1000000)
  else if nanosecond % 1000 = 0 then '.' :: digits 6 (nanosecond / 1000)
  else '.' :: digits 9 nanosecond

def render (stamp : Timestamp) : String :=
  let leap := if stamp.nanosecond < 1000000000 then 0 else 1
  String.ofList
    (yearText stamp.year ++ '-' :: digits 2 stamp.month ++ '-' :: digits 2 stamp.day ++
      'T' :: digits 2 (stamp.second / 3600) ++ ':' :: digits 2 (stamp.second / 60 % 60) ++
      ':' :: digits 2 (stamp.second % 60 + leap) ++
      fractionText (stamp.nanosecond % 1000000000) ++ ['Z'])

/-! ### Reading -/

def digitValue? (c : Char) : Option Nat := if c.isDigit then some (c.toNat - 48) else none

/-- At most `count` leading digits, at least one; `limit` bounds the value. -/
def takeNumber (count : Nat) (text : List Char) : Option (Nat × List Char) :=
  let run := (text.take count).takeWhile Char.isDigit
  if run.isEmpty then none
  else some (run.foldl (fun value c => value * 10 + (c.toNat - 48)) 0, text.drop run.length)

def takeSymbol (symbol : Char) (text : List Char) : Option (List Char) :=
  match Text.trimStart text with
  | c :: rest => if c = symbol then some rest else none
  | [] => none

/-- A year; with a sign it may have any number of digits, without one it has at most four. -/
def takeYear (text : List Char) : Option (Int × List Char) :=
  match Text.trimStart text with
  | '-' :: rest => (takeNumber rest.length rest).map fun (value, rest) => (-(value : Int), rest)
  | '+' :: rest => (takeNumber rest.length rest).map fun (value, rest) => ((value : Int), rest)
  | rest => (takeNumber 4 rest).map fun (value, rest) => ((value : Int), rest)

def takeTwo (text : List Char) : Option (Nat × List Char) := takeNumber 2 (Text.trimStart text)

/-- A fraction as nanoseconds; digits after the ninth are dropped. -/
def takeFraction (text : List Char) : Option (Nat × List Char) :=
  match text with
  | '.' :: rest =>
      let run := rest.takeWhile Char.isDigit
      if run.isEmpty then none
      else
        let kept := run.take 9
        let value := kept.foldl (fun value c => value * 10 + (c.toNat - 48)) 0
        some (value * Nat.pow 10 (9 - kept.length), rest.drop run.length)
  | _ => some (0, text)

/-- A zone as seconds ahead of universal time: `Z`, `UTC`, or a sign, hours and minutes. -/
def takeZone (text : List Char) : Option (Int × List Char) :=
  match Text.trimStart text with
  | [] => none
  | sign :: rest =>
      if Text.sameLetters (String.ofList (sign :: rest.take 2)) "UTC" then some (0, rest.drop 2)
      else if sign = 'Z' ∨ sign = 'z' then some (0, rest)
      else if sign = '+' ∨ sign = '-' ∨ sign = '\u2212' then
        match rest with
        | tens :: ones :: rest =>
            match digitValue? tens, digitValue? ones with
            | some tens, some ones =>
                match rest.dropWhile fun c => c = ':' || Text.isBlank c with
                | minuteTens :: minuteOnes :: rest =>
                    match digitValue? minuteTens, digitValue? minuteOnes with
                    | some minuteTens, some minuteOnes =>
                        let seconds : Int :=
                          (tens * 10 + ones) * 3600 + (minuteTens * 10 + minuteOnes) * 60
                        if minuteTens ≤ 5 ∧ seconds < 86400 then
                          some (if sign = '+' then seconds else -seconds, rest)
                        else none
                    | _, _ => none
                | _ => none
            | _, _ => none
        | _ => none
      else none

def parse? (text : String) : Option Timestamp := do
  let (year, rest) ← takeYear text.toList
  let rest ← takeSymbol '-' rest
  let (month, rest) ← takeTwo rest
  let rest ← takeSymbol '-' rest
  let (day, rest) ← takeTwo rest
  let rest ← match rest with
    | c :: rest => if c = 't' ∨ c = 'T' ∨ c = ' ' then some rest else none
    | [] => none
  let (hour, rest) ← takeTwo rest
  let rest ← takeSymbol ':' rest
  let (minute, rest) ← takeTwo rest
  let rest ← takeSymbol ':' rest
  let (second, rest) ← takeTwo rest
  let (nanosecond, rest) ← takeFraction rest
  let (offset, rest) ← takeZone rest
  if ¬ (Text.trimStart rest).isEmpty ∨ 24 ≤ hour ∨ 60 ≤ minute ∨ 61 ≤ second then none
  let leap := second = 60
  let stamp ← ofFields? year month day (hour * 3600 + minute * 60 + (if leap then 59 else second))
    (if leap then nanosecond + 1000000000 else nanosecond)
  stamp.shifted? offset

end Timestamp

end LightingDesk
