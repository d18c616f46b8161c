import ClusterBootstrap.Decimal.Reading
import ClusterBootstrap.Toml.Text

/-!
# TOML numbers and times

Digits may be divided by single underscores.  Whole numbers fit a signed 64-bit word and may be written
in four bases; a fraction or an exponent makes a floating-point number.  Dates and times are checked
against the calendar and kept as text.
-/

namespace ClusterBootstrap.Toml

/-! ## Digits -/

/-- Digits with single underscores between them; the underscores are dropped. -/
def moreDigits (isDigit : Char → Bool) : List Char → List Char × List Char
  | [] => ([], [])
  | '_' :: [] => ([], ['_'])
  | '_' :: d :: rest =>
    if isDigit d then
      let (ds, rest) := moreDigits isDigit rest
      (d :: ds, rest)
    else ([], '_' :: d :: rest)
  | c :: rest =>
    if isDigit c then
      let (ds, rest) := moreDigits isDigit rest
      (c :: ds, rest)
    else ([], c :: rest)

/-- At least one digit, the first of which is no underscore. -/
def someDigits? (isDigit : Char → Bool) : List Char → Option (List Char × List Char)
  | [] => none
  | c :: rest =>
    if isDigit c then
      let (ds, rest) := moreDigits isDigit rest
      some (c :: ds, rest)
    else none

/-! ## Numbers -/

/-- A whole number that fits a signed 64-bit word. -/
def word? (n : Int) : Option Toml :=
  if Decimal.isSignedWord n then some (.integer n) else none

/-- Reads a number in another base after its two-character mark. -/
def based? (base : Nat) (text : List Char) : Option (Toml × List Char) := do
  let isDigit (c : Char) : Bool := (Text.hexValue? c).any (· < base)
  let (ds, rest) ← someDigits? isDigit text
  let n := ds.foldl (fun n c => base * n + (Text.hexValue? c).getD 0) 0
  return (← word? n, rest)

/-- The fraction behind a point, if there is one. -/
def fraction? : List Char → Option (List Char × List Char)
  | '.' :: rest => someDigits? Char.isDigit rest
  | _ => none

/-- Reads an exponent, if there is one. -/
def exponent? : List Char → Option (Int × List Char)
  | e :: rest =>
    if e = 'e' ∨ e = 'E' then do
      let (negative, rest) := match rest with
        | '-' :: rest => (true, rest)
        | '+' :: rest => (false, rest)
        | rest => (false, rest)
      let (ds, rest) ← someDigits? Char.isDigit rest
      let n : Int := Decimal.digitsValue ds
      return (if negative then -n else n, rest)
    else none
  | [] => none

/-- Reads a number in decimal after its sign.  Its whole part has no leading zero. -/
def decimal? (negative : Bool) (text : List Char) : Option (Toml × List Char) := do
  -- a zero in front stands alone
  let (whole, rest) ← match text with
    | '0' :: rest => some (['0'], rest)
    | text => someDigits? Char.isDigit text
  let fraction := fraction? rest
  let (fractionDigits, afterFraction) := fraction.getD ([], rest)
  let exponent := exponent? afterFraction
  if fraction.isNone && exponent.isNone then
    let n : Int := Decimal.digitsValue whole
    return (← word? (if negative then -n else n), rest)
  else
    let (e, rest) := exponent.getD (0, afterFraction)
    let digits := Decimal.digitsValue (whole ++ fractionDigits)
    let x := Decimal.ofDigits digits (e - fractionDigits.length)
    -- only a positive number may not be too large
    if x.isInf && !negative then none
    else return (.float (if negative then -x else x), rest)

/-- Reads the name of infinity or of the undefined value. -/
def special? (negative : Bool) : List Char → Option (Toml × List Char)
  | 'i' :: 'n' :: 'f' :: rest =>
    some (.float (Float.ofBits (if negative then 0xfff0000000000000 else 0x7ff0000000000000)), rest)
  | 'n' :: 'a' :: 'n' :: rest => some (.float (Float.ofBits 0x7ff8000000000000), rest)
  | _ => none

/-- Reads a number. -/
def number? : List Char → Option (Toml × List Char)
  | '0' :: 'x' :: rest => based? 16 rest
  | '0' :: 'o' :: rest => based? 8 rest
  | '0' :: 'b' :: rest => based? 2 rest
  | '-' :: rest => special? true rest <|> decimal? true rest
  | '+' :: rest => special? false rest <|> decimal? false rest
  | text => special? false text <|> decimal? false text

/-! ## Dates and times -/

/-- Reads exactly so many digits, with a value in the given range. -/
def fixed? (count low high : Nat) (text : List Char) : Option (List Char × List Char) :=
  let ds := text.take count
  let n := Decimal.digitsValue ds
  if ds.length = count ∧ ds.all Char.isDigit ∧ low ≤ n ∧ n ≤ high then some (ds, text.drop count)
  else none

/-- Reads one given character. -/
def char? (c : Char) : List Char → Option (List Char)
  | d :: rest => if d = c then some rest else none
  | [] => none

/-- The number of days of a month. -/
def daysIn (year month : Nat) : Nat :=
  if month = 2 then
    if year % 4 = 0 ∧ (year % 100 ≠ 0 ∨ year % 400 = 0) then 29 else 28
  else if month = 4 ∨ month = 6 ∨ month = 9 ∨ month = 11 then 30
  else 31

/-- Reads a date of the calendar. -/
def date? (text : List Char) : Option (List Char × List Char) := do
  let (year, rest) ← fixed? 4 0 9999 text
  let rest ← char? '-' rest
  let (month, rest) ← fixed? 2 1 12 rest
  let rest ← char? '-' rest
  let last := daysIn (Decimal.digitsValue year) (Decimal.digitsValue month)
  let (day, rest) ← fixed? 2 1 last rest
  return (year ++ '-' :: month ++ '-' :: day, rest)

/-- The fraction of a second, to nine places and without zeros at its end. -/
def secondFraction (digits : List Char) : List Char :=
  match ((digits.take 9).reverse.dropWhile (· = '0')).reverse with
  | [] => []
  | ds => '.' :: ds

/-- Reads a time of day; a minute may have a leap second. -/
def time? (text : List Char) : Option (List Char × List Char) := do
  let (hour, rest) ← fixed? 2 0 23 text
  let rest ← char? ':' rest
  let (minute, rest) ← fixed? 2 0 59 rest
  let rest ← char? ':' rest
  let (second, rest) ← fixed? 2 0 60 rest
  let whole := hour ++ ':' :: minute ++ ':' :: second
  match rest with
  | '.' :: after =>
    let (ds, after) := Decimal.spanDigits after
    if ds = [] then none else return (whole ++ secondFraction ds, after)
  | _ => return (whole, rest)

/-- Reads the offset of a time from the reference meridian.  An offset of nothing is written with a plus
sign. -/
def offset? : List Char → Option (List Char × List Char)
  | 'Z' :: rest | 'z' :: rest => some (['Z'], rest)
  | sign :: rest =>
    if sign = '+' ∨ sign = '-' then do
      let (hour, rest) ← fixed? 2 0 23 rest
      let rest ← char? ':' rest
      let (minute, rest) ← fixed? 2 0 59 rest
      let zero := Decimal.digitsValue (hour ++ minute) = 0
      return ((if zero then '+' else sign) :: hour ++ ':' :: minute, rest)
    else none
  | [] => none

/-- Reads the time behind a date, with its offset, if there is one. -/
def timeBehindDate? : List Char → Option (List Char × List Char)
  | c :: rest =>
    if c = 'T' ∨ c = 't' ∨ c = ' ' then do
      let (time, rest) ← time? rest
      let (offset, rest) := (offset? rest).getD ([], rest)
      return ('T' :: time ++ offset, rest)
    else none
  | [] => none

/-- Reads a date, a time, or both. -/
def datetime? (text : List Char) : Option (Toml × List Char) :=
  let read := match date? text with
    | some (date, rest) =>
      let (time, rest) := (timeBehindDate? rest).getD ([], rest)
      some (date ++ time, rest)
    | none => time? text
  read.map fun (cs, rest) => (.datetime (String.ofList cs), rest)

end ClusterBootstrap.Toml
