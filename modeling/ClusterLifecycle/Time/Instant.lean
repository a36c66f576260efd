import ClusterLifecycle.Decimal.Digits

/-!
# Instants

An instant is a second of the proleptic Gregorian calendar in universal time; a minute may have a
sixty-first second. Instants are written as `2022-06-01T12:00:00Z`. Reading is lenient: blanks may
stand in front of every part, a fraction of the second is dropped, and an offset from universal time
is taken off.
-/

namespace ClusterLifecycle

/-- Whether a year has a 29th of February. -/
def isLeapYear (year : Int) : Bool :=
  year % 4 = 0 && (year % 100 ≠ 0 || year % 400 = 0)

/-- The number of days of a month. -/
def daysInMonth (year : Int) (month : Nat) : Nat :=
  match month with
  | 2 => if isLeapYear year then 29 else 28
  | 4 | 6 | 9 | 11 => 30
  | _ => 31

/-- A date and time of day, before it is known to exist. -/
structure Civil where
  year : Int
  month : Nat
  day : Nat
  hour : Nat
  minute : Nat
  second : Nat
deriving DecidableEq, Repr

namespace Civil

/-- Whether the date and time exist. -/
def Exists (c : Civil) : Prop :=
  (-262143 ≤ c.year ∧ c.year ≤ 262142) ∧ (1 ≤ c.month ∧ c.month ≤ 12) ∧
    (1 ≤ c.day ∧ c.day ≤ daysInMonth c.year c.month) ∧ c.hour < 24 ∧ c.minute < 60 ∧
    c.second ≤ 60

instance (c : Civil) : Decidable c.Exists := by
  unfold Exists
  infer_instance

/-- The same time on the next day. -/
def nextDay (c : Civil) : Civil :=
  if c.day < daysInMonth c.year c.month then { c with day := c.day + 1 }
  else if c.month < 12 then { c with month := c.month + 1, day := 1 }
  else { c with year := c.year + 1, month := 1, day := 1 }

/-- The same time on the day before. -/
def previousDay (c : Civil) : Civil :=
  if 1 < c.day then { c with day := c.day - 1 }
  else if 1 < c.month then
    { c with month := c.month - 1, day := daysInMonth c.year (c.month - 1) }
  else { c with year := c.year - 1, month := 12, day := 31 }

/-- The date and time in universal time, given the minutes by which they are ahead of it. -/
def toUniversal (c : Civil) (ahead : Int) : Civil :=
  let minutes : Int := c.hour * 60 + c.minute - ahead
  let shifted := if minutes < 0 then c.previousDay else if minutes < 1440 then c else c.nextDay
  let ofDay := (minutes % 1440).toNat
  { shifted with hour := ofDay / 60, minute := ofDay % 60 }

theorem toUniversal_zero {c : Civil} (h : c.Exists) : c.toUniversal 0 = c := by
  obtain ⟨_, _, _, hh, hm, _⟩ := h
  have hlow : ¬ ((c.hour : Int) * 60 + c.minute - 0 < 0) := by omega
  have hhigh : (c.hour : Int) * 60 + c.minute - 0 < 1440 := by omega
  have hday : (((c.hour : Int) * 60 + c.minute - 0) % 1440).toNat = c.hour * 60 + c.minute := by
    omega
  have hhour : (c.hour * 60 + c.minute) / 60 = c.hour := by omega
  have hminute : (c.hour * 60 + c.minute) % 60 = c.minute := by omega
  simp only [toUniversal, hlow, hhigh, hday, hhour, hminute, if_true, if_false]

end Civil

/-- A second of universal time. -/
structure Instant where
  /-- Its date and time of day. -/
  civil : Civil
  /-- They exist. -/
  exists_civil : civil.Exists
deriving DecidableEq

namespace Instant

instance : Repr Instant where
  reprPrec i n := reprPrec i.civil n

/-- The instant of a date and time, if they exist. -/
def ofCivil? (c : Civil) : Option Instant :=
  if h : c.Exists then some ⟨c, h⟩ else none

/-! ## Writing -/

/-- A number with at least `width` digits. -/
def padded (width n : Nat) : List Char :=
  let digits := Decimal.encode n
  List.replicate (width - digits.length) '0' ++ digits

/-- A year: four digits, or a sign and at least four digits. -/
def yearChars : Int → List Char
  | .ofNat n => if n < 10000 then padded 4 n else '+' :: padded 4 n
  | .negSucc n => '-' :: padded 4 (n + 1)

/-- The characters of an instant. -/
def chars (i : Instant) : List Char :=
  yearChars i.civil.year ++ '-' :: padded 2 i.civil.month ++ '-' :: padded 2 i.civil.day ++
    'T' :: padded 2 i.civil.hour ++ ':' :: padded 2 i.civil.minute ++
    ':' :: padded 2 i.civil.second ++ ['Z']

/-- The text of an instant. -/
def text (i : Instant) : String :=
  String.ofList i.chars

/-! ## Reading -/

/-- Splits off the digits in front, at most `width` of them. -/
def spanDigits (width : Nat) (cs : List Char) : List Char × List Char :=
  let digits := (cs.take width).takeWhile Char.isDigit
  (digits, cs.drop digits.length)

/-- A number of at most `width` digits. -/
def number? (width : Nat) (cs : List Char) : Option (Nat × List Char) :=
  let (digits, rest) := spanDigits width cs
  (Decimal.decode? digits).map (·, rest)

/-- A number of one or two digits, behind blanks. -/
def part? (cs : List Char) : Option (Nat × List Char) :=
  number? 2 (Text.trimStart cs)

/-- A year: up to four digits, or a sign and any number of digits. -/
def year? (cs : List Char) : Option (Int × List Char) :=
  match Text.trimStart cs with
  | '-' :: rest => (number? rest.length rest).map fun (n, rest) => (-(n : Int), rest)
  | '+' :: rest => (number? rest.length rest).map fun (n, rest) => ((n : Int), rest)
  | rest => (number? 4 rest).map fun (n, rest) => ((n : Int), rest)

/-- A given character, behind blanks. -/
def mark? (c : Char) (cs : List Char) : Option (List Char) :=
  match Text.trimStart cs with
  | d :: rest => if d = c then some rest else none
  | [] => none

/-- Skips a fraction of a second. -/
def skipFraction? : List Char → Option (List Char)
  | '.' :: rest =>
    if (rest.takeWhile Char.isDigit).isEmpty then none else some (rest.dropWhile Char.isDigit)
  | cs => some cs

/-- The offset in minutes behind a sign: two digits of hours and two of minutes, with or without
colons and blanks between them. -/
def hoursAndMinutes? (cs : List Char) : Option (Int × List Char) :=
  match cs with
  | h₁ :: h₂ :: rest =>
    match rest.dropWhile (fun c => c = ':' || Text.isBlank c) with
    | m₁ :: m₂ :: rest => do
      let hours ← Decimal.decode? [h₁, h₂]
      let minutes ← Decimal.decode? [m₁, m₂]
      if hours < 24 ∧ minutes < 60 then some ((hours * 60 + minutes : Nat), rest) else none
    | _ => none
  | _ => none

/-- The minutes by which a time is ahead of universal time, as its end states them. -/
def offset? (cs : List Char) : Option (Int × List Char) :=
  match Text.trimStart cs with
  | 'Z' :: rest | 'z' :: rest => some (0, rest)
  | '+' :: rest => hoursAndMinutes? rest
  | '-' :: rest | '\u2212' :: rest => (hoursAndMinutes? rest).map fun (n, rest) => (-n, rest)
  | u :: t :: c :: rest =>
    if u.toUpper = 'U' ∧ t.toUpper = 'T' ∧ c.toUpper = 'C' then some (0, rest) else none
  | _ => none

/-- Reads an instant. -/
def ofChars? (cs : List Char) : Option Instant := do
  let (year, cs) ← year? cs
  let cs ← mark? '-' cs
  let (month, cs) ← part? cs
  let cs ← mark? '-' cs
  let (day, cs) ← part? cs
  let cs ← match cs with
    | 'T' :: rest | 't' :: rest | ' ' :: rest => some rest
    | _ => none
  let (hour, cs) ← part? cs
  let cs ← mark? ':' cs
  let (minute, cs) ← part? cs
  let cs ← mark? ':' cs
  let (second, cs) ← part? cs
  let cs ← skipFraction? cs
  let (ahead, cs) ← offset? cs
  let stated : Civil := ⟨year, month, day, hour, minute, second⟩
  if stated.Exists ∧ (Text.trimStart cs).isEmpty then ofCivil? (stated.toUniversal ahead) else none

/-- Reads an instant. -/
def ofText? (s : String) : Option Instant :=
  ofChars? s.toList

end Instant

end ClusterLifecycle
