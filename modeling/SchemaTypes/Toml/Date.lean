import SchemaTypes.Toml.Number

/-! TOML dates and times. A date is kept as text, with a `T` before the time, a capital `Z`, and no
zeros at the end of the fraction of a second. -/
namespace SchemaTypes.Toml

def fixedDigits (count : Nat) (s : List Char) : Option (Nat × List Char) :=
  let ds := s.take count
  if ds.length = count && ds.all Char.isDigit then some (number 10 ds, s.drop count) else none

def padded (width n : Nat) : String :=
  let ds := Nat.toDigits 10 n
  String.ofList (List.replicate (width - ds.length) '0' ++ ds)

def daysInMonth (year month : Nat) : Nat :=
  if month = 2 then
    if year % 4 = 0 && (year % 100 ≠ 0 || year % 400 = 0) then 29 else 28
  else if month ∈ [4, 6, 9, 11] then 30 else 31

def date (s : List Char) : Option (String × List Char) := do
  let (year, s) ← fixedDigits 4 s
  let (month, s) ← fixedDigits 2 (← char '-' s)
  let (day, s) ← fixedDigits 2 (← char '-' s)
  if 1 ≤ month && month ≤ 12 && 1 ≤ day && day ≤ daysInMonth year month then
    some (padded 4 year ++ "-" ++ padded 2 month ++ "-" ++ padded 2 day, s)
  else none

/-- Parts of a second; what is below a nanosecond is dropped, and zeros at the end are. -/
def secondPart : List Char → Option (String × List Char)
  | '.' :: rest =>
    let ds := rest.takeWhile Char.isDigit
    if ds = [] then none
    else
      let kept := ((ds.take 9).reverse.dropWhile (· = '0')).reverse
      some (if kept = [] then "" else "." ++ String.ofList kept, rest.dropWhile Char.isDigit)
  | s => some ("", s)

def hourMinute (s : List Char) : Option ((Nat × Nat) × List Char) := do
  let (hour, s) ← fixedDigits 2 s
  let (minute, s) ← fixedDigits 2 (← char ':' s)
  if hour ≤ 23 && minute ≤ 59 then some ((hour, minute), s) else none

def time (s : List Char) : Option (String × List Char) := do
  let ((hour, minute), s) ← hourMinute s
  let (second, s) ← fixedDigits 2 (← char ':' s)
  let (part, s) ← secondPart s
  if second ≤ 60 then
    some (padded 2 hour ++ ":" ++ padded 2 minute ++ ":" ++ padded 2 second ++ part, s)
  else none

/-- An offset from universal time, or none. -/
def timeOffset : List Char → Option (String × List Char)
  | 'Z' :: rest | 'z' :: rest => some ("Z", rest)
  | '+' :: rest => do
    let ((hour, minute), rest) ← hourMinute rest
    some ("+" ++ padded 2 hour ++ ":" ++ padded 2 minute, rest)
  | '-' :: rest => do
    let ((hour, minute), rest) ← hourMinute rest
    let sign := if hour = 0 && minute = 0 then "+" else "-"
    some (sign ++ padded 2 hour ++ ":" ++ padded 2 minute, rest)
  | s => some ("", s)

/-- A date, a time or both, in the text that a reader of dates gets to see. -/
def dateTime (s : List Char) : Option (Item × List Char) :=
  match date s with
  | some (day, s) =>
    let clock := match s with
      | 'T' :: rest | 't' :: rest | ' ' :: rest => time rest
      | _ => none
    match clock with
    | none => some (.date day, s)
    | some (hours, s) => do
      let (offset, s) ← timeOffset s
      some (.date (day ++ "T" ++ hours ++ offset), s)
  | none => (time s).map fun (hours, s) => (.date hours, s)

end SchemaTypes.Toml
