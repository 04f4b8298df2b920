import SchemaTypes.Toml.Item
import SchemaTypes.Toml.Reader

/-! TOML numbers: integers of 64 bits in four bases, and floating point numbers. An underscore may
stand between two digits. -/
namespace SchemaTypes.Toml

def number (base : Nat) (digits : List Char) : Nat :=
  digits.foldl (fun n digit => n * base + (hexValue? digit).getD 0) 0

/-- Digits after the first one; an underscore stands between two digits only. -/
def moreDigits (isDigit : Char → Bool) : List Char → List Char × List Char
  | [] => ([], [])
  | [c] => if isDigit c then ([c], []) else ([], [c])
  | c :: d :: rest =>
    if isDigit c then
      let (digits, left) := moreDigits isDigit (d :: rest)
      (c :: digits, left)
    else if c = '_' && isDigit d then
      let (digits, left) := moreDigits isDigit (d :: rest)
      (digits, left)
    else ([], c :: d :: rest)

def digits (isDigit : Char → Bool) : Reader (List Char)
  | c :: rest =>
    if isDigit c then
      let (more, left) := moreDigits isDigit rest
      some (c :: more, left)
    else none
  | [] => none

def sign : List Char → Bool × List Char
  | '-' :: rest => (true, rest)
  | '+' :: rest => (false, rest)
  | s => (false, s)

/-- The digits of a decimal integer. Zero is alone: no other number starts with it. -/
def wholeDigits : Reader (List Char)
  | '0' :: rest => some (['0'], rest)
  | s => digits Char.isDigit s

def int64 (n : Int) : Option Int :=
  if -0x8000000000000000 ≤ n ∧ n < 0x8000000000000000 then some n else none

def isHexDigit (c : Char) : Bool := (hexValue? c).isSome

def radixInteger (base : Nat) (isDigit : Char → Bool) (s : List Char) :
    Option (Item × List Char) := do
  let (ds, rest) ← digits isDigit s
  return (.integer (← int64 (number base ds)), rest)

def integer : Reader Item
  | '0' :: 'x' :: rest => radixInteger 16 isHexDigit rest
  | '0' :: 'o' :: rest => radixInteger 8 (fun c => '0' ≤ c && c ≤ '7') rest
  | '0' :: 'b' :: rest => radixInteger 2 (fun c => c = '0' || c = '1') rest
  | s => do
    let (negative, s) := sign s
    let (ds, rest) ← wholeDigits s
    let n : Int := number 10 ds
    return (.integer (← int64 (if negative then -n else n)), rest)

/-- The double nearest to `m · 10^power`. Powers out of range are decided by the count of digits. -/
def decimalFloat (digits : List Char) (power : Int) : Float :=
  let m := number 10 digits
  let size := (Nat.toDigits 10 m).length + power
  if m = 0 || size < -330 then 0
  else if size > 330 then 1 / 0
  else if power < 0 then Float.ofScientific m true power.natAbs
  else Float.ofScientific m false power.natAbs

def exponent : Reader Int
  | 'e' :: rest | 'E' :: rest => do
    let (negative, rest) := sign rest
    let (ds, rest) ← digits Char.isDigit rest
    let n : Int := number 10 ds
    return (if negative then -n else n, rest)
  | _ => none

def fraction : Reader (List Char)
  | '.' :: rest => digits Char.isDigit rest
  | _ => none

/-- Infinities are written out; a decimal that is too large is not one. -/
def float (s : List Char) : Option (Item × List Char) := do
  let (negative, s) := sign s
  match s with
  | 'i' :: 'n' :: 'f' :: rest => return (.float (if negative then -1 / 0 else 1 / 0), rest)
  | 'n' :: 'a' :: 'n' :: rest => return (.float (0 / 0), rest)
  | _ =>
    let (whole, s) ← wholeDigits s
    let (part, s, isFraction) := match fraction s with
      | some (part, s) => (part, s, true)
      | none => ([], s, false)
    let (power, s) ← match exponent s with
      | some (power, s) => some (power, s)
      | none => if isFraction then some (0, s) else none
    let x := decimalFloat (whole ++ part) (power - part.length)
    if x.isInf && !negative then none
    else return (.float (if negative then -x else x), s)

end SchemaTypes.Toml
