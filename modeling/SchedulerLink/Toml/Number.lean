import SchedulerLink.Bytes
import SchedulerLink.Toml.Basic

/-!
Numbers, dates and times in TOML documents.
-/

namespace SchedulerLink.Toml

/-! Numbers. -/

def readDigits (isDigit : Char → Bool) : List Char → Option (List Char × List Char)
  | digit :: '_' :: next :: rest =>
    if isDigit digit then
      if isDigit next then
        (readDigits isDigit (next :: rest)).map fun (digits, rest) => (digit :: digits, rest)
      else none
    else none
  | digit :: rest =>
    if isDigit digit then
      match readDigits isDigit rest with
      | some (digits, rest) => some (digit :: digits, rest)
      | none => if rest.head?.any isDigit then none else some ([digit], rest)
    else none
  | [] => none

def digitsValue (base : Nat) (digits : List Char) : Nat :=
  digits.foldl (fun value digit => base * value + (Ascii.hexDigit? digit.toUInt8).getD 0) 0

def readSign : List Char → Bool × List Char
  | '-' :: rest => (true, rest)
  | '+' :: rest => (false, rest)
  | text => (false, text)

def readWholeDigits : List Char → Option (List Char × List Char)
  | '0' :: rest => some (['0'], rest)
  | text => readDigits Char.isDigit text

def inRange (value : Int) (rest : List Char) : Option (Toml × List Char) :=
  if -0x8000000000000000 ≤ value ∧ value < 0x8000000000000000 then some (.integer value, rest)
  else none

def isOctalDigit (character : Char) : Bool := '0' ≤ character && character ≤ '7'

def isHexDigit (character : Char) : Bool :=
  character.isDigit || ('a' ≤ character && character ≤ 'f') || ('A' ≤ character && character ≤ 'F')

def readFraction : List Char → Option (List Char × List Char)
  | '.' :: rest => readDigits Char.isDigit rest
  | rest => some ([], rest)

def readPower : List Char → Option (Option Int × List Char)
  | letter :: rest =>
    if letter = 'e' ∨ letter = 'E' then do
      let (negative, rest) := readSign rest
      let (digits, rest) ← readDigits Char.isDigit rest
      let value : Int := digitsValue 10 digits
      pure (some (if negative then -value else value), rest)
    else some (none, letter :: rest)
  | [] => some (none, [])

/-- A number in decimal. A float that is too large is refused unless it is negative. -/
def readDecimal (negative : Bool) (text : List Char) : Option (Toml × List Char) := do
  let (whole, rest) ← readWholeDigits text
  let (fraction, rest) ← readFraction rest
  let (power, rest) ← readPower rest
  if fraction.isEmpty ∧ power.isNone then
    let value : Int := digitsValue 10 whole
    inRange (if negative then -value else value) rest
  else
    let value := Binary64.ofDecimal negative (digitsValue 10 (whole ++ fraction))
      (power.getD 0 - fraction.length)
    if value = .infinity false then none else some (.real value, rest)

def readNumber (text : List Char) : Option (Toml × List Char) :=
  match text with
  | '0' :: 'x' :: rest => do
    let (digits, rest) ← readDigits isHexDigit rest
    inRange (digitsValue 16 digits) rest
  | '0' :: 'o' :: rest => do
    let (digits, rest) ← readDigits isOctalDigit rest
    inRange (digitsValue 8 digits) rest
  | '0' :: 'b' :: rest => do
    let (digits, rest) ← readDigits (fun digit => digit = '0' || digit = '1') rest
    inRange (digitsValue 2 digits) rest
  | text =>
    let (negative, rest) := readSign text
    match rest with
    | 'i' :: 'n' :: 'f' :: rest => some (.real (.infinity negative), rest)
    | 'n' :: 'a' :: 'n' :: rest => some (.real .nan, rest)
    | rest => readDecimal negative rest

/-! Dates and times. -/

def readFixed (count low high : Nat) (text : List Char) : Option (Nat × List Char) :=
  let digits := text.take count
  let value := digitsValue 10 digits
  if digits.length = count ∧ digits.all Char.isDigit ∧ low ≤ value ∧ value ≤ high then
    some (value, text.drop count)
  else none

def after (expected : Char) : List Char → Option (List Char)
  | character :: rest => if character = expected then some rest else none
  | [] => none

def daysOf (year month : Nat) : Nat :=
  if month = 2 then
    if year % 4 = 0 ∧ (year % 100 ≠ 0 ∨ year % 400 = 0) then 29 else 28
  else if month ∈ [4, 6, 9, 11] then 30
  else 31

def afterDate (text : List Char) : Option (List Char) := do
  let (year, rest) ← readFixed 4 0 9999 text
  let (month, rest) ← readFixed 2 1 12 (← after '-' rest)
  let (_, rest) ← readFixed 2 1 (daysOf year month) (← after '-' rest)
  pure rest

def afterTime (text : List Char) : Option (List Char) := do
  let (_, rest) ← readFixed 2 0 23 text
  let (_, rest) ← readFixed 2 0 59 (← after ':' rest)
  let (_, rest) ← readFixed 2 0 60 (← after ':' rest)
  match rest with
  | '.' :: fraction =>
    let digits := fraction.takeWhile Char.isDigit
    if digits.isEmpty then none else pure (fraction.drop digits.length)
  | rest => pure rest

def afterOffset (text : List Char) : Option (List Char) :=
  match text with
  | 'Z' :: rest | 'z' :: rest => some rest
  | '+' :: rest | '-' :: rest => do
    let (_, rest) ← readFixed 2 0 23 rest
    let (_, rest) ← readFixed 2 0 59 (← after ':' rest)
    pure rest
  | rest => some rest

def afterTimeOfDay (text : List Char) : Option (List Char) :=
  match text with
  | mark :: rest =>
    if mark ∈ ['T', 't', ' '] then
      match readFixed 2 0 23 rest, afterTime rest with
      | none, _ => if mark = ' ' then some text else none
      | some _, none => none
      | some _, some behind => afterOffset behind
    else some text
  | [] => some []

def readMoment (text : List Char) : Option (Toml × List Char) :=
  match afterDate text with
  | some rest => (afterTimeOfDay rest).map fun rest => (.moment, rest)
  | none => (afterTime text).map fun rest => (.moment, rest)

end SchedulerLink.Toml
