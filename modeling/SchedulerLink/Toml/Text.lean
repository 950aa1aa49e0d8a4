import SchedulerLink.Bytes
import SchedulerLink.Toml.Basic

/-!
Texts in TOML documents: between quotes with escapes, or between apostrophes as they stand, and each
kind on one line or, between three marks, on several.
-/

namespace SchedulerLink.Toml

def codePoint? (digits : List Char) : Option Char := do
  let code ← digits.foldlM (fun value digit => do
    if 128 ≤ digit.toNat then none
    else pure (16 * value + (← Ascii.hexDigit? digit.toUInt8))) 0
  if h : code.isValidChar then some (Char.ofNatAux code h) else none

def escaped? : Char → Option Char
  | 'b' => some '\x08'
  | 't' => some '\t'
  | 'n' => some '\n'
  | 'f' => some '\x0c'
  | 'r' => some '\r'
  | '"' => some '"'
  | '\\' => some '\\'
  | _ => none

def before (character : Char) (reading : Option (List Char × List Char)) :
    Option (List Char × List Char) :=
  reading.map fun (text, rest) => (character :: text, rest)

def readQuoted : List Char → Option (List Char × List Char)
  | '"' :: rest => some ([], rest)
  | '\\' :: 'u' :: a :: b :: c :: d :: rest => do
    before (← codePoint? [a, b, c, d]) (readQuoted rest)
  | '\\' :: 'U' :: a :: b :: c :: d :: e :: f :: g :: h :: rest => do
    before (← codePoint? [a, b, c, d, e, f, g, h]) (readQuoted rest)
  | '\\' :: letter :: rest => do before (← escaped? letter) (readQuoted rest)
  | character :: rest => if isShown character then before character (readQuoted rest) else none
  | [] => none

def readPlain : List Char → Option (List Char × List Char)
  | '\'' :: rest => some ([], rest)
  | character :: rest => if isShown character then before character (readPlain rest) else none
  | [] => none

def lineEnds (text : List Char) : Bool := (afterLineBreak? (skipBlank text)).isSome

/-- The rest of a text in quotes on several lines. A backslash at the end of a line hides the break
and the blanks and breaks that follow it, while `joining` holds. -/
def readQuotedLines (joining : Bool) : List Char → Option (List Char × List Char)
  | '"' :: '"' :: '"' :: '"' :: '"' :: rest => some (['"', '"'], rest)
  | '"' :: '"' :: '"' :: '"' :: rest => some (['"'], rest)
  | '"' :: '"' :: '"' :: rest => some ([], rest)
  | '\r' :: '\n' :: rest =>
    if joining then readQuotedLines true rest else before '\n' (readQuotedLines false rest)
  | '\\' :: 'u' :: a :: b :: c :: d :: rest => do
    before (← codePoint? [a, b, c, d]) (readQuotedLines false rest)
  | '\\' :: 'U' :: a :: b :: c :: d :: e :: f :: g :: h :: rest => do
    before (← codePoint? [a, b, c, d, e, f, g, h]) (readQuotedLines false rest)
  | '\\' :: letter :: rest =>
    if lineEnds (letter :: rest) then readQuotedLines true rest
    else do before (← escaped? letter) (readQuotedLines false rest)
  | character :: rest =>
    if joining && (isBlank character || character = '\n') then readQuotedLines true rest
    else if isShown character || character = '\n' then
      before character (readQuotedLines false rest)
    else none
  | [] => none

def readPlainLines : List Char → Option (List Char × List Char)
  | '\'' :: '\'' :: '\'' :: '\'' :: '\'' :: rest => some (['\'', '\''], rest)
  | '\'' :: '\'' :: '\'' :: '\'' :: rest => some (['\''], rest)
  | '\'' :: '\'' :: '\'' :: rest => some ([], rest)
  | '\r' :: '\n' :: rest => before '\n' (readPlainLines rest)
  | character :: rest =>
    if isShown character || character = '\n' then before character (readPlainLines rest) else none
  | [] => none

def skipFirstBreak (text : List Char) : List Char := (afterLineBreak? text).getD text

def readLineText : List Char → Option (List Char × List Char)
  | '"' :: rest => readQuoted rest
  | '\'' :: rest => readPlain rest
  | _ => none

def readText : List Char → Option (List Char × List Char)
  | '"' :: '"' :: '"' :: rest => readQuotedLines false (skipFirstBreak rest)
  | '\'' :: '\'' :: '\'' :: rest => readPlainLines (skipFirstBreak rest)
  | text => readLineText text

def isBare (character : Char) : Bool :=
  character.isAlphanum || character = '-' || character = '_'

def readNamePart (text : List Char) : Option (String × List Char) :=
  match text with
  | '"' :: _ | '\'' :: _ => (readLineText text).map fun (part, rest) => (String.ofList part, rest)
  | text =>
    let part := text.takeWhile isBare
    if part.isEmpty then none else some (String.ofList part, text.drop part.length)

def namePartLimit : Nat := 79

def readName (most : Nat) (text : List Char) : Option (List String × List Char) := do
  match most with
  | 0 => none
  | most + 1 =>
    let (part, rest) ← readNamePart (skipBlank text)
    match skipBlank rest with
    | '.' :: rest => do
      let (parts, rest) ← readName most rest
      pure (part :: parts, rest)
    | rest => pure ([part], rest)

end SchedulerLink.Toml
