import SchedulerLink.Decimal.Binary64

/-!
Values of TOML documents.
-/

namespace SchedulerLink

inductive Toml where
  | string (text : String)
  | integer (value : Int)
  | real (value : Binary64)
  | boolean (flag : Bool)
  | moment
  | array (items : List Toml)
  | table (fields : List (String × Toml))
  deriving Inhabited, Repr

namespace Toml

def isBlank (character : Char) : Bool := character = ' ' || character = '\t'

def skipBlank (text : List Char) : List Char := text.dropWhile isBlank

def isShown (character : Char) : Bool :=
  character = '\t' || (0x20 ≤ character.toNat && character.toNat ≠ 0x7f)

def skipComment : List Char → List Char
  | '#' :: rest => rest.dropWhile isShown
  | text => text

def afterLineBreak? : List Char → Option (List Char)
  | '\n' :: rest => some rest
  | '\r' :: '\n' :: rest => some rest
  | _ => none

def afterLine? (text : List Char) : Option (List Char) :=
  match skipComment (skipBlank text) with
  | [] => some []
  | rest => afterLineBreak? rest

end Toml

end SchedulerLink
