import SchedulerLink.Text.Invisible

/-!
Names quoted in messages. Quotes and backslashes are escaped, line breaks, tabs and the null
character have short escapes, and a character that does not show by itself is written as its code
point in braces.
-/

namespace SchedulerLink.Text

def quotedChar (character : Char) : List Char :=
  match character with
  | '"' => ['\\', '"']
  | '\\' => ['\\', '\\']
  | '\n' => ['\\', 'n']
  | '\r' => ['\\', 'r']
  | '\t' => ['\\', 't']
  | '\x00' => ['\\', '0']
  | character =>
    if isInvisible character then
      ['\\', 'u', '\x7b'] ++ Nat.toDigits 16 character.toNat ++ ['\x7d']
    else [character]

def quoted (text : String) : String :=
  String.ofList ('"' :: text.toList.flatMap quotedChar ++ ['"'])

end SchedulerLink.Text
