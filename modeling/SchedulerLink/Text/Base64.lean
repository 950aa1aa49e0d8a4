import SchedulerLink.Bytes

/-!
Octets written with sixty-four letters: every three octets are four letters, and what is missing
from the last three is made up with `=`.
-/

namespace SchedulerLink.Base64

def letters : List Char :=
  "ABCDEFGHIJKLMNOPQRSTUVWXYZabcdefghijklmnopqrstuvwxyz0123456789+/".toList

def letter (number place : Nat) : Char := letters.getD (number / Nat.pow 2 place % 64) '='

def encode : Bytes → List Char
  | [] => []
  | [first] =>
    let number := 65536 * first.toNat
    [letter number 18, letter number 12, '=', '=']
  | [first, second] =>
    let number := 65536 * first.toNat + 256 * second.toNat
    [letter number 18, letter number 12, letter number 6, '=']
  | first :: second :: third :: rest =>
    let number := 65536 * first.toNat + 256 * second.toNat + third.toNat
    letter number 18 :: letter number 12 :: letter number 6 :: letter number 0 :: encode rest

end SchedulerLink.Base64
