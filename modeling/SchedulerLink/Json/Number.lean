import SchedulerLink.Bytes
import SchedulerLink.Json.Basic
import SchedulerLink.Json.Fault

/-!
Numbers in JSON text.

The text of a number is split into its digits first (`Numeral.read`) and evaluated after
(`Numeral.value`). Digits beyond the first nineteen or twenty, those that would carry the
significand past `2 ^ 64 - 1`, are dropped, and the significand is scaled by a rounded power of ten,
so the last place of a float need not be the nearest one.
-/

namespace SchedulerLink.Json

open Ascii

structure Parsed (α : Type) (input : Bytes) where
  value : α
  rest : Bytes
  shorter : rest.length < input.length

abbrev Reading (α : Type) (input : Bytes) := Except Fault (Parsed α input)

def Parsed.within {α : Type} {suffix input : Bytes} (parsed : Parsed α suffix)
    (inside : suffix.length ≤ input.length) : Parsed α input :=
  ⟨parsed.value, parsed.rest, Nat.lt_of_lt_of_le parsed.shorter inside⟩

/-- The parts of a number's text. -/
structure Numeral where
  negative : Bool
  whole : List Nat
  fraction : Option (List Nat)
  exponent : Option (Bool × List Nat)
  deriving DecidableEq, Repr

namespace Numeral

def digits : Bytes → List Nat × Bytes
  | [] => ([], [])
  | octet :: rest =>
    match digit? octet with
    | some value => (value :: (digits rest).1, (digits rest).2)
    | none => ([], octet :: rest)

theorem length_digits (input : Bytes) :
    (digits input).1.length + (digits input).2.length = input.length := by
  induction input with
  | nil => simp [digits]
  | cons octet rest ih =>
    unfold digits
    split
    · simp only [List.length_cons]; omega
    · simp

def someDigits (ended : Fault) (input : Bytes) : Except Fault (List Nat × Bytes) :=
  match digits input with
  | ([], []) => .error ended
  | ([], _ :: _) => .error .badNumber
  | (first :: more, rest) => .ok (first :: more, rest)

def wholeDigits (ended : Fault) (input : Bytes) : Except Fault (List Nat × Bytes) :=
  match someDigits ended input with
  | .ok (0 :: _ :: _, _) => .error .badNumber
  | other => other

def fractionDigits (ended : Fault) : Bytes → Except Fault (Option (List Nat) × Bytes)
  | dot :: rest => (someDigits ended rest).map fun (found, rest) => (some found, rest)
  | input => .ok (none, input)

def exponentSign : Bytes → Bool × Bytes
  | plus :: rest => (false, rest)
  | minus :: rest => (true, rest)
  | input => (false, input)

def exponentDigits (ended : Fault) : Bytes → Except Fault (Option (Bool × List Nat) × Bytes)
  | octet :: rest =>
    if octet = lowerE ∨ octet = upperE then
      let (negative, rest) := exponentSign rest
      (someDigits ended rest).map fun (found, rest) => (some (negative, found), rest)
    else .ok (none, octet :: rest)
  | [] => .ok (none, [])

theorem length_someDigits_lt {ended : Fault} {input rest : Bytes} {found : List Nat}
    (read : someDigits ended input = .ok (found, rest)) : rest.length < input.length := by
  have total := length_digits input
  unfold someDigits at read
  split at read
  · cases read
  · cases read
  · rename_i split
    cases read
    simp only [split, List.length_cons] at total
    omega

theorem length_wholeDigits_lt {ended : Fault} {input rest : Bytes} {found : List Nat}
    (read : wholeDigits ended input = .ok (found, rest)) : rest.length < input.length := by
  unfold wholeDigits at read
  split at read
  · simp at read
  · exact length_someDigits_lt read

theorem length_fractionDigits_le {ended : Fault} {input rest : Bytes} {found : Option (List Nat)}
    (read : fractionDigits ended input = .ok (found, rest)) : rest.length ≤ input.length := by
  unfold fractionDigits at read
  split at read
  · rename_i tail
    cases step : someDigits ended tail with
    | error fault => simp [step, Except.map] at read
    | ok result =>
      obtain ⟨digits, after⟩ := result
      have bound := length_someDigits_lt step
      simp only [step, Except.map, Except.ok.injEq, Prod.mk.injEq] at read
      simp only [List.length_cons]
      rw [← read.2]; omega
  · simp only [Except.ok.injEq, Prod.mk.injEq] at read
    exact Nat.le_of_eq (by rw [read.2])

theorem length_exponentSign_le (input : Bytes) : (exponentSign input).2.length ≤ input.length := by
  unfold exponentSign
  split <;> simp

theorem length_exponentDigits_le {ended : Fault} {input rest : Bytes}
    {found : Option (Bool × List Nat)}
    (read : exponentDigits ended input = .ok (found, rest)) : rest.length ≤ input.length := by
  unfold exponentDigits at read
  split at read
  · rename_i octet tail
    split at read
    · cases step : someDigits ended (exponentSign tail).2 with
      | error fault => simp [step, Except.map] at read
      | ok result =>
        obtain ⟨digits, after⟩ := result
        have bound := length_someDigits_lt step
        have sign := length_exponentSign_le tail
        simp only [step, Except.map, Except.ok.injEq, Prod.mk.injEq] at read
        simp only [List.length_cons]
        rw [← read.2]; omega
    · simp only [Except.ok.injEq, Prod.mk.injEq] at read
      exact Nat.le_of_eq (by rw [← read.2])
  · simp only [Except.ok.injEq, Prod.mk.injEq] at read
    exact Nat.le_of_eq (by rw [← read.2])

def readUnsigned (ended : Fault) (negative : Bool) (input : Bytes) : Reading Numeral input :=
  match first : wholeDigits ended input with
  | .error fault => .error fault
  | .ok (whole, afterWhole) =>
    match second : fractionDigits ended afterWhole with
    | .error fault => .error fault
    | .ok (fraction, afterFraction) =>
      match third : exponentDigits ended afterFraction with
      | .error fault => .error fault
      | .ok (exponent, rest) =>
        .ok ⟨⟨negative, whole, fraction, exponent⟩, rest, by
          have one := length_wholeDigits_lt first
          have two := length_fractionDigits_le second
          have three := length_exponentDigits_le third
          omega⟩

def read (ended : Fault) (input : Bytes) : Reading Numeral input :=
  match input with
  | minus :: rest => (readUnsigned ended true rest).map fun parsed => parsed.within (by simp)
  | input => readUnsigned ended false input

def significandLimit : Nat := 0xffffffffffffffff

/-- Appends digits to a significand for as long as it stays within the limit; the rest is left. -/
def accumulate (significand : Nat) : List Nat → Nat × List Nat
  | [] => (significand, [])
  | digit :: rest =>
    if 10 * significand + digit ≤ significandLimit then accumulate (10 * significand + digit) rest
    else (significand, digit :: rest)

def ofDigits (digits : List Nat) : Nat := digits.foldl (fun value digit => 10 * value + digit) 0

def powerLimit : Int := 308

/-- A magnitude scaled by a power of ten in rounded steps; none if it leaves the range of finite
numbers. -/
def scale (magnitude : Binary64) (power : Int) : Option Binary64 :=
  let tenTo (exponent : Int) := Binary64.ofDecimal false 1 exponent
  if power < -powerLimit then
    if magnitude.isZero then some magnitude
    else scale (magnitude.div (tenTo powerLimit)) (power + powerLimit)
  else if power < 0 then some (magnitude.div (tenTo (-power)))
  else if power ≤ powerLimit then
    let scaled := magnitude.mul (tenTo power)
    if scaled.isFinite then some scaled else none
  else if magnitude.isZero then some magnitude
  else none
termination_by (-power).toNat
decreasing_by simp only [powerLimit] at *; omega

/-- The value of a number's text: an integer when it has neither fraction nor exponent and is in
range, a float otherwise. Minus zero is a float. -/
def value (numeral : Numeral) : Except Fault Json :=
  let (significand, surplus) := accumulate 0 numeral.whole
  let plain := numeral.fraction.isNone && numeral.exponent.isNone && surplus.isEmpty
  if plain && !numeral.negative then .ok (.int significand)
  else if plain && 0 < significand && significand ≤ 0x8000000000000000 then
    .ok (.int (-significand))
  else
    let fraction := numeral.fraction.getD []
    let (significand, dropped) := accumulate significand fraction
    let shift : Int := surplus.length - (fraction.length - dropped.length : Nat)
    let power : Int := match numeral.exponent with
      | none => 0
      | some (negative, digits) => if negative then -(ofDigits digits : Int) else ofDigits digits
    match scale (Binary64.ofNat significand) (shift + power) with
    | none => .error .numberTooLarge
    | some magnitude => .ok (.float (if numeral.negative then magnitude.negate else magnitude))

end Numeral

end SchedulerLink.Json
