import SchedulerLink.Proofs.Json.Number

/-!
The ways to write a string.

An octet may stand for itself or be escaped, and a character may be written by its code. However a
string is written, the same string is read.
-/

namespace SchedulerLink.Json

open Ascii

def shortEscapes : List (UInt8 × UInt8) :=
  [(quote, quote), (backslash, backslash), (slash, slash), (lowerB, backspace), (lowerF, formFeed),
    (lowerN, newline), (lowerR, carriageReturn), (lowerT, tab)]

inductive Quad : Bytes → Nat → Prop where
  | digits {one two three four : UInt8} {a b c d : Nat} (first : hexDigit? one = some a)
    (second : hexDigit? two = some b) (third : hexDigit? three = some c)
    (fourth : hexDigit? four = some d) :
    Quad [one, two, three, four] (4096 * a + 256 * b + 16 * c + d)

/-- What may stand between quotes for a string of the given octets. -/
inductive Spells : Bytes → Bytes → Prop where
  | nil : Spells [] []
  | plain {octet : UInt8} {written meant : Bytes} (unquoted : octet ≠ quote)
    (unescaped : octet ≠ backslash) (visible : ¬ octet < 0x20) (later : Spells written meant) :
    Spells (octet :: written) (octet :: meant)
  | short {letter octet : UInt8} {written meant : Bytes} (escape : (letter, octet) ∈ shortEscapes)
    (later : Spells written meant) : Spells (backslash :: letter :: written) (octet :: meant)
  | code {digits written meant : Bytes} {code : Nat} (quad : Quad digits code)
    (single : code < 0xd800 ∨ 0xdfff < code) (later : Spells written meant) :
    Spells (backslash :: lowerU :: (digits ++ written)) (Text.encode code ++ meant)
  | pair {one other written meant : Bytes} {high low : Nat} (first : Quad one high)
    (leading : 0xd800 ≤ high ∧ high ≤ 0xdbff) (second : Quad other low)
    (trailing : 0xdc00 ≤ low ∧ low ≤ 0xdfff) (later : Spells written meant) :
    Spells (backslash :: lowerU :: (one ++ backslash :: lowerU :: (other ++ written)))
      (Text.encode (0x10000 + 1024 * (high - 0xd800) + (low - 0xdc00)) ++ meant)

namespace Text

theorem hexQuad_append {digits : Bytes} {code : Nat} (quad : Quad digits code) (rest : Bytes) :
    Yields (hexQuad (digits ++ rest)) code rest := by
  cases quad with
  | digits first second third fourth =>
    simp only [List.cons_append, List.nil_append, hexQuad, first, second, third, fourth]
    exact ⟨_, rfl⟩

theorem codePoint_single {digits : Bytes} {code : Nat} (quad : Quad digits code)
    (single : code < 0xd800 ∨ 0xdfff < code) (rest : Bytes) :
    Yields (codePoint (digits ++ rest)) (encode code) rest := by
  obtain ⟨shorter, read⟩ := hexQuad_append quad rest
  have unpaired : ¬ (0xdc00 ≤ code ∧ code ≤ 0xdfff) := by omega
  have alone : code < 0xd800 ∨ 0xdbff < code := by omega
  simp only [codePoint, read, if_neg unpaired, if_pos alone]
  exact ⟨_, rfl⟩

theorem codePoint_pair {one other : Bytes} {high low : Nat} (first : Quad one high)
    (leading : 0xd800 ≤ high ∧ high ≤ 0xdbff) (second : Quad other low)
    (trailing : 0xdc00 ≤ low ∧ low ≤ 0xdfff) (rest : Bytes) :
    Yields (codePoint (one ++ backslash :: lowerU :: (other ++ rest)))
      (encode (0x10000 + 1024 * (high - 0xd800) + (low - 0xdc00))) rest := by
  obtain ⟨shorter, read⟩ := hexQuad_append first (backslash :: lowerU :: (other ++ rest))
  obtain ⟨within, reads⟩ := hexQuad_append second rest
  have unpaired : ¬ (0xdc00 ≤ high ∧ high ≤ 0xdfff) := by omega
  have paired : ¬ (high < 0xd800 ∨ 0xdbff < high) := by omega
  have partnered : ¬ (low < 0xdc00 ∨ 0xdfff < low) := by omega
  obtain ⟨inside, passes⟩ : ∃ inside, partner (backslash :: lowerU :: (other ++ rest)) =
      .ok ⟨other ++ rest, inside⟩ := ⟨_, rfl⟩
  simp only [codePoint, read, if_neg unpaired, if_neg paired, passes, reads, if_neg partnered]
  exact ⟨_, rfl⟩

theorem escape_short {letter octet : UInt8} (escape : (letter, octet) ∈ shortEscapes)
    (rest : Bytes) : Yields (Text.escape (letter :: rest)) [octet] rest := by
  simp only [shortEscapes, List.mem_cons, Prod.mk.injEq, List.not_mem_nil, or_false] at escape
  rcases escape with ⟨rfl, rfl⟩ | ⟨rfl, rfl⟩ | ⟨rfl, rfl⟩ | ⟨rfl, rfl⟩ | ⟨rfl, rfl⟩ | ⟨rfl, rfl⟩ |
    ⟨rfl, rfl⟩ | ⟨rfl, rfl⟩
  all_goals
    exact ⟨Bytes.length_lt_cons _ _, rfl⟩

theorem content_escaped {escaped octets behind rest found : Bytes}
    (escapes : Yields (escape escaped) octets behind)
    (later : Yields (content behind) found rest) :
    Yields (content (backslash :: escaped)) (octets ++ found) rest := by
  obtain ⟨shorter, escapes⟩ := escapes
  obtain ⟨more, later⟩ := later
  have step := content.eq_3 escaped
  simp only [escapes, later] at step
  exact ⟨_, step⟩

theorem content_plain {octet : UInt8} {behind rest found : Bytes} (unquoted : octet ≠ quote)
    (unescaped : octet ≠ backslash) (visible : ¬ octet < 0x20)
    (later : Yields (content behind) found rest) :
    Yields (content (octet :: behind)) (octet :: found) rest := by
  obtain ⟨more, later⟩ := later
  rw [content]
  · simp only [if_neg visible, later]
    exact ⟨_, rfl⟩
  · exact fun same => unquoted same
  · exact fun same => unescaped same

/-- What is written is read up to the closing quote. -/
theorem content_spells {written meant : Bytes} (spells : Spells written meant) (rest : Bytes) :
    Yields (content (written ++ quote :: rest)) meant rest := by
  induction spells with
  | nil => exact ⟨_, content.eq_2 rest⟩
  | plain unquoted unescaped visible _ ih => exact content_plain unquoted unescaped visible ih
  | short escape _ ih => exact content_escaped (escape_short escape _) ih
  | @code _ written _ _ quad single _ ih =>
    have point := codePoint_single quad single (written ++ quote :: rest)
    rw [List.cons_append, List.cons_append, List.append_assoc]
    exact content_escaped (point.within fun _ => Bytes.length_le_cons lowerU _) ih
  | @pair _ _ written _ _ _ first leading second trailing _ ih =>
    have point := codePoint_pair first leading second trailing (written ++ quote :: rest)
    rw [List.cons_append, List.cons_append, List.append_assoc, List.cons_append, List.cons_append,
      List.append_assoc]
    exact content_escaped (point.within fun _ => Bytes.length_le_cons lowerU _) ih

theorem read_spells {written : Bytes} {text : String}
    (spells : Spells written (Bytes.ofString text)) (rest : Bytes) :
    Yields (read (written ++ quote :: rest)) text rest := by
  obtain ⟨shorter, found⟩ := content_spells spells rest
  simp only [read, found, Bytes.toString?_ofString]
  exact ⟨_, rfl⟩

/-! What is written for a string spells it. -/

theorem encode_low : ∀ code < 32, encode code = [code.toUInt8] := by
  decide +kernel

theorem hexDigit?_hexDigit : ∀ value < 16, hexDigit? (hexDigit value) = some value := by
  decide

end Text

theorem Spells.escapeOctet (octet : UInt8) {written meant : Bytes} (later : Spells written meant) :
    Spells (Json.escapeOctet octet ++ written) (octet :: meant) := by
  fun_cases Json.escapeOctet octet with
  | case8 octet _ _ _ _ _ _ _ low =>
    have small : octet.toNat < 32 := UInt8.lt_iff_toNat_lt.mp low
    have digits : Quad [zero, zero, hexDigit (octet.toNat / 16), hexDigit (octet.toNat % 16)]
        (4096 * 0 + 256 * 0 + 16 * (octet.toNat / 16) + octet.toNat % 16) :=
      .digits rfl rfl (Text.hexDigit?_hexDigit _ (by omega)) (Text.hexDigit?_hexDigit _ (by omega))
    have whole : 4096 * 0 + 256 * 0 + 16 * (octet.toNat / 16) + octet.toNat % 16 = octet.toNat := by
      omega
    rw [whole] at digits
    have spells := Spells.code digits (.inl (by omega)) later
    rw [Text.encode_low _ small, Nat.toUInt8_eq, UInt8.ofNat_toNat] at spells
    exact spells
  | case9 octet unquoted unescaped _ _ _ _ _ visible =>
    exact .plain unquoted unescaped visible later
  | _ => exact .short (by decide) later

theorem Spells.flatMap_escapeOctet (octets : Bytes) :
    Spells (octets.flatMap Json.escapeOctet) octets := by
  induction octets with
  | nil => exact .nil
  | cons octet more ih => exact .escapeOctet octet ih

end SchedulerLink.Json
