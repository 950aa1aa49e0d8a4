import Mathlib.Data.List.Basic
import SchedulerLink.Text.Blank

/-!
Words and lines of a text that is put together from pieces.
-/

namespace SchedulerLink.Text

def IsWord (word : List Char) : Prop := word ≠ [] ∧ ∀ character ∈ word, isBlank character = false

def Parts (text : List Char) : Prop := ∀ character ∈ text.head?, isBlank character = true

def EndsLine (text : List Char) : Prop := ∀ character ∈ text.head?, character = '\n'

def IsGap (text : List Char) : Prop := ∀ character ∈ text, isBlank character = true ∧ character ≠ '\n'

-- These look at the characters of a text only, and not at all that there are.
instance : DecidablePred IsWord := fun word =>
  decidable_of_iff (word ≠ [] ∧ word.all (!isBlank ·) = true) (by simp [IsWord])

instance : DecidablePred Parts := fun text =>
  decidable_of_iff (text.head?.all isBlank = true) (by cases text <;> simp [Parts])

instance : DecidablePred EndsLine := fun text =>
  decidable_of_iff (text.head?.all (· = '\n') = true) (by cases text <;> simp [EndsLine])

instance : DecidablePred IsGap := fun text =>
  decidable_of_iff (text.all (fun character => isBlank character && character ≠ '\n') = true)
    (by simp [IsGap])

theorem IsWord.inline {word : List Char} (isWord : IsWord word) : '\n' ∉ word := by
  intro member
  exact absurd (isWord.2 _ member) (by decide)

theorem IsGap.blank {gap : List Char} (isGap : IsGap gap) :
    ∀ character ∈ gap, isBlank character = true :=
  fun character member => (isGap character member).1

theorem IsGap.inline {gap : List Char} (isGap : IsGap gap) : '\n' ∉ gap :=
  fun member => (isGap _ member).2 rfl

/-! Words. -/

theorem words_cons_blank {blank : Char} (isBlank : isBlank blank = true) (text : List Char) :
    words (blank :: text) = words text := by
  simp [words, wordsFrom, isBlank]

theorem wordsFrom_append_blank {blank : Char} (isBlank : isBlank blank = true)
    (held text rest : List Char) :
    wordsFrom held (text ++ blank :: rest) = wordsFrom held text ++ words rest := by
  -- Each character goes to the word that is being collected, or completes it.
  induction text generalizing held with
  | nil => cases held <;> simp [wordsFrom, words, isBlank]
  | cons character text ih =>
    simp only [List.cons_append, wordsFrom, ih]
    split_ifs <;> rfl

/-- Where a blank or nothing follows, a word ends. -/
theorem words_append {rest : List Char} (parts : Parts rest) (text : List Char) :
    words (text ++ rest) = words text ++ words rest := by
  cases rest with
  | nil => simp [words, wordsFrom]
  | cons blank rest =>
    have isBlank := parts blank rfl
    rw [words_cons_blank isBlank]
    exact wordsFrom_append_blank isBlank [] text rest

theorem wordsFrom_visible {text : List Char} (visible : ∀ character ∈ text, isBlank character = false)
    {held : List Char} (filled : held.reverse ++ text ≠ []) :
    wordsFrom held text = [held.reverse ++ text] := by
  induction text generalizing held with
  | nil => cases held <;> simp_all [wordsFrom]
  | cons character text ih =>
    obtain ⟨first, later⟩ := List.forall_mem_cons.mp visible
    rw [wordsFrom, first, if_neg Bool.false_ne_true, ih later (by simp), List.reverse_cons,
      List.append_assoc, List.singleton_append]

theorem IsWord.words {word : List Char} (isWord : IsWord word) : words word = [word] :=
  wordsFrom_visible isWord.2 isWord.1

theorem words_blank_append {gap : List Char} (blank : ∀ character ∈ gap, isBlank character = true)
    (text : List Char) : words (gap ++ text) = words text := by
  induction gap with
  | nil => rfl
  | cons character gap ih =>
    obtain ⟨first, later⟩ := List.forall_mem_cons.mp blank
    rw [List.cons_append, words_cons_blank first, ih later]

theorem words_eq_nil {gap : List Char} (blank : ∀ character ∈ gap, isBlank character = true) :
    words gap = [] := by
  rw [← List.append_nil gap, words_blank_append blank]
  rfl

theorem exists_wordsFrom {held : List Char} (filled : held ≠ []) (text : List Char) :
    ∃ word rest, wordsFrom held text = (held.reverse ++ word) :: rest := by
  induction text generalizing held with
  | nil => exact ⟨[], [], by simp [wordsFrom, filled]⟩
  | cons character text ih =>
    rw [wordsFrom]
    split_ifs with blank nothing
    · exact absurd (List.isEmpty_iff.mp nothing) filled
    · exact ⟨[], _, by rw [List.append_nil]⟩
    · obtain ⟨word, rest, begins⟩ := ih (List.cons_ne_nil character held)
      exact ⟨character :: word, rest, by rw [begins, List.reverse_cons, List.append_assoc]; rfl⟩

theorem exists_words_cons {character : Char} (visible : isBlank character = false)
    (text : List Char) : ∃ word rest, words (character :: text) = (character :: word) :: rest := by
  obtain ⟨word, rest, begins⟩ := exists_wordsFrom (List.cons_ne_nil character []) text
  exact ⟨word, rest, by rw [words, wordsFrom, visible, if_neg Bool.false_ne_true, begins]; rfl⟩

theorem words_dropCarriageReturn (line : List Char) : words (dropCarriageReturn line) = words line := by
  unfold dropCarriageReturn
  split
  next last =>
    obtain ⟨front, rfl⟩ := List.getLast?_eq_some_iff.mp last
    rw [List.dropLast_concat, words_append (by intro _ first; cases first; rfl)]
    simp [words, wordsFrom, isBlank]
  next => rfl

/-! Lines. -/

variable {separates : Char → Bool}

theorem splitAt_cons_of_separates {character : Char} (isSeparator : separates character = true)
    (text : List Char) : splitAt separates (character :: text) = [] :: splitAt separates text := by
  rw [splitAt, if_pos isSeparator]

theorem exists_splitAt (separates : Char → Bool) (text : List Char) :
    ∃ first rest, splitAt separates text = first :: rest := by
  cases text with
  | nil => exact ⟨_, _, rfl⟩
  | cons character text =>
    rw [splitAt]
    split
    · exact ⟨_, _, rfl⟩
    · split <;> exact ⟨_, _, rfl⟩

theorem splitAt_append {head text first : List Char} {rest : List (List Char)}
    (inside : ∀ character ∈ head, separates character = false)
    (parts : splitAt separates text = first :: rest) :
    splitAt separates (head ++ text) = (head ++ first) :: rest := by
  induction head with
  | nil => exact parts
  | cons character head ih =>
    obtain ⟨here, later⟩ := List.forall_mem_cons.mp inside
    rw [List.cons_append, splitAt, here, if_neg Bool.false_ne_true, ih later]
    rfl

theorem head?_of_splitAt {text first : List Char} {rest : List (List Char)}
    (parts : splitAt separates text = first :: rest) {character : Char}
    (begins : character ∈ first.head?) : character ∈ text.head? := by
  cases text with
  | nil =>
    cases parts
    cases begins
  | cons here text =>
    cases isSeparator : separates here with
    | true =>
      rw [splitAt_cons_of_separates isSeparator] at parts
      cases parts
      cases begins
    | false =>
      obtain ⟨behind, later, split⟩ := exists_splitAt separates text
      rw [← List.singleton_append,
        splitAt_append (List.forall_mem_singleton.mpr isSeparator) split] at parts
      cases parts
      cases begins
      exact rfl

theorem splitAt_inline {head text first : List Char} {rest : List (List Char)} (inline : '\n' ∉ head)
    (split : splitAt (· = '\n') text = first :: rest) :
    splitAt (· = '\n') (head ++ text) = (head ++ first) :: rest :=
  splitAt_append
    (fun _ member => decide_eq_false (ne_of_mem_of_not_mem member inline)) split

theorem splitAt_of_endsLine {text : List Char} (ends : EndsLine text) :
    ∃ rest, splitAt (· = '\n') text = [] :: rest := by
  cases text with
  | nil => exact ⟨_, rfl⟩
  | cons character text =>
    obtain rfl := ends character rfl
    exact ⟨_, splitAt_cons_of_separates rfl text⟩

theorem splitAt_lines {head tail : List Char} {body rest : List (List Char)} (inline : '\n' ∉ head)
    (lines : ∀ line ∈ body, '\n' ∉ line) (split : splitAt (· = '\n') tail = [] :: rest) :
    splitAt (· = '\n') (head ++ body.flatMap ('\n' :: ·) ++ tail) = head :: body ++ rest := by
  induction body generalizing head with
  | nil =>
    rw [List.flatMap_nil, List.append_nil, splitAt_inline inline split, List.append_nil]
    rfl
  | cons line body ih =>
    obtain ⟨here, below⟩ := List.forall_mem_cons.mp lines
    have later : splitAt (· = '\n') ('\n' :: (line ++ body.flatMap ('\n' :: ·) ++ tail)) =
        [] :: (line :: body ++ rest) := by
      rw [splitAt_cons_of_separates rfl, ih here below]
    rw [List.flatMap_cons, List.append_assoc, List.cons_append, List.cons_append,
      splitAt_inline inline later, List.append_nil]
    rfl

end SchedulerLink.Text
