import SchedulerLink.Login.Netrc
import SchedulerLink.Proofs.Text.Words

/-!
How netrc files are laid out, and that they are read item by item.

A keyword stands on a line with its value, and a comment or a macro ends its line. Otherwise there
may be any blanks between two items.
-/

namespace SchedulerLink.Netrc

open Text (IsWord IsGap Parts EndsLine isBlank words)

inductive Item where
  | machine (host : String)
  | default
  | login (value : String)
  | account (value : String)
  | password (value : String)
  | unknown (word : String)
  | comment
  | macdef
  deriving DecidableEq, Repr

def keywords : List String := ["machine", "default", "login", "account", "password", "macdef"]

namespace Item

def keyed? : Item → Option (String × String)
  | machine host => some ("machine", host)
  | login value => some ("login", value)
  | account value => some ("account", value)
  | password value => some ("password", value)
  | _ => none

end Item

/-- The texts that a sequence of items can be written as. -/
inductive Layout : List Item → List Char → Prop where
  | nothing : Layout [] []
  | blank {items : List Item} {text : List Char} {character : Char}
    (white : isBlank character = true) (rest : Layout items text) :
    Layout items (character :: text)
  | keyed {item : Item} {items : List Item} {keyword value : String} {gap text : List Char}
    (spelled : item.keyed? = some (keyword, value))
    (apart : gap ≠ []) (isGap : IsGap gap)
    (isWord : IsWord value.toList) (parts : Parts text) (rest : Layout items text) :
    Layout (item :: items) (keyword.toList ++ gap ++ value.toList ++ text)
  | default {items : List Item} {text : List Char} (parts : Parts text) (rest : Layout items text) :
    Layout (.default :: items) ("default".toList ++ text)
  | unknown {word : String} {items : List Item} {text : List Char} (isWord : IsWord word.toList)
    (strange : word ∉ keywords) (isVisible : word.startsWith "#" = false) (parts : Parts text)
    (rest : Layout items text) : Layout (.unknown word :: items) (word.toList ++ text)
  | comment {items : List Item} {hidden text : List Char} (inline : '\n' ∉ hidden)
    (ends : EndsLine text) (rest : Layout items text) :
    Layout (.comment :: items) ('#' :: hidden ++ text)
  | macdef {items : List Item} {heading gap text : List Char} {body : List (List Char)}
    (parts : Parts heading) (inline : '\n' ∉ heading)
    (lines : ∀ line ∈ body, words line ≠ [] ∧ '\n' ∉ line)
    (white : IsGap gap) (ends : EndsLine text) (rest : Layout items text) :
    Layout (.macdef :: items)
      ("macdef".toList ++ heading ++ body.flatMap ('\n' :: ·) ++ '\n' :: (gap ++ text))
  | lastMacdef {heading : List Char} {body : List (List Char)}
    (parts : Parts heading) (inline : '\n' ∉ heading)
    (lines : ∀ line ∈ body, words line ≠ [] ∧ '\n' ∉ line) :
    Layout [.macdef] ("macdef".toList ++ heading ++ body.flatMap ('\n' :: ·))

/-! One line after the other. -/

theorem readLine_congr (state : State) {line other : List Char} (same : words line = words other) :
    readLine state line = readLine state other := by
  rw [readLine, same, readLine]

theorem readLine_outside {state : State} (outside : state.inMacro = false) (line : List Char) :
    readLine state line = readWords state ((words line).map String.ofList) := by
  rw [readLine, outside]
  rfl

def readText (state : State) (text : List Char) : State :=
  (Text.splitAt (· = '\n') text).foldl readLine state

theorem close_inMacro (state : State) (inMacro : Bool) :
    { state with inMacro }.close = state.close := rfl

theorem close_readLine_nil (state : State) : (readLine state []).close = state.close := by
  cases inMacro : state.inMacro with
  | true =>
    rw [readLine, inMacro]
    exact close_inMacro state false
  | false =>
    rw [readLine_outside inMacro]
    rfl

theorem close_lines (state : State) (text : List Char) :
    ((Text.lines text).foldl readLine state).close = (readText state text).close := by
  have dropped (parts : List (List Char)) (state : State) :
      (parts.map Text.dropCarriageReturn).foldl readLine state = parts.foldl readLine state := by
    rw [List.foldl_map]
    congr
    funext state line
    exact readLine_congr state (Text.words_dropCarriageReturn line)
  -- The last part is not a line if it is empty, which at most ends a macro.
  obtain ⟨first, rest, split⟩ := Text.exists_splitAt (· = '\n') text
  obtain ⟨front, last, whole⟩ : ∃ front last, first :: rest = front ++ [last] :=
    ⟨_, _, (List.dropLast_append_getLast (List.cons_ne_nil first rest)).symm⟩
  rw [readText, Text.lines, split, whole, List.dropLast_concat, List.getLast?_concat,
    List.foldl_append, List.foldl_append, dropped, Option.getD_some]
  cases last with
  | nil => exact (close_readLine_nil _).symm
  | cons character line => rfl

/-! One item after the other. -/

def Item.scope? : Item → Option Scope
  | machine host => some (.machine host)
  | default => some .default
  | _ => none

def Item.change : Item → NetrcEntry → NetrcEntry
  | login value => ({ · with login := some value })
  | account value => ({ · with account := some value })
  | password value => ({ · with password := some value })
  | _ => id

def State.take (state : State) (item : Item) : State :=
  match item.scope? with
  | some scope => state.enter scope
  | none => state.record item.change

theorem take_outside {state : State} (outside : state.inMacro = false) (item : Item) :
    (state.take item).inMacro = false := by
  rw [State.take]
  split <;> exact outside

theorem take_of_id {item : Item} (opens : item.scope? = none) (changes : item.change = id)
    (state : State) : state.take item = state := by
  rcases state with ⟨closed, _ | current, inMacro⟩ <;> simp [State.take, State.record, opens, changes]

theorem readWords_keyed {item : Item} {keyword value : String}
    (spelled : item.keyed? = some (keyword, value)) (state : State) (more : List String) :
    readWords state (keyword :: value :: more) = readWords (state.take item) more := by
  cases item <;> cases spelled <;> simp [readWords, State.take, Item.scope?, Item.change]

theorem readWords_default (state : State) (more : List String) :
    readWords state ("default" :: more) = readWords (state.take .default) more := by
  rw [readWords.eq_def]
  simp [State.take, Item.scope?]

theorem readWords_strange {word : String} (strange : word ∉ keywords) (state : State)
    (more : List String) : readWords state (word :: more) =
      if word.startsWith "#" then state else readWords state more := by
  simp only [keywords, List.mem_cons, List.not_mem_nil, or_false, not_or] at strange
  obtain ⟨machine, default, login, account, password, macdef⟩ := strange
  rw [readWords.eq_def]
  simp only
  rw [if_neg machine, if_neg default, if_neg login, if_neg account, if_neg password,
    if_neg macdef]

theorem readText_append {state next : State} (outside : state.inMacro = false)
    (outside' : next.inMacro = false) {head text : List Char}
    (inline : '\n' ∉ head) (parts : Parts text)
    (reads : ∀ more, readWords state ((words head).map String.ofList ++ more) = readWords next more) :
    readText state (head ++ text) = readText next text := by
  obtain ⟨first, rest, split⟩ := Text.exists_splitAt (· = '\n') text
  have firstParts : Parts first :=
    fun character begins => parts character (Text.head?_of_splitAt split begins)
  rw [readText, readText, Text.splitAt_inline inline split, split, List.foldl_cons, List.foldl_cons,
    readLine_outside outside, readLine_outside outside', Text.words_append firstParts,
    List.map_append, reads]

theorem readText_blank {state : State} (outside : state.inMacro = false) {character : Char}
    (white : isBlank character = true) (text : List Char) :
    readText state (character :: text) = readText state text := by
  by_cases same : character = '\n'
  · rw [readText, Text.splitAt_cons_of_separates (decide_eq_true same), List.foldl_cons,
      readLine_outside outside]
    rfl
  · obtain ⟨first, rest, split⟩ := Text.exists_splitAt (· = '\n') text
    have inline : '\n' ∉ [character] := by simpa using Ne.symm same
    rw [readText, readText, split, ← List.singleton_append, Text.splitAt_inline inline split,
      List.foldl_cons, List.foldl_cons, List.singleton_append,
      readLine_congr state (Text.words_cons_blank white first)]

theorem readText_lines (state : State) {head tail : List Char} {body rest : List (List Char)}
    (inline : '\n' ∉ head) (lines : ∀ line ∈ body, '\n' ∉ line)
    (split : Text.splitAt (· = '\n') tail = [] :: rest) :
    readText state (head ++ body.flatMap ('\n' :: ·) ++ tail) =
      rest.foldl readLine (body.foldl readLine (readLine state head)) := by
  rw [readText, Text.splitAt_lines inline lines split, List.cons_append, List.foldl_cons,
    List.foldl_append]

theorem foldl_readLine_of_endsLine {state : State} (outside : state.inMacro = false)
    {text : List Char} {rest : List (List Char)}
    (split : Text.splitAt (· = '\n') text = [] :: rest) :
    rest.foldl readLine state = readText state text := by
  rw [readText, split, List.foldl_cons, readLine_outside outside]
  rfl

theorem readLine_comment {state : State} (outside : state.inMacro = false) (hidden : List Char) :
    readLine state ('#' :: hidden) = state := by
  obtain ⟨word, rest, begins⟩ := Text.exists_words_cons (by decide : isBlank '#' = false) hidden
  have hides : (String.ofList ('#' :: word)).startsWith "#" = true := by simp
  have strange : String.ofList ('#' :: word) ∉ keywords := by
    intro member
    have visible : ∀ keyword ∈ keywords, keyword.startsWith "#" = false := by simp [keywords]
    exact absurd hides (ne_true_of_eq_false (visible _ member))
  rw [readLine_outside outside, begins, List.map_cons, readWords_strange strange, if_pos hides]

theorem readText_comment {state : State} (outside : state.inMacro = false) {hidden text : List Char}
    (inline : '\n' ∉ hidden) (ends : EndsLine text) :
    readText state ('#' :: hidden ++ text) = readText state text := by
  obtain ⟨rest, split⟩ := Text.splitAt_of_endsLine ends
  have inline : '\n' ∉ '#' :: hidden := by simpa using inline
  have reads := readText_lines state inline (List.forall_mem_nil _) split
  rwa [List.flatMap_nil, List.append_nil, List.foldl_nil, readLine_comment outside,
    foldl_readLine_of_endsLine outside split] at reads

theorem readLine_macdef {state : State} (outside : state.inMacro = false) {heading : List Char}
    (parts : Parts heading) :
    readLine state ("macdef".toList ++ heading) = { state with inMacro := true } := by
  have keyword : IsWord "macdef".toList := by decide
  rw [readLine_outside outside, Text.words_append parts, keyword.words, readWords.eq_def]
  simp

theorem foldl_readLine_body {state : State} (inside : state.inMacro = true)
    {body : List (List Char)} (filled : ∀ line ∈ body, words line ≠ []) :
    body.foldl readLine state = state := by
  induction body with
  | nil => rfl
  | cons line body ih =>
    obtain ⟨here, below⟩ := List.forall_mem_cons.mp filled
    have passes : readLine state line = state := by
      simp [readLine, inside, here]
    rw [List.foldl_cons, passes, ih below]

theorem readText_lastMacdef {state : State} (outside : state.inMacro = false)
    {heading : List Char} {body : List (List Char)} (parts : Parts heading) (inline : '\n' ∉ heading)
    (lines : ∀ line ∈ body, words line ≠ [] ∧ '\n' ∉ line) :
    readText state ("macdef".toList ++ heading ++ body.flatMap ('\n' :: ·)) =
      { state with inMacro := true } := by
  have inline : '\n' ∉ "macdef".toList ++ heading := by simpa using inline
  have reads := readText_lines state inline (fun line member => (lines line member).2)
    (show Text.splitAt (· = '\n') [] = [] :: [] from rfl)
  rwa [List.append_nil, readLine_macdef outside parts,
    foldl_readLine_body rfl fun line member => (lines line member).1] at reads

theorem readText_macdef {state : State} (outside : state.inMacro = false)
    {heading gap text : List Char} {body : List (List Char)} (parts : Parts heading)
    (inline : '\n' ∉ heading) (lines : ∀ line ∈ body, words line ≠ [] ∧ '\n' ∉ line)
    (white : IsGap gap) (ends : EndsLine text) :
    readText state
        ("macdef".toList ++ heading ++ body.flatMap ('\n' :: ·) ++ '\n' :: (gap ++ text)) =
      readText state text := by
  obtain ⟨rest, split⟩ := Text.splitAt_of_endsLine ends
  have inline : '\n' ∉ "macdef".toList ++ heading := by simpa using inline
  have below : Text.splitAt (· = '\n') ('\n' :: (gap ++ text)) = [] :: gap :: rest := by
    rw [Text.splitAt_cons_of_separates rfl, Text.splitAt_inline white.inline split, List.append_nil]
  have leaves : readLine { state with inMacro := true } gap = state := by
    simp [readLine, Text.words_eq_nil white.blank, ← outside]
  rw [readText_lines state inline (fun line member => (lines line member).2) below,
    readLine_macdef outside parts,
    foldl_readLine_body rfl fun line member => (lines line member).1, List.foldl_cons, leaves,
    foldl_readLine_of_endsLine outside split]

theorem Item.keyed_isWord {item : Item} {keyword value : String}
    (spelled : item.keyed? = some (keyword, value)) : IsWord keyword.toList := by
  cases item <;> cases spelled <;> decide

theorem readText_keyed {state : State} (outside : state.inMacro = false) {item : Item}
    {keyword value : String} {gap text : List Char} (spelled : item.keyed? = some (keyword, value))
    (apart : gap ≠ []) (isGap : IsGap gap) (isWord : IsWord value.toList) (parts : Parts text) :
    readText state (keyword.toList ++ gap ++ value.toList ++ text) =
      readText (state.take item) text := by
  have keyWord := Item.keyed_isWord spelled
  have gapParts : Parts (gap ++ value.toList) := by
    intro character first
    rw [List.head?_append_of_ne_nil gap apart] at first
    exact isGap.blank character (List.mem_of_mem_head? first)
  have twoWords :=
    calc words (keyword.toList ++ gap ++ value.toList)
        = words keyword.toList ++ words (gap ++ value.toList) := by
          rw [List.append_assoc, Text.words_append gapParts]
      _ = [keyword.toList] ++ [value.toList] := by
          rw [keyWord.words, Text.words_blank_append isGap.blank, isWord.words]
  have inline : '\n' ∉ keyword.toList ++ gap ++ value.toList := by
    simp only [List.mem_append, not_or]
    exact ⟨⟨keyWord.inline, isGap.inline⟩, isWord.inline⟩
  refine readText_append outside (take_outside outside item) inline parts fun more => ?_
  rw [twoWords, ← readWords_keyed spelled]
  simp

theorem readText_word {state next : State} (outside : state.inMacro = false)
    (outside' : next.inMacro = false) {word : String} {text : List Char}
    (isWord : IsWord word.toList) (parts : Parts text)
    (reads : ∀ more, readWords state (word :: more) = readWords next more) :
    readText state (word.toList ++ text) = readText next text := by
  refine readText_append outside outside' isWord.inline parts fun more => ?_
  rw [isWord.words, ← reads]
  simp

/-- However it is laid out, a file is read item by item. -/
theorem close_readText {items : List Item} {text : List Char} (laid : Layout items text)
    {state : State} (outside : state.inMacro = false) :
    (readText state text).close = (items.foldl State.take state).close := by
  induction laid generalizing state with
  | nothing => exact close_readLine_nil state
  | blank white _ ih => rw [readText_blank outside white, ih outside]
  | @keyed item items keyword value gap text spelled apart isGap isWord parts _ ih =>
    calc (readText state (keyword.toList ++ gap ++ value.toList ++ text)).close
        = (readText (state.take item) text).close := by
          rw [readText_keyed outside spelled apart isGap isWord parts]
      _ = (items.foldl State.take (state.take item)).close := ih (take_outside outside item)
  | @default items text parts _ ih =>
    calc (readText state ("default".toList ++ text)).close
        = (readText (state.take .default) text).close := by
          rw [readText_word outside (take_outside outside _) (by decide) parts
            (readWords_default state)]
      _ = (items.foldl State.take (state.take .default)).close := ih (take_outside outside _)
  | unknown isWord strange isVisible parts _ ih =>
    have reads (more : List String) := readWords_strange strange state more
    simp only [isVisible, if_neg Bool.false_ne_true] at reads
    rw [readText_word outside outside isWord parts reads, ih outside, List.foldl_cons,
      take_of_id rfl rfl]
  | comment inline ends _ ih =>
    rw [readText_comment outside inline ends, ih outside, List.foldl_cons, take_of_id rfl rfl]
  | macdef parts inline lines white ends _ ih =>
    rw [readText_macdef outside parts inline lines white ends, ih outside, List.foldl_cons,
      take_of_id rfl rfl]
  | lastMacdef parts inline lines =>
    rw [readText_lastMacdef outside parts inline lines, List.foldl_cons, take_of_id rfl rfl]
    exact close_inMacro state true

theorem parse_of_layout {items : List Item} {text : String} (laid : Layout items text.toList) :
    parse text = (items.foldl State.take {}).close := by
  rw [parse, close_lines, close_readText laid rfl]

end SchedulerLink.Netrc
