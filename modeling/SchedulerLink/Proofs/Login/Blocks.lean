import Mathlib.Data.List.TakeWhile
import SchedulerLink.Proofs.Login.Layout

/-!
The blocks of a netrc file.

A block reaches from the item that opens it to the next one that opens a block. What is written of a
login last in a block applies to its host; what stands before the first block applies to nobody.
-/

namespace SchedulerLink.Netrc

namespace Item

def login? : Item → Option String
  | login value => some value
  | _ => none

def account? : Item → Option String
  | account value => some value
  | _ => none

def password? : Item → Option String
  | password value => some value
  | _ => none

end Item

def leading (items : List Item) : List Item := items.takeWhile (·.scope?.isNone)

/-- What the items of a block come to: of each kind the last. -/
def entryOf (items : List Item) : NetrcEntry where
  login := (items.filterMap (·.login?)).getLast?
  account := (items.filterMap (·.account?)).getLast?
  password := (items.filterMap (·.password?)).getLast?

def blocks : List Item → List (Scope × NetrcEntry)
  | [] => []
  | item :: rest =>
    match item.scope? with
    | some scope => (scope, entryOf (leading rest)) :: blocks rest
    | none => blocks rest

def machine? : Scope × NetrcEntry → Option (String × NetrcEntry)
  | (.machine host, entry) => some (host, entry)
  | (.default, _) => none

def default? : Scope × NetrcEntry → Option NetrcEntry
  | (.machine _, _) => none
  | (.default, entry) => some entry

def machinesOf (blocks : List (Scope × NetrcEntry)) : List (String × NetrcEntry) :=
  blocks.filterMap machine?

def lastDefault (blocks : List (Scope × NetrcEntry)) : Option NetrcEntry :=
  (blocks.filterMap default?).getLast?

def ofBlocks (blocks : List (Scope × NetrcEntry)) : Netrc := ⟨machinesOf blocks, lastDefault blocks⟩

/-! Blocks that are read one after the other. -/

def followed (entry : NetrcEntry) (items : List Item) : NetrcEntry where
  login := (entryOf items).login.or entry.login
  account := (entryOf items).account.or entry.account
  password := (entryOf items).password.or entry.password

theorem followed_nil (entry : NetrcEntry) : followed entry [] = entry := rfl

theorem followed_empty (items : List Item) : followed {} items = entryOf items := by
  simp [followed]

theorem getLast?_filterMap_cons {α β : Type} (read? : α → Option β) (head : α) (items : List α)
    (earlier : Option β) : (((head :: items).filterMap read?).getLast?).or earlier =
      ((items.filterMap read?).getLast?).or ((read? head).or earlier) := by
  cases found : read? head with
  | none => rw [List.filterMap_cons_none found, Option.none_or]
  | some value =>
    rw [List.filterMap_cons_some found, List.getLast?_cons]
    cases (items.filterMap read?).getLast? <;> rfl

theorem followed_cons (entry : NetrcEntry) (item : Item) (items : List Item) :
    followed entry (item :: items) = followed (item.change entry) items := by
  have changes : item.change entry = ⟨item.login?.or entry.login, item.account?.or entry.account,
      item.password?.or entry.password⟩ := by
    cases item <;> rfl
  simp only [followed, entryOf, getLast?_filterMap_cons, changes]

theorem leading_cons_of_none {item : Item} (opens : item.scope? = none) (items : List Item) :
    leading (item :: items) = item :: leading items := by
  rw [leading, List.takeWhile_cons_of_pos (by rw [opens]; rfl), leading]

theorem leading_cons_of_some {item : Item} {scope : Scope} (opens : item.scope? = some scope)
    (items : List Item) : leading (item :: items) = [] := by
  rw [leading, List.takeWhile_cons_of_neg (by simp [opens])]

theorem close_eq_ofBlocks {state : State} {earlier : List (Scope × NetrcEntry)}
    (closed : state.closed = ofBlocks earlier) :
    state.close = ofBlocks (earlier ++ state.current.toList) := by
  rcases state with ⟨_, _ | ⟨host | _, entry⟩, _⟩ <;> cases closed <;>
    simp [State.close, ofBlocks, machinesOf, lastDefault, machine?, default?]

/-- Items complete the open block, and make up those that follow. -/
theorem foldl_take_close (items : List Item) {state : State} {earlier : List (Scope × NetrcEntry)}
    (closed : state.closed = ofBlocks earlier) :
    (items.foldl State.take state).close = ofBlocks (earlier ++
      (state.current.map fun (scope, entry) => (scope, followed entry (leading items))).toList ++
        blocks items) := by
  -- An item that opens a block moves the open one to the earlier blocks, so these are general.
  induction items generalizing state earlier with
  | nil =>
    rw [List.foldl_nil, close_eq_ofBlocks closed]
    simp [leading, followed_nil, blocks]
  | cons item items ih =>
    rw [List.foldl_cons]
    cases opens : item.scope? with
    | some scope =>
      have taken : state.take item = state.enter scope := by rw [State.take, opens]
      rw [taken, ih (close_eq_ofBlocks closed), leading_cons_of_some opens, blocks, opens]
      simp [State.enter, followed_nil, followed_empty]
    | none =>
      have taken : state.take item = state.record item.change := by rw [State.take, opens]
      have recorded : (state.record item.change).closed = ofBlocks earlier := closed
      rw [taken, ih recorded, leading_cons_of_none opens, blocks, opens]
      simp only [State.record, Option.map_map, followed_cons]
      rfl

/-! A file whose values and comments are spelled like keywords. -/

def sampleItems : List Item :=
  [.machine "A", .login "machine", .comment, .macdef, .password "default", .default, .login "#"]

def sampleText : String :=
  "machine A login machine #x\nmacdef m\n login z\n\npassword default default login #"

theorem sample_laid : Layout sampleItems sampleText.toList := by
  have pieces : sampleText.toList =
      "machine".toList ++ [' '] ++ "A".toList ++ (' ' ::
        ("login".toList ++ [' '] ++ "machine".toList ++ (' ' ::
          ('#' :: ['x'] ++ ('\n' ::
            ("macdef".toList ++ " m".toList ++ [" login z".toList].flatMap ('\n' :: ·) ++
              '\n' :: ([] ++ ('\n' ::
                ("password".toList ++ [' '] ++ "default".toList ++ (' ' ::
                  ("default".toList ++ (' ' ::
                    ("login".toList ++ [' '] ++ "#".toList ++ []))))))))))))) := by
    decide +kernel
  rw [pieces]
  refine .keyed rfl (by decide) (by decide) (by decide) (by decide) (.blank rfl ?_)
  refine .keyed rfl (by decide) (by decide) (by decide) (by decide) (.blank rfl ?_)
  refine .comment (by decide) (by decide) (.blank rfl ?_)
  refine .macdef (by decide) (by decide) (by decide) (by decide) (by decide) (.blank rfl ?_)
  refine .keyed rfl (by decide) (by decide) (by decide) (by decide) (.blank rfl ?_)
  refine .default (by decide) (.blank rfl ?_)
  exact .keyed rfl (by decide) (by decide) (by decide) (by decide) .nothing

/-- However a file is laid out, a block has what is written last between its opening and the next
one's, and a host has the first machine of its name, ASCII case aside, or else the last default. -/
theorem follows_blocks {items : List Item} {text : String} (laid : Layout items text.toList) :
    parse text = ⟨machinesOf (blocks items), lastDefault (blocks items)⟩ ∧
    ∀ host, (parse text).entryFor host =
      (((machinesOf (blocks items)).find? fun machine =>
        machine.1.toLower = host.toLower).map Prod.snd).or (lastDefault (blocks items)) := by
  have parsed : parse text = ofBlocks (blocks items) := by
    rw [parse_of_layout laid, foldl_take_close items (show ({} : State).closed = ofBlocks [] from rfl)]
    rfl
  refine ⟨parsed, fun host => ?_⟩
  rw [parsed, entryFor, ofBlocks]
  split
  next found => rw [found]; rfl
  next missing => rw [missing]; rfl

theorem follows_blocks_of_sample : Layout sampleItems sampleText.toList ∧
    parse sampleText =
      ⟨[("A", ⟨some "machine", none, some "default"⟩)], some ⟨some "#", none, none⟩⟩ ∧
    (parse sampleText).entryFor "a" = some ⟨some "machine", none, some "default"⟩ ∧
    (parse sampleText).entryFor "x" = some ⟨some "#", none, none⟩ := by
  obtain ⟨parsed, found⟩ := follows_blocks sample_laid
  have machines : machinesOf (blocks sampleItems) =
      [("A", ⟨some "machine", none, some "default"⟩)] := rfl
  have last : lastDefault (blocks sampleItems) = some ⟨some "#", none, none⟩ := rfl
  have sameName : "A".toLower = "a".toLower := by
    show "A".map Char.toLower = "a".map Char.toLower
    simp [← String.toList_inj]
  refine ⟨sample_laid, by rw [parsed, machines, last], ?_, ?_⟩
  · rw [found, machines]
    simp [sameName]
  · rw [found, machines, last]
    decide +kernel

end SchedulerLink.Netrc
