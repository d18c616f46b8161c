import ClusterBootstrap.Command.Arguments
import ClusterBootstrap.Proofs.Except
import Mathlib.Data.List.TakeWhile

/-!
# Groups of arguments

A command line is a row of groups: an address, an option with its value, or a flag.  The reading goes
from left to right and looks at a value only when the next group begins, so that in the midst of the
line it may be one value behind.  What it would come to if the line ended there is what the groups so
far ask for, and for that their order counts among the roles only.
-/

namespace ClusterBootstrap.Arguments

/-! ## What groups ask for -/

/-- What a group of arguments asks for. -/
inductive Item where
  | endpoint (address : String)
  | role (name : String)
  | config (file : String)
  | probeTimeout (seconds : UInt64)
  | requestTimeout (seconds : UInt64)
  | strictSelf
  | verbose
  deriving DecidableEq

namespace Item

/-- The role that is asked for. -/
def role? : Item → Option String
  | role name => some name
  | _ => none

/-- The option that asks for an item; an address needs none. -/
def opt? : Item → Option Opt
  | endpoint _ => none
  | role _ => some .role
  | config _ => some .config
  | probeTimeout _ => some .probeTimeout
  | requestTimeout _ => some .requestTimeout
  | strictSelf => some .strictSelf
  | verbose => some .verbose

/-- Two items ask for the same thing, of which there is room for one.  Roles never do. -/
def Clash (item other : Item) : Prop :=
  item.opt? = other.opt? ∧ item.opt? ≠ some .role

instance (item other : Item) : Decidable (item.Clash other) :=
  inferInstanceAs (Decidable (_ ∧ _))

theorem Clash.symm {item other : Item} (h : item.Clash other) : other.Clash item :=
  ⟨h.1.symm, h.1 ▸ h.2⟩

end Item

/-- Nothing but roles is asked for more than once. -/
def Once (items : List Item) : Prop :=
  items.Pairwise fun item other => ¬ item.Clash other

instance (items : List Item) : Decidable (Once items) :=
  inferInstanceAs (Decidable (items.Pairwise _))

/-- A command line asks for just these items, its roles in their order. -/
structure Asks (items : List Item) (args : Arguments) : Prop where
  roles : args.roles = items.filterMap Item.role?
  endpoint : ∀ address, args.endpoint = some address ↔ .endpoint address ∈ items
  config : ∀ file, args.config = some file ↔ .config file ∈ items
  probeTimeout : ∀ seconds, args.probeTimeout = some seconds ↔ .probeTimeout seconds ∈ items
  requestTimeout : ∀ seconds, args.requestTimeout = some seconds ↔ .requestTimeout seconds ∈ items
  strictSelf : args.strictSelf = true ↔ .strictSelf ∈ items
  verbose : args.verbose = true ↔ .verbose ∈ items

/-! ## How they are written -/

/-- A value that is not empty and cannot be taken for an option. -/
structure Proper (value : String) : Prop where
  nonempty : value ≠ ""
  no_dash : value.toList.head? ≠ some '-'

/-- The digits of a number, with leading zeros or without. -/
structure Digits (text : String) (n : UInt64) : Prop where
  nonempty : text.toList ≠ []
  digits : ∀ c ∈ text.toList, c.isDigit = true
  value : Nat.ofDigitChars 10 text.toList 0 = n.toNat

/-- An item is asked for by an option with this value. -/
inductive ValueOf : Item → Opt → String → Prop where
  | role {name : String} (hProper : Proper name) : ValueOf (.role name) .role name
  | config {file : String} (hProper : Proper file) : ValueOf (.config file) .config file
  | probeTimeout {n : UInt64} {text : String} (hDigits : Digits text n) :
    ValueOf (.probeTimeout n) .probeTimeout text
  | requestTimeout {n : UInt64} {text : String} (hDigits : Digits text n) :
    ValueOf (.requestTimeout n) .requestTimeout text

/-- An item is asked for by an option without a value. -/
inductive FlagOf : Item → Opt → Prop where
  | strictSelf : FlagOf .strictSelf .strictSelf
  | verbose : FlagOf .verbose .verbose

/-- An option is written by its name, or by its letter if it has one. -/
inductive Spelled (opt : Opt) : String → Prop where
  | long : Spelled opt ("--" ++ opt.long)
  | short {letter : Char} (hLetter : opt.short = some letter) :
    Spelled opt (String.ofList ['-', letter])

/-- Arguments that ask for an item.  A value is an argument of its own, or follows the name of its
option and an equals sign. -/
inductive Written : Item → List String → Prop where
  | endpoint {address : String} (hProper : Proper address) : Written (.endpoint address) [address]
  | separate {item : Item} {opt : Opt} {text arg : String} (hValue : ValueOf item opt text)
      (hSpelled : Spelled opt arg) : Written item [arg, text]
  | joined {item : Item} {opt : Opt} {text : String} (hValue : ValueOf item opt text) :
    Written item ["--" ++ opt.long ++ "=" ++ text]
  | flag {item : Item} {opt : Opt} {arg : String} (hFlag : FlagOf item opt)
      (hSpelled : Spelled opt arg) : Written item [arg]

/-- A group of arguments, and what it asks for. -/
structure Group where
  item : Item
  arguments : List String
  written : Written item arguments

/-! ## Single arguments -/

theorem Digits.seconds?_eq {text : String} {n : UInt64} (h : Digits text n) :
    seconds? text = some n := by
  have hNatural : Decimal.natural? text.toList = some n.toNat :=
    Decimal.natural?_eq_some_iff.mpr ⟨h.nonempty, h.digits, h.value⟩
  have hWord : n.toNat < Decimal.wordCount := n.toNat_lt
  dsimp only [seconds?]
  split
  · -- there is no sign to take away
    rename_i digits hText
    have hPlus := h.digits '+' (hText ▸ List.mem_cons_self)
    exact absurd hPlus (by decide)
  · rw [hNatural, Option.filter_some_pos (by simpa using hWord), Option.map_some]
    simp

/-- A number is no option. -/
theorem Digits.proper {text : String} {n : UInt64} (h : Digits text n) : Proper text := by
  constructor
  · rintro rfl
    exact h.nonempty rfl
  · intro hDash
    have hDigit := h.digits '-' (List.mem_of_mem_head? hDash)
    exact absurd hDigit (by decide)

theorem ValueOf.proper {item : Item} {opt : Opt} {text : String} (h : ValueOf item opt text) :
    Proper text := by
  cases h with
  | role hProper => exact hProper
  | config hProper => exact hProper
  | probeTimeout hDigits => exact hDigits.proper
  | requestTimeout hDigits => exact hDigits.proper

theorem ValueOf.takesValue {item : Item} {opt : Opt} {text : String} (h : ValueOf item opt text) :
    opt.takesValue = true := by
  cases h <;> rfl

theorem FlagOf.takesValue {item : Item} {opt : Opt} (h : FlagOf item opt) :
    opt.takesValue = false := by
  cases h <;> rfl

theorem Opt.ofLong?_long (opt : Opt) : Opt.ofLong? opt.long = some opt := by
  cases opt <;> decide

theorem Opt.ofShort?_of_short {opt : Opt} {letter : Char} (h : opt.short = some letter) :
    Opt.ofShort? letter = some opt := by
  cases opt <;> cases h <;> decide

theorem Opt.equals_notMem_long (opt : Opt) : '=' ∉ opt.long.toList := by
  cases opt <;> decide

theorem Opt.long_ne_nil (opt : Opt) : opt.long.toList ≠ [] := by
  cases opt <;> decide

namespace Reading

variable {p : Reading}

/-- An argument that does not begin with a dash. -/
theorem step_proper (hOptions : p.onlyPositional = false) {value : String}
    (hProper : Proper value) : p.step value = p.plain value := by
  have hDash := hProper.no_dash
  unfold step
  rw [if_neg (by simp [hOptions])]
  split <;> simp_all

/-- A name behind two dashes ends with the argument or before the first equals sign. -/
theorem step_name (hOptions : p.onlyPositional = false) {arg : String} {name behind : List Char}
    (hArg : arg.toList = '-' :: '-' :: (name ++ behind)) (hSome : name ≠ []) (hNone : '=' ∉ name)
    (hBehind : ∀ c ∈ behind.head?, c = '=') :
    p.step arg = p.longOption (String.ofList name) (behind.tail?.map String.ofList) := by
  obtain ⟨first, rest, rfl⟩ := List.exists_cons_of_ne_nil hSome
  have hOther : ∀ c ∈ first :: rest, decide (c ≠ '=') = true := fun c hMem =>
    decide_eq_true (ne_of_mem_of_not_mem hMem hNone)
  have hTake : (first :: rest ++ behind).takeWhile (fun c => decide (c ≠ '=')) = first :: rest := by
    rw [List.takeWhile_append_of_pos hOther]
    cases behind with
    | nil => simp
    | cons c value => simp [hBehind c rfl]
  have hDrop : (first :: rest ++ behind).dropWhile (fun c => decide (c ≠ '=')) = behind := by
    rw [List.dropWhile_append_of_pos hOther]
    cases behind with
    | nil => rfl
    | cons c value => simp [hBehind c rfl]
  rw [List.cons_append] at hArg hTake hDrop
  simp only [step, hOptions, Bool.false_eq_true, if_false, hArg, hTake, hDrop]
  cases behind <;> rfl

theorem step_long (hOptions : p.onlyPositional = false) (opt : Opt) :
    p.step ("--" ++ opt.long) = p.bare opt := by
  have hText : ("--" ++ opt.long).toList = '-' :: '-' :: (opt.long.toList ++ []) := by
    simp [String.toList_append]
  rw [step_name hOptions hText opt.long_ne_nil opt.equals_notMem_long (by simp),
    String.ofList_toList]
  simp [longOption, opt.ofLong?_long]

theorem step_joined (hOptions : p.onlyPositional = false) {opt : Opt}
    (hTakes : opt.takesValue = true) (value : String) :
    p.step ("--" ++ opt.long ++ "=" ++ value) = p.attached opt value := by
  have hText : ("--" ++ opt.long ++ "=" ++ value).toList =
      '-' :: '-' :: (opt.long.toList ++ '=' :: value.toList) := by
    simp [String.toList_append]
  rw [step_name hOptions hText opt.long_ne_nil opt.equals_notMem_long (by simp),
    String.ofList_toList]
  simp [longOption, opt.ofLong?_long, hTakes]

theorem step_short (hOptions : p.onlyPositional = false) {opt : Opt} {letter : Char}
    (hLetter : opt.short = some letter) :
    p.step (String.ofList ['-', letter]) = p.bare opt := by
  -- no option has a dash for its letter, so this is not the end of the options
  have hDash : letter ≠ '-' := by
    rintro rfl
    cases opt <;> cases hLetter
  have hStep : p.step (String.ofList ['-', letter]) = p.letters [letter] := by
    simp [step, hOptions, hDash]
  rw [hStep]
  simp only [letters, Opt.ofShort?_of_short hLetter]
  split
  · rfl
  · -- no letter is left
    exact bind_pure _

theorem step_spelled (hOptions : p.onlyPositional = false) {opt : Opt} {arg : String}
    (h : Spelled opt arg) : p.step arg = p.bare opt := by
  cases h with
  | long => exact step_long hOptions opt
  | short hLetter => exact step_short hOptions hLetter

variable {args args' : Arguments}

theorem positional_eq (hSettle : p.settle = .ok { args := args }) (hNone : p.args.endpoint = none)
    (address : String) :
    p.positional address = .ok { args := { args with endpoint := some address } } := by
  rw [positional, hNone, hSettle]
  rfl

theorem attached_eq (hSettle : p.settle = .ok { args := args }) {opt : Opt} {value : String}
    (hSet : args.setValue opt value = .ok args') : p.attached opt value = .ok { args := args' } := by
  simp only [attached, hSettle, ok_bind, hSet]
  rfl

theorem bare_value_eq (hSettle : p.settle = .ok { args := args }) {opt : Opt}
    (hTakes : opt.takesValue = true) :
    p.bare opt = .ok { args := args, pending := some (opt, none) } := by
  rw [bare, hSettle, ok_bind, if_pos hTakes]
  rfl

theorem bare_flag_eq (hSettle : p.settle = .ok { args := args }) {opt : Opt}
    (hTakes : opt.takesValue = false) (hSet : args.setFlag opt = .ok args') :
    p.bare opt = .ok { args := args' } := by
  simp only [bare, hSettle, ok_bind, hTakes, hSet]
  rfl

end Reading

/-! ## What a group does -/

/-- What an item makes of a command line. -/
def Item.put (args : Arguments) : Item → Arguments
  | .endpoint address => { args with endpoint := some address }
  | .role name => { args with roles := args.roles ++ [name] }
  | .config file => { args with config := some file }
  | .probeTimeout seconds => { args with probeTimeout := some seconds }
  | .requestTimeout seconds => { args with requestTimeout := some seconds }
  | .strictSelf => { args with strictSelf := true }
  | .verbose => { args with verbose := true }

/-- There is room for an item among others. -/
def Room (items : List Item) (item : Item) : Prop :=
  ∀ other ∈ items, ¬ other.Clash item

/-- What could be asked for once is not, if there is still room for it. -/
theorem eq_none_of_room {α : Type} {value : Option α} {ask : α → Item} {items : List Item}
    {item : Item} (hAsked : ∀ a, value = some a ↔ ask a ∈ items) (hRoom : Room items item)
    (hClash : ∀ a, (ask a).Clash item) : value = none :=
  Option.eq_none_iff_forall_ne_some.mpr fun a hSome => hRoom _ ((hAsked a).mp hSome) (hClash a)

theorem asks_nil : Asks [] {} := by
  constructor <;> simp

theorem Asks.put {items : List Item} {args : Arguments} {item : Item} (h : Asks items args)
    (hRoom : Room items item) : Asks (items ++ [item]) (item.put args) := by
  obtain ⟨hRoles, hEndpoint, hConfig, hProbe, hRequest, hSelf, hVerbose⟩ := h
  -- the item has one field of its own, and what the others were asked for stays
  cases item with
  | endpoint address =>
    have hNone (other : String) : .endpoint other ∉ items := fun hMem => hRoom _ hMem ⟨rfl, nofun⟩
    constructor
    case endpoint => simp [Item.put, hNone, eq_comm]
    all_goals simp [Item.put, Item.role?, *]
  | role name => constructor <;> simp [Item.put, Item.role?, *]
  | config file =>
    have hNone (other : String) : .config other ∉ items := fun hMem => hRoom _ hMem ⟨rfl, nofun⟩
    constructor
    case config => simp [Item.put, hNone, eq_comm]
    all_goals simp [Item.put, Item.role?, *]
  | probeTimeout seconds =>
    have hNone (other : UInt64) : .probeTimeout other ∉ items := fun hMem =>
      hRoom _ hMem ⟨rfl, nofun⟩
    constructor
    case probeTimeout => simp [Item.put, hNone, eq_comm]
    all_goals simp [Item.put, Item.role?, *]
  | requestTimeout seconds =>
    have hNone (other : UInt64) : .requestTimeout other ∉ items := fun hMem =>
      hRoom _ hMem ⟨rfl, nofun⟩
    constructor
    case requestTimeout => simp [Item.put, hNone, eq_comm]
    all_goals simp [Item.put, Item.role?, *]
  | strictSelf => constructor <;> simp [Item.put, Item.role?, *]
  | verbose => constructor <;> simp [Item.put, Item.role?, *]

theorem secondsOnce_eq {old : Option UInt64} {text : String} {n : UInt64} (hOld : old = none)
    (hDigits : Digits text n) : secondsOnce old text = .ok n := by
  rw [secondsOnce, hOld, hDigits.seconds?_eq]
  rfl

theorem ValueOf.setValue_eq {item : Item} {opt : Opt} {text : String} {items : List Item}
    {args : Arguments} (h : ValueOf item opt text) (hAsks : Asks items args)
    (hRoom : Room items item) : args.setValue opt text = .ok (item.put args) := by
  cases h with
  | role hProper => rfl
  | config hProper =>
    have hNone : args.config = none :=
      eq_none_of_room hAsks.config hRoom fun _ => ⟨rfl, nofun⟩
    simp [setValue, hNone, hProper.nonempty, Item.put]
  | probeTimeout hDigits =>
    have hNone : args.probeTimeout = none :=
      eq_none_of_room hAsks.probeTimeout hRoom fun _ => ⟨rfl, nofun⟩
    rw [setValue, secondsOnce_eq hNone hDigits]
    rfl
  | requestTimeout hDigits =>
    have hNone : args.requestTimeout = none :=
      eq_none_of_room hAsks.requestTimeout hRoom fun _ => ⟨rfl, nofun⟩
    rw [setValue, secondsOnce_eq hNone hDigits]
    rfl

theorem FlagOf.setFlag_eq {item : Item} {opt : Opt} {items : List Item} {args : Arguments}
    (h : FlagOf item opt) (hAsks : Asks items args) (hRoom : Room items item) :
    args.setFlag opt = .ok (item.put args) := by
  cases h with
  | strictSelf =>
    have hUnset : ¬ args.strictSelf = true := fun hSet =>
      hRoom _ (hAsks.strictSelf.mp hSet) ⟨rfl, nofun⟩
    exact if_neg hUnset
  | verbose =>
    have hUnset : ¬ args.verbose = true := fun hSet => hRoom _ (hAsks.verbose.mp hSet) ⟨rfl, nofun⟩
    exact if_neg hUnset

/-! ## Between two groups -/

/-- Between two groups, all is settled that was asked for, or all but the last value. -/
inductive Standing : List Item → Reading → Prop where
  | settled {items : List Item} {args : Arguments} (hAsks : Asks items args) :
    Standing items { args := args }
  | behind {items : List Item} {args : Arguments} {item : Item} {opt : Opt} {text : String}
    (hAsks : Asks items args) (hValue : ValueOf item opt text) (hRoom : Room items item) :
    Standing (items ++ [item]) { args := args, pending := some (opt, some text) }

namespace Standing

variable {items : List Item} {item : Item} {p : Reading}

theorem onlyPositional_eq (h : Standing items p) : p.onlyPositional = false := by
  cases h <;> rfl

theorem settle_eq (h : Standing items p) :
    ∃ args, p.settle = .ok { args := args } ∧ Asks items args := by
  cases h with
  | settled hAsks => exact ⟨_, rfl, hAsks⟩
  | behind hAsks hValue hRoom =>
    refine ⟨_, ?_, hAsks.put hRoom⟩
    simp only [Reading.settle, hValue.setValue_eq hAsks hRoom]
    rfl

/-- No value is awaited. -/
theorem plain_eq (h : Standing items p) (value : String) : p.plain value = p.positional value := by
  cases h <;> rfl

theorem endpoint_eq_none {address : String} (h : Standing items p)
    (hRoom : Room items (.endpoint address)) : p.args.endpoint = none := by
  cases h with
  | settled hAsks => exact eq_none_of_room hAsks.endpoint hRoom fun _ => ⟨rfl, nofun⟩
  | behind hAsks hValue hItem =>
    -- the value that is not settled is no address
    have hRoomBefore : Room _ (.endpoint address) := fun other hMem =>
      hRoom other (List.mem_append_left _ hMem)
    exact eq_none_of_room hAsks.endpoint hRoomBefore fun _ => ⟨rfl, nofun⟩

/-- One group takes the reading to the next place between groups. -/
theorem group (h : Standing items p) (hRoom : Room items item) {arguments : List String}
    (hWritten : Written item arguments) :
    ∃ q, arguments.foldlM Reading.step p = .ok q ∧ Standing (items ++ [item]) q := by
  obtain ⟨args, hSettle, hAsks⟩ := h.settle_eq
  have hAll := h.onlyPositional_eq
  cases hWritten with
  | endpoint hProper =>
    refine ⟨_, ?_, .settled (hAsks.put hRoom)⟩
    rw [List.foldlM_cons, Reading.step_proper hAll hProper, h.plain_eq,
      Reading.positional_eq hSettle (h.endpoint_eq_none hRoom)]
    rfl
  | separate hValue hSpelled =>
    -- the value is taken, and not looked at yet
    refine ⟨_, ?_, .behind hAsks hValue hRoom⟩
    rw [List.foldlM_cons, Reading.step_spelled hAll hSpelled,
      Reading.bare_value_eq hSettle hValue.takesValue, ok_bind, List.foldlM_cons,
      Reading.step_proper rfl hValue.proper]
    rfl
  | joined hValue =>
    refine ⟨_, ?_, .settled (hAsks.put hRoom)⟩
    rw [List.foldlM_cons, Reading.step_joined hAll hValue.takesValue,
      Reading.attached_eq hSettle (hValue.setValue_eq hAsks hRoom)]
    rfl
  | flag hFlag hSpelled =>
    refine ⟨_, ?_, .settled (hAsks.put hRoom)⟩
    rw [List.foldlM_cons, Reading.step_spelled hAll hSpelled,
      Reading.bare_flag_eq hSettle hFlag.takesValue (hFlag.setFlag_eq hAsks hRoom)]
    rfl

end Standing

/-! ## All groups -/

/-- As long as nothing is asked for twice, a row of groups takes the reading to its end. -/
theorem Standing.groups {items : List Item} {p : Reading} (h : Standing items p)
    {groups : List Group} (hOnce : Once (items ++ groups.map Group.item)) :
    ∃ q, (groups.flatMap Group.arguments).foldlM Reading.step p = .ok q ∧
      Standing (items ++ groups.map Group.item) q := by
  -- along the line: what stands before the next group is asked for already
  induction groups generalizing items p with
  | nil =>
    refine ⟨p, rfl, ?_⟩
    simpa using h
  | cons group groups ih =>
    have hSplit : items ++ (group :: groups).map Group.item =
        items ++ [group.item] ++ groups.map Group.item := by simp
    rw [hSplit] at hOnce ⊢
    have hRoom : Room items group.item := by
      have hBefore := (List.pairwise_append.mp hOnce).1
      intro other hMem
      exact (List.pairwise_append.mp hBefore).2.2 other hMem _ (List.mem_singleton_self _)
    obtain ⟨q, hGroup, hStanding⟩ := h.group hRoom group.written
    obtain ⟨r, hGroups, hEnd⟩ := ih hStanding hOnce
    refine ⟨r, ?_, hEnd⟩
    rw [List.flatMap_cons, List.foldlM_append, hGroup, ok_bind, hGroups]

theorem parse_asks {groups : List Group} (hOnce : Once (groups.map Group.item)) :
    ∃ args, parse (groups.flatMap Group.arguments) = .ok args ∧
      Asks (groups.map Group.item) args := by
  obtain ⟨p, hRead, hStanding⟩ := (Standing.settled asks_nil).groups hOnce
  obtain ⟨args, hSettle, hAsks⟩ := hStanding.settle_eq
  refine ⟨args, ?_, hAsks⟩
  rw [parse, hRead, ok_bind, hSettle]
  rfl

theorem Once.of_perm {items others : List Item} (h : Once items) (hPerm : others.Perm items) :
    Once others :=
  (hPerm.pairwise_iff fun hApart hClash => hApart hClash.symm).mpr h

/-- What is asked for in another order is the same but for the roles. -/
theorem Asks.eq_of_perm {items others : List Item} {args args' : Arguments} (h : Asks items args)
    (hOthers : Asks others args') (hPerm : others.Perm items) :
    args' = { args with roles := others.filterMap Item.role? } := by
  have hEndpoint : args'.endpoint = args.endpoint := Option.ext fun address => by
    rw [hOthers.endpoint, h.endpoint, hPerm.mem_iff]
  have hConfig : args'.config = args.config := Option.ext fun file => by
    rw [hOthers.config, h.config, hPerm.mem_iff]
  have hProbe : args'.probeTimeout = args.probeTimeout := Option.ext fun seconds => by
    rw [hOthers.probeTimeout, h.probeTimeout, hPerm.mem_iff]
  have hRequest : args'.requestTimeout = args.requestTimeout := Option.ext fun seconds => by
    rw [hOthers.requestTimeout, h.requestTimeout, hPerm.mem_iff]
  have hSelf : args'.strictSelf = args.strictSelf := Bool.eq_iff_iff.mpr <| by
    rw [hOthers.strictSelf, h.strictSelf, hPerm.mem_iff]
  have hVerbose : args'.verbose = args.verbose := Bool.eq_iff_iff.mpr <| by
    rw [hOthers.verbose, h.verbose, hPerm.mem_iff]
  rw [← hEndpoint, ← hConfig, ← hProbe, ← hRequest, ← hSelf, ← hVerbose, ← hOthers.roles]

/-- Groups that ask for nothing twice, roles apart, are read whatever their order, and only the roles
keep it. -/
theorem parse_groups {groups : List Group} (hOnce : Once (groups.map Group.item)) :
    ∃ args, parse (groups.flatMap Group.arguments) = .ok args ∧
      Asks (groups.map Group.item) args ∧
      ∀ others : List Group, others.Perm groups →
        parse (others.flatMap Group.arguments) =
          .ok { args with roles := (others.map Group.item).filterMap Item.role? } := by
  obtain ⟨args, hParse, hAsks⟩ := parse_asks hOnce
  refine ⟨args, hParse, hAsks, fun others hPerm => ?_⟩
  have hItems := hPerm.map Group.item
  obtain ⟨args', hParse', hAsks'⟩ := parse_asks (hOnce.of_perm hItems)
  rw [hParse', hAsks.eq_of_perm hAsks' hItems]

/-- Two roles, and an address, a flag and a timeout among them. -/
def interleaved : List Group :=
  [⟨.role "key-value", ["-r", "key-value"], .separate (.role ⟨by decide, by decide⟩) (.short rfl)⟩,
    ⟨.endpoint "10.0.0.5:8082", ["10.0.0.5:8082"], .endpoint ⟨by decide, by decide⟩⟩,
    ⟨.role "vshard-router", ["--role=vshard-router"], .joined (.role ⟨by decide, by decide⟩)⟩,
    ⟨.verbose, ["-v"], .flag .verbose (.short rfl)⟩,
    ⟨.requestTimeout 5, ["--request-timeout", "05"],
      .separate (.requestTimeout ⟨by decide, by simp, by decide⟩) .long⟩]

theorem parse_interleaved_groups :
    Once (interleaved.map Group.item) ∧
      ∃ args, parse ["-r", "key-value", "10.0.0.5:8082", "--role=vshard-router", "-v",
          "--request-timeout", "05"] = .ok args ∧
        args.roles = ["key-value", "vshard-router"] ∧ args.requestTimeout = some 5 ∧
        parse ["--request-timeout", "05", "-v", "--role=vshard-router", "10.0.0.5:8082",
          "-r", "key-value"] = .ok { args with roles := ["vshard-router", "key-value"] } := by
  have hOnce : Once (interleaved.map Group.item) := by decide
  obtain ⟨args, hParse, hAsks, hOthers⟩ := parse_groups hOnce
  have hSeconds : args.requestTimeout = some 5 := (hAsks.requestTimeout 5).mpr (by decide)
  have hReverse := hOthers interleaved.reverse (List.reverse_perm interleaved)
  exact ⟨hOnce, args, hParse, hAsks.roles, hSeconds, hReverse⟩

end ClusterBootstrap.Arguments
