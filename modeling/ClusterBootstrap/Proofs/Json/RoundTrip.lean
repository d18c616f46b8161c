import ClusterBootstrap.Proofs.Json.Numbers
import Mathlib.Data.List.DropRight

/-!
# Documents that are read back

A printed value is read back as its normal form, in which every object lists its members by ascending
names.  This holds for all values without floating-point numbers whose integers fit a machine word and
whose depth the reader allows, and in either form of the text.
-/

namespace ClusterBootstrap.Json

/-! ## Values -/

mutual

/-- A value as it is read back. -/
def normal : Json → Json
  | .array items => .array (normalItems items)
  | .object members => ofMembers (normalMembers members)
  | json => json

/-- The items of an array, each in normal form. -/
def normalItems : List Json → List Json
  | [] => []
  | item :: items => normal item :: normalItems items

/-- The members of an object in their order, each value in normal form. -/
def normalMembers : List (String × Json) → List (String × Json)
  | [] => []
  | (name, value) :: members => (name, normal value) :: normalMembers members

end

/-- Values whose text can be read inside `depth` further arrays and objects.  Of the numbers only the
integers of machine words are among them. -/
inductive Readable : Nat → Json → Prop where
  | null {depth : Nat} : Readable depth .null
  | bool {depth : Nat} (value : Bool) : Readable depth (.bool value)
  | integer {depth : Nat} {n : Int} (hWord : Decimal.isWord n ∨ Decimal.isSignedWord n) :
    Readable depth (.integer n)
  | string {depth : Nat} (s : String) : Readable depth (.string s)
  | array {depth : Nat} {items : List Json} (hItems : ∀ item ∈ items, Readable depth item) :
    Readable (depth + 1) (.array items)
  | object {depth : Nat} {members : List (String × Json)}
    (hMembers : ∀ m ∈ members, Readable depth m.2) : Readable (depth + 1) (.object members)

/-! ## White space -/

/-- White space that the reader skips between tokens. -/
def Blank (bytes : List UInt8) : Prop :=
  ∀ b ∈ bytes, isBlankByte b = true

theorem blank_nil : Blank [] :=
  fun _ hMem => absurd hMem List.not_mem_nil

theorem blank_cons {b : UInt8} {bytes : List UInt8} (hFirst : isBlankByte b = true)
    (hBytes : Blank bytes) : Blank (b :: bytes) :=
  List.forall_mem_cons.mpr ⟨hFirst, hBytes⟩

/-- Printing with nothing but white space between the tokens. -/
structure Spacing.Plain (spacing : Spacing) : Prop where
  lineBreak (depth : Nat) : Blank (bytesOf (spacing.lineBreak depth))
  colon : ∃ blanks, Blank blanks ∧ bytesOf spacing.colon = byte ':' :: blanks

theorem skipBlank_append {blanks : List UInt8} (hBlank : Blank blanks) (rest : List UInt8) :
    skipBlank (blanks ++ rest) = skipBlank rest :=
  List.dropWhile_append_of_pos hBlank

theorem skipBlank_cons {b : UInt8} (hBlank : isBlankByte b = false) (rest : List UInt8) :
    skipBlank (b :: rest) = b :: rest :=
  List.dropWhile_cons_of_neg (by simp [hBlank])

theorem delimited_blank_append {blanks : List UInt8} (hBlank : Blank blanks) {rest : List UInt8}
    (hRest : Delimited rest) : Delimited (blanks ++ rest) := by
  cases blanks with
  | nil => exact hRest
  | cons b blanks =>
    have hFirst : isBlankByte b = true := hBlank b List.mem_cons_self
    simp only [isBlankByte, Bool.or_eq_true, decide_eq_true_eq] at hFirst
    refine delimited_cons _ ?_
    rcases hFirst with ((rfl | rfl) | rfl) | rfl <;> decide

/-- White space in front of a value is skipped. -/
theorem readValue_blank_append {blanks : List UInt8} (hBlank : Blank blanks) (depth : Nat)
    (rest : List UInt8) : readValue depth (blanks ++ rest) = readValue depth rest := by
  rw [readValue.eq_def, readValue.eq_def, skipBlank_append hBlank]

/-- Where a value is read, the first byte after white space is no closing bracket. -/
theorem exists_skipBlank_of_readValue {depth : Nat} {input rest : List UInt8} {json : Json}
    (hRead : readValue depth input = .ok (json, rest)) :
    ∃ b tail, skipBlank input = b :: tail ∧ b ≠ byte ']' ∧
      readValue depth (b :: tail) = .ok (json, rest) := by
  cases hSkip : skipBlank input with
  | nil =>
    rw [readValue.eq_def, hSkip] at hRead
    contradiction
  | cons b tail =>
    refine ⟨b, tail, rfl, ?_, ?_⟩
    · rintro rfl
      rw [readValue.eq_def, hSkip] at hRead
      contradiction
    · have hAgain : skipBlank (b :: tail) = b :: tail := by
        rw [← hSkip]
        exact List.dropWhile_idempotent ..
      rw [readValue.eq_def, hSkip] at hRead
      rw [readValue.eq_def, hAgain]
      exact hRead

/-! ## Items -/

/-- Wherever the text of a value stands, it is read as the value's normal form. -/
def ReadsBack (spacing : Spacing) (depth : Nat) (json : Json) : Prop :=
  ∀ level rest, Delimited rest →
    readValue depth (bytesOf (render spacing level json) ++ rest) = .ok (normal json, rest)

/-- One round of the reader of items, when there is an item. -/
theorem readItems_item {depth : Nat} {first : Bool} {b : UInt8} {input tail start rest : List UInt8}
    {json : Json} (hSkip : skipBlank input = b :: tail) (hOpen : b ≠ byte ']')
    (hStart : nextItem first b tail = .ok start)
    (hItem : readValue depth start = .ok (json, rest)) (rounds : Nat) :
    readItems (readValue depth) (rounds + 1) first input =
      (readItems (readValue depth) rounds false rest).map fun r => (json :: r.1, r.2) := by
  rw [readItems, hSkip]
  simp only [hOpen, if_false, hStart, hItem, ok_bind]
  cases readItems (readValue depth) rounds false rest <;> rfl

theorem readItems_first {depth : Nat} {input rest : List UInt8} {json : Json}
    (hItem : readValue depth input = .ok (json, rest)) (rounds : Nat) :
    readItems (readValue depth) (rounds + 1) true input =
      (readItems (readValue depth) rounds false rest).map fun r => (json :: r.1, r.2) := by
  obtain ⟨b, tail, hSkip, hOpen, hRead⟩ := exists_skipBlank_of_readValue hItem
  exact readItems_item hSkip hOpen rfl hRead rounds

theorem readItems_next {depth : Nat} {input rest : List UInt8} {json : Json}
    (hItem : readValue depth input = .ok (json, rest)) (rounds : Nat) :
    readItems (readValue depth) (rounds + 1) false (byte ',' :: input) =
      (readItems (readValue depth) rounds false rest).map fun r => (json :: r.1, r.2) := by
  obtain ⟨b, tail, hSkip, hOpen, hRead⟩ := exists_skipBlank_of_readValue hItem
  have hStart : nextItem false (byte ',') input = .ok (b :: tail) := by
    simp only [nextItem, Bool.false_eq_true, if_false, if_true, hSkip, hOpen]
  exact readItems_item (skipBlank_cons (by decide) input) (by decide) hStart hRead rounds

theorem readItems_close {blanks : List UInt8} (hBlank : Blank blanks)
    (item : List UInt8 → Except Stop (Taken Json)) (rounds : Nat) (first : Bool)
    (rest : List UInt8) :
    readItems item (rounds + 1) first (blanks ++ byte ']' :: rest) = .ok ([], rest) := by
  rw [readItems, skipBlank_append hBlank, skipBlank_cons (by decide)]
  rfl

theorem bytesOf_renderItems_nil (spacing : Spacing) (level : Nat) :
    bytesOf (renderItems spacing level []) = [] := by
  rw [renderItems]
  exact bytesOf_eq_encode _

theorem bytesOf_renderItems_cons (spacing : Spacing) (level : Nat) (item : Json)
    (items : List Json) :
    bytesOf (renderItems spacing level (item :: items)) =
      byte ',' :: (bytesOf (spacing.lineBreak level) ++ (bytesOf (render spacing level item) ++
        bytesOf (renderItems spacing level items))) := by
  have hComma : bytesOf "," = [byte ','] := bytesOf_eq_encode _
  rw [renderItems]
  simp only [bytesOf_append, List.append_assoc, hComma, List.cons_append, List.nil_append]

/-- What follows an item could not be more of a number. -/
theorem delimited_renderItems (spacing : Spacing) (level : Nat) (items : List Json)
    {rest : List UInt8} (hRest : Delimited rest) :
    Delimited (bytesOf (renderItems spacing level items) ++ rest) := by
  cases items with
  | nil =>
    rw [bytesOf_renderItems_nil]
    exact hRest
  | cons item items =>
    rw [bytesOf_renderItems_cons]
    exact delimited_cons _ (by decide)

/-- The items after the first are read up to the closing bracket. -/
theorem readItems_renderItems {spacing : Spacing} (hSpacing : spacing.Plain) {depth : Nat}
    {items : List Json} (hItems : ∀ item ∈ items, ReadsBack spacing depth item) (level : Nat)
    {blanks : List UInt8} (hBlank : Blank blanks) (rest : List UInt8) {rounds : Nat}
    (hRounds : items.length < rounds) :
    readItems (readValue depth) rounds false
        (bytesOf (renderItems spacing level items) ++ (blanks ++ byte ']' :: rest)) =
      .ok (normalItems items, rest) := by
  -- each item takes one round and the closing bracket the last
  induction items generalizing rounds with
  | nil =>
    obtain ⟨rounds, rfl⟩ := Nat.exists_eq_add_of_lt hRounds
    rw [bytesOf_renderItems_nil, List.nil_append]
    exact readItems_close hBlank _ _ _ rest
  | cons item items ih =>
    obtain ⟨rounds, rfl⟩ := Nat.exists_eq_add_of_lt hRounds
    have hClose : Delimited (blanks ++ byte ']' :: rest) :=
      delimited_blank_append hBlank (delimited_cons _ (by decide))
    have hItem := hItems item List.mem_cons_self level _
      (delimited_renderItems spacing level items hClose)
    rw [← readValue_blank_append (hSpacing.lineBreak level)] at hItem
    rw [bytesOf_renderItems_cons, List.cons_append, List.append_assoc, List.append_assoc,
      readItems_next hItem, ih fun other hMem => hItems other (List.mem_cons_of_mem _ hMem)]
    · rfl
    · rw [List.length_cons]
      omega

theorem bytesOf_render_array_cons (spacing : Spacing) (level : Nat) (item : Json)
    (items : List Json) :
    bytesOf (render spacing level (.array (item :: items))) =
      byte '[' :: (bytesOf (spacing.lineBreak (level + 1)) ++
        (bytesOf (render spacing (level + 1) item) ++
          (bytesOf (renderItems spacing (level + 1) items) ++
            (bytesOf (spacing.lineBreak level) ++ [byte ']'])))) := by
  have hOpen : bytesOf "[" = [byte '['] := bytesOf_eq_encode _
  have hClose : bytesOf "]" = [byte ']'] := bytesOf_eq_encode _
  rw [render]
  simp only [bytesOf_append, List.append_assoc, hOpen, hClose, List.cons_append, List.nil_append]

theorem readValue_array (depth : Nat) (rest : List UInt8) :
    readValue (depth + 1) (byte '[' :: rest) =
      (readItems (readValue depth) (rest.length + 1) true rest).map fun r =>
        (.array r.1, r.2) := by
  rw [readValue]
  rfl

theorem length_le_renderItems (spacing : Spacing) (level : Nat) (items : List Json) :
    items.length ≤ (bytesOf (renderItems spacing level items)).length := by
  induction items with
  | nil => exact Nat.zero_le _
  | cons item items ih =>
    rw [bytesOf_renderItems_cons]
    simp only [List.length_cons, List.length_append]
    omega

/-- An array is read back when its items are. -/
theorem readsBack_array {spacing : Spacing} (hSpacing : spacing.Plain) {depth : Nat}
    {items : List Json} (hItems : ∀ item ∈ items, ReadsBack spacing depth item) :
    ReadsBack spacing (depth + 1) (.array items) := by
  intro level rest hRest
  cases items with
  | nil =>
    have hEmpty : bytesOf (render spacing level (.array [])) = [byte '[', byte ']'] := by
      rw [render]
      exact bytesOf_eq_encode _
    rw [hEmpty, List.cons_append, readValue_array]
    rfl
  | cons item items =>
    have hBlank := hSpacing.lineBreak level
    have hClose : Delimited (bytesOf (spacing.lineBreak level) ++ byte ']' :: rest) :=
      delimited_blank_append hBlank (delimited_cons _ (by decide))
    have hItem := hItems item List.mem_cons_self (level + 1) _
      (delimited_renderItems spacing (level + 1) items hClose)
    rw [← readValue_blank_append (hSpacing.lineBreak (level + 1))] at hItem
    have hLength := length_le_renderItems spacing (level + 1) items
    rw [bytesOf_render_array_cons, List.cons_append, readValue_array]
    simp only [List.append_assoc, List.cons_append, List.nil_append]
    rw [readItems_first hItem, readItems_renderItems hSpacing
      (fun other hMem => hItems other (List.mem_cons_of_mem _ hMem)) _ hBlank]
    · rfl
    · -- there is a comma for each further item, so the rounds suffice
      simp only [List.length_append, List.length_cons]
      omega

/-! ## Members -/

/-- One round of the reader of members, when there is a member. -/
theorem readMembers_member {depth : Nat} {first : Bool} {b : UInt8}
    {input tail start afterName afterColon rest : List UInt8} {name : String} {json : Json}
    (hSkip : skipBlank input = b :: tail) (hOpen : b ≠ byte '\x7d')
    (hStart : nextName first b tail = .ok start)
    (hName : readString start = .ok (name, afterName))
    (hColon : skipColon afterName = .ok afterColon)
    (hValue : readValue depth afterColon = .ok (json, rest)) (rounds : Nat) :
    readMembers (readValue depth) (rounds + 1) first input =
      (readMembers (readValue depth) rounds false rest).map fun r => ((name, json) :: r.1, r.2) := by
  rw [readMembers, hSkip]
  simp only [hOpen, if_false, hStart, hName, hColon, hValue, ok_bind]
  cases readMembers (readValue depth) rounds false rest <;> rfl

/-- The text of a name, from its opening quote to the value behind the colon. -/
theorem exists_quote_colon {spacing : Spacing} (hSpacing : spacing.Plain) (name : String)
    (value : List UInt8) :
    ∃ start blanks, Blank blanks ∧
      bytesOf (quote name) ++ (bytesOf spacing.colon ++ value) = byte '"' :: start ∧
      readString start = .ok (name, byte ':' :: (blanks ++ value)) := by
  obtain ⟨blanks, hBlank, hColon⟩ := hSpacing.colon
  refine ⟨_, blanks, hBlank, ?_, readString_quote name _⟩
  rw [bytesOf_quote, hColon]
  simp only [List.append_assoc, List.cons_append, List.nil_append]

theorem skipColon_colon (rest : List UInt8) : skipColon (byte ':' :: rest) = .ok rest := rfl

theorem readMembers_first {spacing : Spacing} (hSpacing : spacing.Plain) {blanks : List UInt8}
    (hBlank : Blank blanks) {depth : Nat} {value rest : List UInt8} {json : Json}
    (hValue : readValue depth value = .ok (json, rest)) (name : String) (rounds : Nat) :
    readMembers (readValue depth) (rounds + 1) true
        (blanks ++ (bytesOf (quote name) ++ (bytesOf spacing.colon ++ value))) =
      (readMembers (readValue depth) rounds false rest).map fun r => ((name, json) :: r.1, r.2) := by
  obtain ⟨start, blanks', hBlank', hText, hName⟩ := exists_quote_colon hSpacing name value
  have hSkip : skipBlank (blanks ++ byte '"' :: start) = byte '"' :: start := by
    rw [skipBlank_append hBlank, skipBlank_cons (by decide)]
  rw [← readValue_blank_append hBlank'] at hValue
  rw [hText]
  exact readMembers_member hSkip (by decide) rfl hName (skipColon_colon _) hValue rounds

theorem readMembers_next {spacing : Spacing} (hSpacing : spacing.Plain) {blanks : List UInt8}
    (hBlank : Blank blanks) {depth : Nat} {value rest : List UInt8} {json : Json}
    (hValue : readValue depth value = .ok (json, rest)) (name : String) (rounds : Nat) :
    readMembers (readValue depth) (rounds + 1) false
        (byte ',' :: (blanks ++ (bytesOf (quote name) ++ (bytesOf spacing.colon ++ value)))) =
      (readMembers (readValue depth) rounds false rest).map fun r => ((name, json) :: r.1, r.2) := by
  obtain ⟨start, blanks', hBlank', hText, hName⟩ := exists_quote_colon hSpacing name value
  have hStart : nextName false (byte ',') (blanks ++ byte '"' :: start) = .ok start := by
    rw [nextName, skipBlank_append hBlank, skipBlank_cons (by decide)]
    rfl
  rw [← readValue_blank_append hBlank'] at hValue
  rw [hText]
  exact readMembers_member (skipBlank_cons (by decide) _) (by decide) hStart hName
    (skipColon_colon _) hValue rounds

theorem readMembers_close {blanks : List UInt8} (hBlank : Blank blanks)
    (value : List UInt8 → Except Stop (Taken Json)) (rounds : Nat) (first : Bool)
    (rest : List UInt8) :
    readMembers value (rounds + 1) first (blanks ++ byte '\x7d' :: rest) = .ok ([], rest) := by
  rw [readMembers, skipBlank_append hBlank, skipBlank_cons (by decide)]
  rfl

theorem bytesOf_renderMembers_cons (spacing : Spacing) (level : Nat) (name : String) (value : Json)
    (members : List (String × Json)) :
    bytesOf (renderMembers spacing level ((name, value) :: members)) =
      byte ',' :: (bytesOf (spacing.lineBreak level) ++ (bytesOf (quote name) ++
        (bytesOf spacing.colon ++ (bytesOf (render spacing level value) ++
          bytesOf (renderMembers spacing level members))))) := by
  have hComma : bytesOf "," = [byte ','] := bytesOf_eq_encode _
  rw [renderMembers]
  simp only [bytesOf_append, List.append_assoc, hComma, List.cons_append, List.nil_append]

theorem bytesOf_renderMembers_nil (spacing : Spacing) (level : Nat) :
    bytesOf (renderMembers spacing level []) = [] := by
  rw [renderMembers]
  exact bytesOf_eq_encode _

theorem delimited_renderMembers (spacing : Spacing) (level : Nat) (members : List (String × Json))
    {rest : List UInt8} (hRest : Delimited rest) :
    Delimited (bytesOf (renderMembers spacing level members) ++ rest) := by
  cases members with
  | nil =>
    rw [bytesOf_renderMembers_nil]
    exact hRest
  | cons m members =>
    rw [bytesOf_renderMembers_cons]
    exact delimited_cons _ (by decide)

theorem length_le_renderMembers (spacing : Spacing) (level : Nat)
    (members : List (String × Json)) :
    members.length ≤ (bytesOf (renderMembers spacing level members)).length := by
  induction members with
  | nil => exact Nat.zero_le _
  | cons m members ih =>
    rw [bytesOf_renderMembers_cons]
    simp only [List.length_cons, List.length_append]
    omega

/-- The members after the first are read up to the closing brace. -/
theorem readMembers_renderMembers {spacing : Spacing} (hSpacing : spacing.Plain) {depth : Nat}
    {members : List (String × Json)} (hMembers : ∀ m ∈ members, ReadsBack spacing depth m.2)
    (level : Nat) {blanks : List UInt8} (hBlank : Blank blanks) (rest : List UInt8) {rounds : Nat}
    (hRounds : members.length < rounds) :
    readMembers (readValue depth) rounds false
        (bytesOf (renderMembers spacing level members) ++ (blanks ++ byte '\x7d' :: rest)) =
      .ok (normalMembers members, rest) := by
  induction members generalizing rounds with
  | nil =>
    obtain ⟨rounds, rfl⟩ := Nat.exists_eq_add_of_lt hRounds
    rw [bytesOf_renderMembers_nil, List.nil_append]
    exact readMembers_close hBlank _ _ _ rest
  | cons m members ih =>
    obtain ⟨rounds, rfl⟩ := Nat.exists_eq_add_of_lt hRounds
    have hClose : Delimited (blanks ++ byte '\x7d' :: rest) :=
      delimited_blank_append hBlank (delimited_cons _ (by decide))
    have hValue := hMembers m List.mem_cons_self level _
      (delimited_renderMembers spacing level members hClose)
    rw [bytesOf_renderMembers_cons]
    simp only [List.append_assoc, List.cons_append]
    rw [readMembers_next hSpacing (hSpacing.lineBreak level) hValue,
      ih fun other hMem => hMembers other (List.mem_cons_of_mem _ hMem)]
    · rfl
    · rw [List.length_cons]
      omega

theorem bytesOf_render_object_cons (spacing : Spacing) (level : Nat) (name : String) (value : Json)
    (members : List (String × Json)) :
    bytesOf (render spacing level (.object ((name, value) :: members))) =
      byte '\x7b' :: (bytesOf (spacing.lineBreak (level + 1)) ++ (bytesOf (quote name) ++
        (bytesOf spacing.colon ++ (bytesOf (render spacing (level + 1) value) ++
          (bytesOf (renderMembers spacing (level + 1) members) ++
            (bytesOf (spacing.lineBreak level) ++ [byte '\x7d'])))))) := by
  have hOpen : bytesOf "\x7b" = [byte '\x7b'] := bytesOf_eq_encode _
  have hClose : bytesOf "\x7d" = [byte '\x7d'] := bytesOf_eq_encode _
  rw [render]
  simp only [bytesOf_append, List.append_assoc, hOpen, hClose, List.cons_append, List.nil_append]

theorem readValue_object (depth : Nat) (rest : List UInt8) :
    readValue (depth + 1) (byte '\x7b' :: rest) =
      (readMembers (readValue depth) (rest.length + 1) true rest).map fun r =>
        (ofMembers r.1, r.2) := by
  rw [readValue]
  rfl

/-- An object is read back when the values of its members are. -/
theorem readsBack_object {spacing : Spacing} (hSpacing : spacing.Plain) {depth : Nat}
    {members : List (String × Json)} (hMembers : ∀ m ∈ members, ReadsBack spacing depth m.2) :
    ReadsBack spacing (depth + 1) (.object members) := by
  intro level rest hRest
  cases members with
  | nil =>
    have hEmpty : bytesOf (render spacing level (.object [])) = [byte '\x7b', byte '\x7d'] := by
      rw [render]
      exact bytesOf_eq_encode _
    rw [hEmpty, List.cons_append, readValue_object]
    rfl
  | cons m members =>
    have hBlank := hSpacing.lineBreak level
    have hClose : Delimited (bytesOf (spacing.lineBreak level) ++ byte '\x7d' :: rest) :=
      delimited_blank_append hBlank (delimited_cons _ (by decide))
    have hValue := hMembers m List.mem_cons_self (level + 1) _
      (delimited_renderMembers spacing (level + 1) members hClose)
    have hLength := length_le_renderMembers spacing (level + 1) members
    rw [bytesOf_render_object_cons, List.cons_append, readValue_object]
    simp only [List.append_assoc, List.cons_append, List.nil_append]
    rw [readMembers_first hSpacing (hSpacing.lineBreak (level + 1)) hValue,
      readMembers_renderMembers hSpacing
        (fun other hMem => hMembers other (List.mem_cons_of_mem _ hMem)) _ hBlank]
    · rfl
    · simp only [List.length_append, List.length_cons]
      omega

/-! ## Whole values -/

theorem readsBack_string (spacing : Spacing) (depth : Nat) (s : String) :
    ReadsBack spacing depth (.string s) := by
  intro level rest _
  rw [render, bytesOf_quote]
  simp only [List.append_assoc, List.cons_append, List.nil_append]
  rw [readValue.eq_def, skipBlank_cons (by decide)]
  exact congrArg (Except.map _) (readString_quote s rest)

/-- Every readable value is read back. -/
theorem readsBack_of_readable {spacing : Spacing} (hSpacing : spacing.Plain) {depth : Nat}
    {json : Json} (hReadable : Readable depth json) : ReadsBack spacing depth json := by
  -- the depth falls where the reader enters an array or object, as it does in `Readable`
  induction hReadable with
  | null =>
    intro level rest _
    have hText : bytesOf "null" = "null".toList.map byte := bytesOf_eq_encode _
    rw [render, hText, readValue.eq_def]
    rfl
  | bool value =>
    intro level rest _
    have hTrue : bytesOf "true" = "true".toList.map byte := bytesOf_eq_encode _
    have hFalse : bytesOf "false" = "false".toList.map byte := bytesOf_eq_encode _
    cases value with
    | true =>
      rw [render, hTrue, readValue.eq_def]
      rfl
    | false =>
      rw [render, hFalse, readValue.eq_def]
      rfl
  | integer hWord =>
    intro level rest hRest
    rw [render, readValue_integer hWord _ hRest]
    rfl
  | string s => exact readsBack_string spacing _ s
  | array _ ih => exact readsBack_array hSpacing ih
  | object _ ih => exact readsBack_object hSpacing ih

/-! ## Documents -/

/-- A printed document is read as its normal form. -/
theorem parse_render {spacing : Spacing} (hSpacing : spacing.Plain) {json : Json}
    (hReadable : Readable depthLimit json) (level : Nat) :
    parse (render spacing level json) = .ok (normal json) := by
  have hRead := readsBack_of_readable hSpacing hReadable level [] delimited_nil
  rw [List.append_nil] at hRead
  rw [parse, parseBytes, readDocument, hRead]
  rfl

theorem plain_compact : Spacing.compact.Plain where
  lineBreak depth := by
    have hNone : bytesOf (Spacing.compact.lineBreak depth) = [] := bytesOf_eq_encode _
    rw [hNone]
    exact blank_nil
  colon := ⟨[], blank_nil, bytesOf_eq_encode _⟩

theorem plain_indented : Spacing.indented.Plain where
  lineBreak depth := by
    have hText : bytesOf (Spacing.indented.lineBreak depth) =
        encode ('\n' :: List.replicate (2 * depth) ' ') := by
      rw [Spacing.indented, bytesOf_append, bytesOf_ofList, bytesOf_ofList]
      rfl
    rw [hText]
    intro b hMem
    obtain ⟨c, hChar, hByte⟩ := List.mem_flatMap.mp hMem
    rcases List.mem_cons.mp hChar with rfl | hSpace
    · obtain rfl := List.mem_singleton.mp hByte
      rfl
    · obtain rfl := (List.mem_replicate.mp hSpace).2
      obtain rfl := List.mem_singleton.mp hByte
      rfl
  colon := ⟨[byte ' '], blank_cons rfl blank_nil, bytesOf_eq_encode _⟩

/-- The compact text of a value is read as its normal form. -/
theorem parse_compact {json : Json} (hReadable : Readable depthLimit json) :
    parse json.compact = .ok (normal json) :=
  parse_render plain_compact hReadable 0

/-- The indented text of a value is read as its normal form. -/
theorem parse_pretty {json : Json} (hReadable : Readable depthLimit json) :
    parse json.pretty = .ok (normal json) :=
  parse_render plain_indented hReadable 0

end ClusterBootstrap.Json
