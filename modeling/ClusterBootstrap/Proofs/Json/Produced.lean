import ClusterBootstrap.Proofs.Json.RoundTrip

/-!
# Values that come from documents

The reader does not produce every value: its objects list their members by ascending names, and nothing
is nested deeper than it reads.  So what was read is its own normal form, and unless it has
floating-point numbers it is read again from its own text.
-/

namespace ClusterBootstrap.Json

/-! ## Values that are produced -/

/-- Values that the reader produces inside `depth` further arrays and objects. -/
inductive Produced : Nat → Json → Prop where
  | null {depth : Nat} : Produced depth .null
  | bool {depth : Nat} (value : Bool) : Produced depth (.bool value)
  | integer {depth : Nat} (value : Int) : Produced depth (.integer value)
  | decimal {depth : Nat} (value : Float) : Produced depth (.decimal value)
  | string {depth : Nat} (s : String) : Produced depth (.string s)
  | array {depth : Nat} {items : List Json} (hItems : ∀ item ∈ items, Produced depth item) :
    Produced (depth + 1) (.array items)
  | object {depth : Nat} {members : List (String × Json)} (hAscending : Ascending members)
    (hMembers : ∀ m ∈ members, Produced depth m.2) : Produced (depth + 1) (.object members)

/-- Values all of whose numbers are integers of machine words. -/
inductive Integral : Json → Prop where
  | null : Integral .null
  | bool (value : Bool) : Integral (.bool value)
  | integer {n : Int} (hWord : Decimal.isWord n ∨ Decimal.isSignedWord n) : Integral (.integer n)
  | string (s : String) : Integral (.string s)
  | array {items : List Json} (hItems : ∀ item ∈ items, Integral item) : Integral (.array items)
  | object {members : List (String × Json)} (hMembers : ∀ m ∈ members, Integral m.2) :
    Integral (.object members)

/-- If anything is read, it is a value with this property. -/
def Yields (P : Json → Prop) (read : Except Stop (Taken Json)) : Prop :=
  ∀ json rest, read = .ok (json, rest) → P json

variable {P : Json → Prop} {depth : Nat}

theorem yields_ok {json : Json} (h : P json) (rest : List UInt8) : Yields P (.ok (json, rest)) := by
  rintro _ _ ⟨⟩
  exact h

theorem yields_error (stop : Stop) : Yields P (.error stop) :=
  nofun

theorem yields_ite {c : Prop} [Decidable c] {read other : Except Stop (Taken Json)}
    (hRead : Yields P read) (hOther : Yields P other) : Yields P (if c then read else other) := by
  split
  · exact hRead
  · exact hOther

/-! ## Literals and numbers -/

theorem yields_readLiteral {value : Json} (h : P value) (letters : List Char)
    (input : List UInt8) : Yields P (readLiteral value letters input) := by
  induction letters generalizing input with
  | nil => exact yields_ok h input
  | cons c letters ih =>
    cases input with
    | nil => exact yields_error _
    | cons b rest => exact yields_ite (ih rest) (yields_error _)

theorem yields_finishDecimal (negative : Bool) (significand : Nat) (exponent : Int)
    (input : List UInt8) :
    Yields (Produced depth) (finishDecimal negative significand exponent input) := by
  unfold finishDecimal
  split
  · exact yields_ok (.decimal _) _
  · exact yields_error _

theorem yields_readExponent (negative : Bool) (significand : Nat) (exponent : Int)
    (input : List UInt8) :
    Yields (Produced depth) (readExponent negative significand exponent input) := by
  unfold readExponent
  dsimp only
  split
  · exact yields_error _
  · refine yields_ite ?_ (yields_error _)
    split
    · exact yields_finishDecimal _ _ _ _
    · exact yields_ite (yields_error _) (yields_ok (.decimal _) _)

theorem yields_readAfterFraction (negative : Bool) (significand : Nat) (exponent : Int)
    (input : List UInt8) :
    Yields (Produced depth) (readAfterFraction negative significand exponent input) := by
  cases input with
  | nil => exact yields_finishDecimal _ _ _ _
  | cons b rest => exact yields_ite (yields_readExponent _ _ _ _) (yields_finishDecimal _ _ _ _)

theorem yields_readFraction (negative : Bool) (significand : Nat) (exponent : Int)
    (input : List UInt8) :
    Yields (Produced depth) (readFraction negative significand exponent input) :=
  yields_ite (yields_ite (yields_error _) (yields_error _)) (yields_readAfterFraction _ _ _ _)

theorem produced_wholeNumber (negative : Bool) (significand : Nat) :
    Produced depth (wholeNumber negative significand) := by
  unfold wholeNumber
  split
  · exact .integer _
  · split
    · exact .integer _
    · exact .decimal _

theorem yields_readNumber (negative : Bool) (input : List UInt8) :
    Yields (Produced depth) (readNumber negative input) := by
  have hWhole (significand dropped : Nat) (rest : List UInt8) :
      Yields (Produced depth)
        (if dropped = 0 then .ok (wholeNumber negative significand, rest)
          else finishDecimal negative significand dropped rest) :=
    yields_ite (yields_ok (produced_wholeNumber ..) rest) (yields_finishDecimal _ _ _ _)
  cases input with
  | nil => exact yields_error _
  | cons b rest =>
    refine yields_ite (yields_error _) ?_
    -- what comes behind the digits decides how the number goes on
    generalize (if b = byte '0' then rest else (b :: rest).dropWhile isDigitByte) = after
    cases after with
    | nil => exact hWhole _ _ _
    | cons c after =>
      refine yields_ite (yields_error _) (yields_ite (yields_readFraction _ _ _ _) ?_)
      exact yields_ite (yields_readExponent _ _ _ _) (hWhole _ _ _)

/-! ## Arrays and objects -/

variable {read : List UInt8 → Except Stop (Taken Json)}

theorem forall_of_readItems (hItem : ∀ input, Yields P (read input)) {rounds : Nat} {first : Bool}
    {input rest : List UInt8} {items : List Json}
    (hRead : readItems read rounds first input = .ok (items, rest)) : ∀ item ∈ items, P item := by
  induction rounds generalizing first input items with
  | zero => contradiction
  | succ rounds ih =>
    rw [readItems] at hRead
    split at hRead
    · contradiction
    · split at hRead
      · cases hRead
        intro _ hMem
        exact absurd hMem List.not_mem_nil
      · -- one item, and then the items after it
        obtain ⟨start, -, hRead⟩ := bind_eq_ok_iff.mp hRead
        obtain ⟨⟨item, afterItem⟩, hFirst, hRead⟩ := bind_eq_ok_iff.mp hRead
        obtain ⟨⟨items, afterItems⟩, hRest, hRead⟩ := bind_eq_ok_iff.mp hRead
        cases hRead
        exact List.forall_mem_cons.mpr ⟨hItem start item afterItem hFirst, ih hRest⟩

theorem forall_of_readMembers (hValue : ∀ input, Yields P (read input)) {rounds : Nat}
    {first : Bool} {input rest : List UInt8} {members : List (String × Json)}
    (hRead : readMembers read rounds first input = .ok (members, rest)) :
    ∀ m ∈ members, P m.2 := by
  induction rounds generalizing first input members with
  | zero => contradiction
  | succ rounds ih =>
    rw [readMembers] at hRead
    split at hRead
    · contradiction
    · split at hRead
      · cases hRead
        intro _ hMem
        exact absurd hMem List.not_mem_nil
      · -- one name with its value, and then the members after it
        obtain ⟨start, -, hRead⟩ := bind_eq_ok_iff.mp hRead
        obtain ⟨⟨name, afterName⟩, -, hRead⟩ := bind_eq_ok_iff.mp hRead
        obtain ⟨afterColon, -, hRead⟩ := bind_eq_ok_iff.mp hRead
        obtain ⟨⟨value, afterValue⟩, hFirst, hRead⟩ := bind_eq_ok_iff.mp hRead
        obtain ⟨⟨members, afterMembers⟩, hRest, hRead⟩ := bind_eq_ok_iff.mp hRead
        cases hRead
        exact List.forall_mem_cons.mpr ⟨hValue afterColon value afterValue hFirst, ih hRest⟩

/-- Every member of an object that is built is one of those it is built from. -/
theorem mem_of_mem_foldl_insertMember {members sorted : List (String × Json)}
    {m : String × Json}
    (hMem : m ∈ members.foldl (fun sorted m => insertMember m.1 m.2 sorted) sorted) :
    m ∈ members ∨ m ∈ sorted := by
  induction members generalizing sorted with
  | nil => exact .inr hMem
  | cons head rest ih =>
    rcases ih hMem with hRest | hSorted
    · exact .inl (List.mem_cons_of_mem _ hRest)
    · rcases mem_insertMember hSorted with rfl | hBefore
      · exact .inl List.mem_cons_self
      · exact .inr hBefore

theorem produced_ofMembers {members : List (String × Json)}
    (hMembers : ∀ m ∈ members, Produced depth m.2) :
    Produced (depth + 1) (ofMembers members) := by
  refine .object (ascending_foldl_insertMember members .nil) fun m hMem => ?_
  rcases mem_of_mem_foldl_insertMember hMem with hGiven | hNone
  · exact hMembers m hGiven
  · contradiction

/-! ## Whole values -/

/-- Whatever is read is produced. -/
theorem yields_readValue (depth : Nat) (input : List UInt8) :
    Yields (Produced depth) (readValue depth input) := by
  -- on the depth, which falls where an array or object is entered
  induction depth using Nat.strongRecOn generalizing input with
  | ind depth ih =>
    rw [readValue.eq_def]
    split
    · exact yields_error _
    next b rest _ =>
      have hString : Yields (Produced depth)
          ((readString rest).map fun r => (.string r.1, r.2)) := by
        intro json after hRead
        obtain ⟨⟨s, afterString⟩, -, hEq⟩ := map_eq_ok_iff.mp hRead
        cases hEq
        exact .string s
      refine yields_ite (yields_readLiteral .null _ _) (yields_ite (yields_readLiteral (.bool _) _ _)
        (yields_ite (yields_readLiteral (.bool _) _ _) (yields_ite (yields_readNumber _ _)
          (yields_ite (yields_readNumber _ _) (yields_ite hString
            (yields_ite ?array (yields_ite ?object (yields_error _))))))))
      case array =>
        cases depth with
        | zero => exact yields_error _
        | succ depth =>
          intro json after hRead
          obtain ⟨⟨items, afterItems⟩, hItems, hEq⟩ := map_eq_ok_iff.mp hRead
          cases hEq
          exact .array (forall_of_readItems (ih depth (Nat.lt_succ_self depth)) hItems)
      case object =>
        cases depth with
        | zero => exact yields_error _
        | succ depth =>
          intro json after hRead
          obtain ⟨⟨members, afterMembers⟩, hMembers, hEq⟩ := map_eq_ok_iff.mp hRead
          cases hEq
          exact produced_ofMembers
            (forall_of_readMembers (ih depth (Nat.lt_succ_self depth)) hMembers)

/-! ## Normal forms -/

theorem insertMember_of_forall_lt {name : String} {value : Json} {sorted : List (String × Json)}
    (hBefore : ∀ m ∈ sorted, m.1 < name) :
    insertMember name value sorted = sorted ++ [(name, value)] := by
  induction sorted with
  | nil => rfl
  | cons head rest ih =>
    have hLt : head.1 < name := hBefore head List.mem_cons_self
    have hNotLt : ¬ name < head.1 := String.lt_asymm hLt
    have hNe : ¬ name = head.1 := fun hEq => String.lt_irrefl _ (hEq ▸ hLt)
    rw [insertMember, if_neg hNotLt, if_neg hNe, List.cons_append,
      ih fun m hMem => hBefore m (List.mem_cons_of_mem _ hMem)]

/-- Members that ascend are kept as they are. -/
theorem foldl_insertMember_of_ascending {members sorted : List (String × Json)}
    (hAscending : Ascending (sorted ++ members)) :
    members.foldl (fun sorted m => insertMember m.1 m.2 sorted) sorted = sorted ++ members := by
  induction members generalizing sorted with
  | nil => rw [List.foldl_nil, List.append_nil]
  | cons m rest ih =>
    have hBefore : ∀ other ∈ sorted, other.1 < m.1 := fun other hMem =>
      (List.pairwise_append.mp hAscending).2.2 other hMem m List.mem_cons_self
    rw [List.append_cons] at hAscending
    rw [List.foldl_cons, insertMember_of_forall_lt hBefore, ih hAscending, ← List.append_cons]

theorem normalItems_eq_self {items : List Json} (hItems : ∀ item ∈ items, normal item = item) :
    normalItems items = items := by
  induction items with
  | nil => rfl
  | cons item rest ih =>
    obtain ⟨hFirst, hRest⟩ := List.forall_mem_cons.mp hItems
    rw [normalItems, hFirst, ih hRest]

theorem normalMembers_eq_self {members : List (String × Json)}
    (hMembers : ∀ m ∈ members, normal m.2 = m.2) : normalMembers members = members := by
  induction members with
  | nil => rfl
  | cons m rest ih =>
    obtain ⟨hFirst, hRest⟩ := List.forall_mem_cons.mp hMembers
    rw [normalMembers, hFirst, ih hRest]

/-- What the reader produces is its own normal form. -/
theorem Produced.normal_eq {json : Json} (hProduced : Produced depth json) :
    normal json = json := by
  induction hProduced with
  | null | bool | integer | decimal | string => rfl
  | array _ ih => rw [normal, normalItems_eq_self ih]
  | object hAscending _ ih =>
    have hSame := @foldl_insertMember_of_ascending _ [] hAscending
    rw [normal, normalMembers_eq_self ih, ofMembers, hSame, List.nil_append]

/-- Without floating-point numbers it can be read again. -/
theorem Produced.readable {json : Json} (hProduced : Produced depth json)
    (hIntegral : Integral json) : Readable depth json := by
  induction hProduced with
  | null => exact .null
  | bool value => exact .bool value
  | integer value =>
    cases hIntegral with
    | integer hWord => exact .integer hWord
  | decimal value => cases hIntegral
  | string s => exact .string s
  | array _ ih =>
    cases hIntegral with
    | array hItems => exact .array fun item hMem => ih item hMem (hItems item hMem)
  | object _ _ ih =>
    cases hIntegral with
    | object hMembers => exact .object fun m hMem => ih m hMem (hMembers m hMem)

/-- A value that was read from a document, unless it has floating-point numbers, is read again from its
indented text. -/
theorem parse_pretty_of_parseBytes {document : List UInt8} {json : Json}
    (hRead : parseBytes document = .ok json) (hIntegral : Integral json) :
    parse json.pretty = .ok json := by
  obtain ⟨⟨value, rest⟩, hValue, hEnd⟩ := bind_eq_ok_iff.mp (mapError_eq_ok_iff.mp hRead)
  have hProduced : Produced depthLimit value := yields_readValue _ _ value rest hValue
  -- only white space stands behind the value
  dsimp only at hEnd
  split at hEnd
  · cases hEnd
    rw [parse_pretty (hProduced.readable hIntegral), hProduced.normal_eq]
  · contradiction

end ClusterBootstrap.Json
