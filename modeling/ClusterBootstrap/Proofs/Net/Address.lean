import ClusterBootstrap.Net.Url
import ClusterBootstrap.Proofs.Net.Host
import ClusterBootstrap.Proofs.Text.Commas
import Mathlib.Data.List.TakeWhile

/-!
# Addresses in normal form

Reading an address leaves it in a normal form, and what is in normal form is left as it is: percent-encoding
finds nothing more to encode, and a path has no dot segments left to resolve.  So the target of a request is
read as the address that it was written from.
-/

namespace ClusterBootstrap.Net.Url

/-! ## Percent-encoding -/

/-- Characters that percent-encoding leaves alone. -/
def Kept (set : List Char) (c : Char) : Prop := 0x20 ≤ c.toNat ∧ c.toNat ≤ 0x7e ∧ c ∉ set

instance (set : List Char) : DecidablePred (Kept set) := fun _ =>
  inferInstanceAs (Decidable (_ ∧ _ ∧ _))

theorem visible_of_kept {set : List Char} (hBlank : ' ' ∈ set) (hSign : '#' ∈ set) {c : Char}
    (hKept : Kept set c) : 0x20 < c.toNat ∧ c ≠ '#' := by
  obtain ⟨hLow, -, hOther⟩ := hKept
  constructor
  · refine Nat.lt_of_le_of_ne hLow fun hEq => hOther ?_
    rwa [show c = ' ' from Char.toNat_inj.mp hEq.symm]
  · rintro rfl
    exact hOther hSign

/-- What bytes are encoded in. -/
def encodingChars : List Char := "%0123456789ABCDEF".toList

theorem percentByte_chars (b : UInt8) : ∀ c ∈ percentByte b, c ∈ encodingChars := by
  have hDigit : ∀ d < 16, (Nat.digitChar d).toUpper ∈ encodingChars := by decide
  have hByte : b.toNat / 16 < 16 := Nat.div_lt_of_lt_mul b.toNat_lt
  intro c hMem
  simp only [percentByte, List.mem_cons, List.not_mem_nil, or_false] at hMem
  rcases hMem with rfl | rfl | rfl
  · decide
  · exact hDigit _ hByte
  · exact hDigit _ (Nat.mod_lt _ (by decide))

theorem mem_percentEncode {set text : List Char} {c : Char} (hMem : c ∈ percentEncode set text) :
    c ∈ encodingChars ∨ c ∈ text ∧ Kept set c := by
  obtain ⟨d, hText, hEncoded⟩ := List.mem_flatMap.mp hMem
  split at hEncoded
  · rename_i hKept
    obtain rfl := List.mem_singleton.mp hEncoded
    exact .inr ⟨hText, hKept⟩
  · obtain ⟨b, -, hByte⟩ := List.mem_flatMap.mp hEncoded
    exact .inl (percentByte_chars b c hByte)

theorem percentEncode_eq_self {set text : List Char} (hText : ∀ c ∈ text, Kept set c) :
    percentEncode set text = text := by
  induction text with
  | nil => rfl
  | cons c text ih =>
    obtain ⟨hFirst, hRest⟩ := List.forall_mem_cons.mp hText
    have hTail := ih hRest
    unfold percentEncode at hTail ⊢
    rw [List.flatMap_cons, hTail]
    exact congrArg (· ++ text) (if_pos hFirst)

/-- What is encoded is never encoded again, unless what it is encoded in is. -/
theorem kept_percentEncode {set : List Char} (hSet : ∀ c ∈ encodingChars, Kept set c)
    (text : List Char) : ∀ c ∈ percentEncode set text, Kept set c := by
  intro c hMem
  rcases mem_percentEncode hMem with hEncoding | ⟨-, hKept⟩
  · exact hSet c hEncoding
  · exact hKept

/-! ## Paths -/

/-- A segment with nothing left to encode and no slash. -/
structure Clean (segment : String) : Prop where
  kept : ∀ c ∈ segment.toList, Kept pathSet c
  noSlash : ∀ c ∈ segment.toList, isSlash c = false

/-- A segment of a normal path.  It stands for nothing but itself. -/
structure Segment (segment : String) : Prop extends Clean segment where
  noDot : isDot segment = false
  noDoubleDot : isDoubleDot segment = false

theorem segment_empty : Segment "" where
  kept := nofun
  noSlash := nofun
  noDot := by decide +kernel
  noDoubleDot := by decide +kernel

theorem above_subset (done : List String) : above done ⊆ done := by
  fun_cases above done with
  | case1 => exact List.Subset.refl _
  | case2 first rest hDrive => exact List.Subset.refl _
  | case3 first rest hNoDrive => exact List.subset_cons_self _ _

/-- Only segments that stand for themselves are left. -/
theorem segment_of_mem_resolve {done segments : List String} (hDone : ∀ s ∈ done, Segment s)
    (hSegments : ∀ s ∈ segments, Clean s) : ∀ s ∈ resolve done segments, Segment s := by
  have hAbove : ∀ {done : List String}, (∀ s ∈ done, Segment s) → ∀ s ∈ above done, Segment s :=
    fun hDone s hMem => hDone s (above_subset _ hMem)
  have hReverse : ∀ {segments : List String}, (∀ s ∈ segments, Segment s) →
      ∀ s ∈ segments.reverse, Segment s := fun hAll s hMem => hAll s (List.mem_reverse.mp hMem)
  fun_induction resolve done segments with
  | case1 done => exact hReverse hDone
  | case2 done last hDouble =>
    exact hReverse (List.forall_mem_cons.mpr ⟨segment_empty, hAbove hDone⟩)
  | case3 done last hNoDouble hDot =>
    exact hReverse (List.forall_mem_cons.mpr ⟨segment_empty, hDone⟩)
  | case4 done last hNoDouble hNoDot =>
    have hLast : Segment last :=
      ⟨hSegments last List.mem_cons_self, by simpa using hNoDot, by simpa using hNoDouble⟩
    exact hReverse (List.forall_mem_cons.mpr ⟨hLast, hDone⟩)
  | case5 done segment rest _ hDouble ih =>
    exact ih (hAbove hDone) (List.forall_mem_cons.mp hSegments).2
  | case6 done segment rest _ hNoDouble hDot ih =>
    exact ih hDone (List.forall_mem_cons.mp hSegments).2
  | case7 done segment rest _ hNoDouble hNoDot ih =>
    obtain ⟨hClean, hRest⟩ := List.forall_mem_cons.mp hSegments
    have hSegment : Segment segment := ⟨hClean, by simpa using hNoDot, by simpa using hNoDouble⟩
    exact ih (List.forall_mem_cons.mpr ⟨hSegment, hDone⟩) hRest

theorem resolve_ne_nil {done segments : List String} (hSome : segments ≠ []) :
    resolve done segments ≠ [] := by
  fun_induction resolve done segments with
  | case1 => exact absurd rfl hSome
  | case2 | case3 | case4 => simp
  | case5 _ _ _ hRest _ ih => exact ih hRest
  | case6 _ _ _ hRest _ _ ih => exact ih hRest
  | case7 _ _ _ hRest _ _ ih => exact ih hRest

/-- Segments that stand for themselves are left as they are. -/
theorem resolve_eq_self {done segments : List String} (hSegments : ∀ s ∈ segments, Segment s) :
    resolve done segments = done.reverse ++ segments := by
  -- a segment that stands for itself is no dot segment, so the other cases do not come up
  fun_induction resolve done segments with
  | case1 => simp
  | case2 done last hDouble => simp [(hSegments last List.mem_cons_self).noDoubleDot] at hDouble
  | case3 done last _ hDot => simp [(hSegments last List.mem_cons_self).noDot] at hDot
  | case4 => simp
  | case5 done segment rest _ hDouble =>
    simp [(hSegments segment List.mem_cons_self).noDoubleDot] at hDouble
  | case6 done segment rest _ _ hDot =>
    simp [(hSegments segment List.mem_cons_self).noDot] at hDot
  | case7 done segment rest _ _ _ ih =>
    rw [ih (List.forall_mem_cons.mp hSegments).2]
    simp

/-- A path that has nothing left to encode or to resolve: segments that stand for themselves, each behind
a slash. -/
inductive NormalPath : String → Prop where
  | slashed {segments : List String} (hSome : segments ≠ [])
      (hSegments : ∀ s ∈ segments, Segment s) : NormalPath ("/" ++ "/".intercalate segments)

/-- Whatever a path was, its normal form is normal. -/
theorem normalPath_normalizePath (path : List Char) : NormalPath (normalizePath path) := by
  unfold normalizePath
  dsimp only
  generalize (if path.head?.any isSlash = true then path.tail else path) = path
  apply NormalPath.slashed
  · exact resolve_ne_nil (by simpa using Text.parts_ne_nil '/' _)
  · apply segment_of_mem_resolve (List.forall_mem_nil _)
    intro segment hSegment
    obtain ⟨part, hPart, rfl⟩ := List.mem_map.mp hSegment
    have hEncoding : ∀ c ∈ encodingChars, Kept pathSet c := List.all_iff_forall_prop.mp rfl
    have hNoSlash : ∀ c ∈ encodingChars, isSlash c = false := List.all_iff_forall_prop.mp rfl
    constructor
    · rw [String.toList_ofList]
      exact kept_percentEncode hEncoding part
    · rw [String.toList_ofList]
      intro c hMem
      rcases mem_percentEncode hMem with hEncoded | ⟨hText, -⟩
      · exact hNoSlash c hEncoded
      · -- a slash of either kind was a separator, and so is in no part
        obtain ⟨hSlashed, hNe⟩ := Text.mem_of_mem_parts hPart hText
        obtain ⟨d, -, rfl⟩ := List.mem_map.mp hSlashed
        by_cases hSlash : isSlash d = true
        · simp [hSlash] at hNe
        · simp [hSlash]

theorem toList_slashed (segments : List String) :
    ("/" ++ "/".intercalate segments).toList =
      '/' :: ['/'].intercalate (segments.map String.toList) := by
  rw [String.toList_append, String.toList_intercalate]
  rfl

namespace NormalPath

variable {path : String}

/-- A normal path has no characters that are encoded in one. -/
theorem kept (h : NormalPath path) : ∀ c ∈ path.toList, Kept pathSet c := by
  have hSlash : Kept pathSet '/' := by decide
  cases h with
  | slashed hSome hSegments =>
    rw [toList_slashed]
    refine List.forall_mem_cons.mpr ⟨hSlash, Text.forall_intercalate ?_ ?_⟩
    · exact List.forall_mem_singleton.mpr hSlash
    · rw [List.forall_mem_map]
      exact fun segment hMem => (hSegments segment hMem).kept

theorem exists_tail (h : NormalPath path) : ∃ rest, path.toList = '/' :: rest := by
  cases h with
  | slashed => exact ⟨_, toList_slashed _⟩

/-- A normal path is left as it is. -/
theorem normalizePath_eq (h : NormalPath path) : normalizePath path.toList = path := by
  cases h with
  | @slashed segments hSome hSegments =>
    have hNoSlash : ∀ text ∈ segments.map String.toList, '/' ∉ text := by
      rw [List.forall_mem_map]
      intro segment hMem hSlash
      exact absurd ((hSegments segment hMem).noSlash '/' hSlash) (by decide)
    have hSlashed : ∀ c ∈ ['/'].intercalate (segments.map String.toList),
        (if isSlash c = true then '/' else c) = c := by
      apply Text.forall_intercalate
      · exact List.forall_mem_singleton.mpr rfl
      · rw [List.forall_mem_map]
        intro segment hMem c hChar
        simp [(hSegments segment hMem).noSlash c hChar]
    have hEncoded : (segments.map String.toList).map
        (fun s => String.ofList (percentEncode pathSet s)) = segments := by
      have hSelf : ∀ segment ∈ segments,
          ((fun s => String.ofList (percentEncode pathSet s)) ∘ String.toList) segment =
            segment := by
        intro segment hMem
        rw [Function.comp_apply, percentEncode_eq_self (hSegments segment hMem).kept,
          String.ofList_toList]
      rw [List.map_map, List.map_congr_left hSelf, List.map_id']
    have hParts := Text.parts_intercalate (by simpa using hSome) hNoSlash
    rw [toList_slashed]
    -- the first slash belongs to no segment
    show "/" ++ "/".intercalate (resolve [] ((Text.parts '/'
      ((['/'].intercalate (segments.map String.toList)).map _)).map _)) = _
    rw [List.map_congr_left hSlashed, List.map_id', hParts, hEncoded, resolve_eq_self hSegments]
    rfl

end NormalPath

/-- Normalizing a path a second time changes nothing. -/
theorem normalizePath_idem (path : List Char) :
    normalizePath (normalizePath path).toList = normalizePath path :=
  (normalPath_normalizePath path).normalizePath_eq

/-! ## Authorities -/

/-- A character of an authority without credentials: it is visible, and ends nothing. -/
def Inside (c : Char) : Prop := 0x20 < c.toNat ∧ c ∉ ['/', '\\', '?', '#', '@']

instance : DecidablePred Inside := fun _ => inferInstanceAs (Decidable (_ ∧ _))

theorem Inside.not_ends {c : Char} (h : Inside c) : (isSlash c || c = '?' || c = '#') = false := by
  have hOther := h.2
  simp only [List.mem_cons, List.not_mem_nil, or_false, not_or] at hOther
  simp [isSlash, hOther]

theorem inside_of_bounded {host : List Char} (hHost : Host.Bounded host) : ∀ c ∈ host, Inside c := by
  have hDelimiter : ∀ d ∈ ['/', '\\', '?', '#', '@'], Idna.isForbidden d = true :=
    List.all_iff_forall_prop.mp rfl
  cases hHost with
  | name _ hChars =>
    intro c hMem
    have hAllowed := hChars c hMem
    refine ⟨?_, fun hDelimits => ?_⟩
    · simp only [Idna.isForbidden, Bool.or_eq_false_iff, decide_eq_false_iff_not] at hAllowed
      exact Nat.lt_of_not_le hAllowed.1.1
    · cases hAllowed.symm.trans (hDelimiter c hDelimits)
  | address hGroups =>
    have hInside : ∀ c ∈ Host.groupChars, Inside c := List.all_iff_forall_prop.mp rfl
    have hBrackets : Inside '[' ∧ Inside ']' := by decide
    refine List.forall_mem_cons.mpr ⟨hBrackets.1, List.forall_mem_append.mpr ⟨?_, ?_⟩⟩
    · exact fun c hMem => hInside c (hGroups c hMem)
    · exact List.forall_mem_singleton.mpr hBrackets.2

/-- Characters that stay on their side of the brackets, with no colon outside them, all belong to the host. -/
theorem splitPort_append {inBrackets : Bool} {chars : List Char}
    (hChars : ∀ c ∈ chars, (c = ':' → inBrackets = true) ∧
      ((inBrackets || c = '[') && c ≠ ']') = inBrackets) (rest : List Char) :
    splitPort inBrackets (chars ++ rest) =
      (chars ++ (splitPort inBrackets rest).1, (splitPort inBrackets rest).2) := by
  induction chars with
  | nil => rfl
  | cons c chars ih =>
    obtain ⟨⟨hColon, hSide⟩, hOthers⟩ := List.forall_mem_cons.mp hChars
    have hGoesOn : ¬ (c = ':' ∧ ¬ inBrackets = true) := fun hEnd => hEnd.2 (hColon hEnd.1)
    rw [List.cons_append, splitPort, if_neg hGoesOn, hSide, ih hOthers]
    rfl

/-- No colon of a host is taken for the one before the port. -/
theorem splitPort_bounded {host : List Char} (hHost : Host.Bounded host) (rest : List Char) :
    splitPort false (host ++ rest) =
      (host ++ (splitPort false rest).1, (splitPort false rest).2) := by
  cases hHost with
  | name _ hChars =>
    have hDelimiter : ∀ d ∈ [':', '['], Idna.isForbidden d = true :=
      List.all_iff_forall_prop.mp rfl
    apply splitPort_append
    intro c hMem
    have hOther : c ∉ [':', '['] := fun hDelimits => by
      cases (hChars c hMem).symm.trans (hDelimiter c hDelimits)
    simp only [List.mem_cons, List.not_mem_nil, or_false, not_or] at hOther
    simp [hOther]
  | @address groups hGroups =>
    have hInside : ∀ c ∈ Host.groupChars, ((true || c = '[') && c ≠ ']') = true :=
      List.all_iff_forall_prop.mp rfl
    have hGroupsSplit := splitPort_append
      (fun c hMem => ⟨fun _ => rfl, hInside c (hGroups c hMem)⟩) (']' :: rest)
    -- the brackets are the only place where the side changes
    rw [List.cons_append, List.append_assoc, List.singleton_append, splitPort, if_neg (by decide)]
    show ('[' :: (splitPort true _).1, (splitPort true _).2) = _
    rw [hGroupsSplit]
    simp [splitPort]

theorem splitCredentials_of_notMem {authority : List Char} (hNone : '@' ∉ authority) :
    splitCredentials authority = ([], authority) := by
  have hAll : authority.reverse.takeWhile (· ≠ '@') = authority.reverse := by
    rw [List.takeWhile_eq_self_iff]
    exact fun c hMem => decide_eq_true fun hAt => hNone (hAt ▸ List.mem_reverse.mp hMem)
  unfold splitCredentials
  dsimp only
  rw [hAll, List.reverse_reverse, Nat.sub_self]
  rfl

/-- A port behind a host, with the colon before it. -/
def portChars : Option Nat → List Char
  | none => []
  | some n => ':' :: Nat.toDigits 10 n

theorem splitPort_portChars (port : Option Nat) :
    splitPort false (portChars port) = ([], port.map (Nat.toDigits 10)) := by
  cases port with
  | none => rfl
  | some n => rfl

theorem inside_portChars (port : Option Nat) : ∀ c ∈ portChars port, Inside c := by
  have hDigit : ∀ d < 10, Inside (Nat.digitChar d) := by decide
  cases port with
  | none => exact List.forall_mem_nil _
  | some n =>
    refine List.forall_mem_cons.mpr ⟨by decide, fun c hMem => ?_⟩
    obtain ⟨d, hLt, rfl⟩ := Text.exists_of_mem_toDigits (by decide) hMem
    exact hDigit d hLt

theorem port?_toDigits {n : Nat} (hRange : n ≤ 65535) (hOther : n ≠ 80) :
    port? (Nat.toDigits 10 n) = .ok (some n) := by
  have hSome : Nat.toDigits 10 n ≠ [] := Nat.toDigits_ne_nil
  have hRead : Decimal.natural? (Nat.toDigits 10 n) = some n :=
    Decimal.natural?_eq_some_iff.mpr ⟨hSome,
      fun _ hMem => Nat.isDigit_of_mem_toDigits (by decide) (by decide) hMem,
      Nat.ofDigitChars_ten_toDigits⟩
  rw [port?, if_neg hSome, hRead, Option.filter_some_pos (by simpa using hRange)]
  split
  · rename_i hDefault
    exact absurd (Option.some.inj hDefault) hOther
  · rename_i m _ hEq
    rw [Option.some.inj hEq]
  · rename_i hNone
    cases hNone

/-! ## Queries -/

/-- The query of a normal address: none, or a question mark with nothing left to encode behind it. -/
inductive NormalQuery : String → Prop where
  | absent : NormalQuery ""
  | present {query : List Char} (hQuery : ∀ c ∈ query, Kept querySet c) :
    NormalQuery ("?" ++ String.ofList query)

theorem toList_asked (query : List Char) : ("?" ++ String.ofList query).toList = '?' :: query := by
  simp

theorem NormalQuery.visible {query : String} (h : NormalQuery query) :
    ∀ c ∈ query.toList, 0x20 < c.toNat ∧ c ≠ '#' := by
  cases h with
  | absent => exact List.forall_mem_nil _
  | present hQuery =>
    rw [toList_asked]
    refine List.forall_mem_cons.mpr ⟨by decide, fun c hMem => ?_⟩
    exact visible_of_kept (by decide) (by decide) (hQuery c hMem)

/-- Whatever stands behind the path, what it is encoded to is normal. -/
theorem normalQuery_encoded (behind : List Char) :
    NormalQuery (match behind with
      | '?' :: asked => "?" ++ String.ofList (percentEncode querySet asked)
      | _ => "") := by
  have hEncoding : ∀ c ∈ encodingChars, Kept querySet c := List.all_iff_forall_prop.mp rfl
  split
  · exact .present (kept_percentEncode hEncoding _)
  · exact .absent

/-- There is nothing left to encode in a normal query. -/
theorem NormalQuery.encoded_eq {query : String} (h : NormalQuery query) :
    (match query.toList with
      | '?' :: asked => "?" ++ String.ofList (percentEncode querySet asked)
      | _ => "") = query := by
  cases h with
  | absent => rfl
  | present hQuery =>
    rw [toList_asked]
    show "?" ++ String.ofList (percentEncode querySet _) = _
    rw [percentEncode_eq_self hQuery]

/-! ## Whole addresses -/

/-- Visible characters all count. -/
theorem significant_eq_self {text : List Char} (hText : ∀ c ∈ text, 0x20 < c.toNat) :
    significant text = text := by
  have hEnd : text.reverse.dropWhile (·.toNat ≤ 0x20) = text.reverse := by
    cases hReverse : text.reverse with
    | nil => rfl
    | cons last before =>
      have hLast : last ∈ text := List.mem_reverse.mp (hReverse ▸ List.mem_cons_self)
      exact List.dropWhile_cons_of_neg (by simpa using hText last hLast)
  unfold significant
  rw [hEnd, List.reverse_reverse]
  apply List.filter_eq_self.mpr
  intro c hMem
  have hVisible := hText c hMem
  have hBlank : ∀ d ∈ ['\t', '\n', '\r'], d.toNat ≤ 0x20 := List.all_iff_forall_prop.mp rfl
  have hOther : c ∉ ['\t', '\n', '\r'] := fun hDropped =>
    absurd hVisible (Nat.not_lt.mpr (hBlank c hDropped))
  simpa [and_assoc] using hOther

/-- A text is divided where a property of its characters ends. -/
theorem divide {p : Char → Bool} {front back : List Char} (hFront : ∀ c ∈ front, p c = true)
    (hBack : ∀ c ∈ back.head?, p c = false) :
    (front ++ back).takeWhile p = front ∧ (front ++ back).dropWhile p = back := by
  rw [List.takeWhile_append_of_pos hFront, List.dropWhile_append_of_pos hFront]
  cases back with
  | nil => simp
  | cons c back => simp [hBack c rfl]

section

variable {host path query : String} {port : Option Nat}

/-- No slash behind the scheme is taken for one of the host. -/
theorem dropWhile_slashes {host : List Char} (hBounded : Host.Bounded host) (behind : List Char) :
    ('/' :: '/' :: (host ++ behind)).dropWhile isSlash = host ++ behind := by
  obtain ⟨first, rest, rfl⟩ := List.exists_cons_of_ne_nil hBounded.ne_nil
  have hFirst := (inside_of_bounded hBounded first List.mem_cons_self).not_ends
  have hSlash : isSlash '/' = true := rfl
  simp only [Bool.or_eq_false_iff] at hFirst
  simp [hSlash, hFirst]

/-- The authority ends where the path begins. -/
theorem divide_authority {authority : List Char} (hAuthority : ∀ c ∈ authority, Inside c)
    (hPath : NormalPath path) (behind : List Char) :
    (authority ++ (path.toList ++ behind)).takeWhile
          (fun c => !(isSlash c || c = '?' || c = '#')) = authority ∧
      (authority ++ (path.toList ++ behind)).dropWhile
          (fun c => !(isSlash c || c = '?' || c = '#')) = path.toList ++ behind := by
  obtain ⟨rest, hRest⟩ := hPath.exists_tail
  apply divide
  · intro c hMem
    rw [(hAuthority c hMem).not_ends]
    rfl
  · simp [hRest, isSlash]

/-- The path ends where the query begins. -/
theorem divide_path (hPath : NormalPath path) (hQuery : NormalQuery query) :
    (path.toList ++ query.toList).takeWhile (fun c => c ≠ '?' && c ≠ '#') = path.toList ∧
      (path.toList ++ query.toList).dropWhile (fun c => c ≠ '?' && c ≠ '#') = query.toList := by
  have hEncoded : ∀ d ∈ ['?', '#'], d ∈ pathSet := List.all_iff_forall_prop.mp rfl
  apply divide
  · intro c hMem
    have hOther : c ∉ ['?', '#'] := fun hEnds => (hPath.kept c hMem).2.2 (hEncoded c hEnds)
    simpa using hOther
  · cases hQuery with
    | absent => nofun
    | present => simp

/-- The query goes to the end. -/
theorem divide_query (hQuery : NormalQuery query) :
    query.toList.takeWhile (· ≠ '#') = query.toList ∧ query.toList.dropWhile (· ≠ '#') = [] := by
  have hOther : ∀ c ∈ query.toList, decide (c ≠ '#') = true := fun c hMem =>
    decide_eq_true (hQuery.visible c hMem).2
  exact ⟨List.takeWhile_eq_self_iff.mpr hOther, List.dropWhile_eq_nil_iff.mpr hOther⟩

/-- The parts of an address are found again. -/
theorem parseRest_parts (hHost : Host.normalize host.toList = .ok host)
    (hPort : ∀ n, port = some n → n ≤ 65535 ∧ n ≠ 80)
    (hPath : NormalPath path) (hQuery : NormalQuery query) :
    parseRest ('/' :: '/' :: (host.toList ++ portChars port ++ (path.toList ++ query.toList))) =
      .ok { credentials := "", host, port, path := path ++ query, fragment := none } := by
  have hBounded := Host.bounded_of_normalize hHost
  have hAuthority : ∀ c ∈ host.toList ++ portChars port, Inside c :=
    List.forall_mem_append.mpr ⟨inside_of_bounded hBounded, inside_portChars port⟩
  have hVisible : ∀ c ∈ '/' :: '/' :: (host.toList ++ portChars port ++ (path.toList ++ query.toList)),
      0x20 < c.toNat := by
    refine List.forall_mem_cons.mpr ⟨by decide, List.forall_mem_cons.mpr ⟨by decide, ?_⟩⟩
    refine List.forall_mem_append.mpr ⟨fun c hMem => (hAuthority c hMem).1, ?_⟩
    exact List.forall_mem_append.mpr
      ⟨fun c hMem => (visible_of_kept (by decide) (by decide) (hPath.kept c hMem)).1,
        fun c hMem => (hQuery.visible c hMem).1⟩
  have hCredentials : splitCredentials (host.toList ++ portChars port) = ([], host.toList ++ portChars port) :=
    splitCredentials_of_notMem fun hMem => (hAuthority '@' hMem).2 (by decide)
  have hSplit := splitPort_bounded hBounded (portChars port)
  rw [splitPort_portChars, List.append_nil] at hSplit
  have hEnds := divide_authority hAuthority hPath query.toList
  have hPathEnds := divide_path hPath hQuery
  have hQueryEnds := divide_query hQuery
  -- every division falls where a part was written to its end
  unfold parseRest
  rw [significant_eq_self hVisible]
  dsimp only
  rw [List.append_assoc, dropWhile_slashes hBounded, ← List.append_assoc, hEnds.1, hEnds.2,
    hCredentials]
  dsimp only
  rw [hSplit]
  dsimp only
  rw [hHost, hPathEnds.1, hPathEnds.2, hQueryEnds.1, hQueryEnds.2, hPath.normalizePath_eq]
  -- the query is encoded already, and a port that is written is not the default one
  have hUrl (port : Option Nat) := congrArg (fun query : String => (.ok
    { credentials := "", host, port, path := path ++ query, fragment := none } :
      Except UrlFault Url)) hQuery.encoded_eq
  cases port with
  | none => exact hUrl none
  | some n =>
    obtain ⟨hRange, hOther⟩ := hPort n rfl
    dsimp only [Option.map_some]
    rw [port?_toDigits hRange hOther]
    exact hUrl (some n)

end

/-! ## Normal forms -/

/-- An address in normal form, whatever its fragment: there are no credentials, the host is its own normal
form, the port is not the default one, and path and query have nothing left to encode or to resolve. -/
structure Normal (url : Url) : Prop where
  credentials : url.credentials = ""
  host : Host.normalize url.host.toList = .ok url.host
  port : ∀ n, url.port = some n → n ≤ 65535 ∧ n ≠ 80
  path : ∃ path query, NormalPath path ∧ NormalQuery query ∧ url.path = path ++ query

theorem toList_target {url : Url} (hCredentials : url.credentials = "") :
    url.target.toList =
      "http:".toList ++
        '/' :: '/' :: (url.host.toList ++ portChars url.port ++ url.path.toList) := by
  have hPort : ((url.port.map fun n => ":" ++ toString n).getD "").toList = portChars url.port := by
    cases url.port with
    | none => rfl
    | some n => simp [portChars, String.toList_append]
  rw [target, hCredentials, String.toList_append, String.toList_append, hPort]
  simp

/-- The target of a normal address is read as that address; only the fragment is not asked for. -/
theorem Normal.parse_target {url : Url} (h : url.Normal) :
    parse url.target = .ok { url with fragment := none } := by
  obtain ⟨path, query, hPath, hQuery, hWhole⟩ := h.path
  have hParts := parseRest_parts h.host h.port hPath hQuery
  rw [← String.toList_append, ← hWhole, ← h.credentials] at hParts
  rw [parse, toList_target h.credentials]
  exact hParts

theorem port?_range {digits : List Char} {port : Option Nat} (hPort : port? digits = .ok port) :
    ∀ n, port = some n → n ≤ 65535 ∧ n ≠ 80 := by
  unfold port? at hPort
  split at hPort
  · cases hPort
    exact nofun
  · split at hPort
    · cases hPort
      exact nofun
    · rename_i m hOther hRead
      cases hPort
      rintro n ⟨⟩
      obtain ⟨-, hRange⟩ := Option.filter_eq_some_iff.mp hRead
      exact ⟨of_decide_eq_true hRange, fun hDefault => hOther (hDefault ▸ rfl)⟩
    · cases hPort

/-- What is read is in normal form, if the credentials are taken out and the host is its own normal form. -/
theorem normal_of_parse {text : String} {url : Url} (hParse : parse text = .ok url)
    (hCredentials : url.credentials = "") (hHost : Host.normalize url.host.toList = .ok url.host) :
    url.Normal := by
  unfold parse parseRest at hParse
  obtain ⟨host, -, hBehind⟩ := bind_eq_ok_iff.mp hParse
  dsimp only at hBehind
  -- what path and query come to does not depend on what they are read from
  generalize significant _ = rest at hBehind
  split at hBehind
  · obtain ⟨port, hPort, hUrl⟩ := bind_eq_ok_iff.mp hBehind
    cases hUrl
    exact ⟨hCredentials, hHost, port?_range hPort,
      _, _, normalPath_normalizePath _, normalQuery_encoded _, rfl⟩
  · cases hBehind
    exact ⟨hCredentials, hHost, nofun,
      _, _, normalPath_normalizePath _, normalQuery_encoded _, rfl⟩

example : (parse "http://Host.:080/x/../y?q#z").toOption.map target = some "http://host./y?q" := by
  decide +kernel

end ClusterBootstrap.Net.Url
