import ClusterBootstrap.Json.Printer
import ClusterBootstrap.Json.Reader
import ClusterBootstrap.Proofs.Except
import Mathlib.Tactic.SplitIfs

/-!
# Strings between quotes

What `quote` writes, `readString` reads back, whatever characters the string has.  The writer works on
characters and the reader on bytes; they meet in `Spells`, which says of bytes written inside a string
which bytes the reader takes them for.
-/

namespace ClusterBootstrap.Json

/-! ## Texts and their bytes -/

/-- The loop of `ByteArray.toList` holds the bytes before its index, last one first. -/
theorem toList_loop_eq {bytes : ByteArray} {i : Nat} {read : List UInt8}
    (hRead : read.reverse = bytes.data.toList.take i) :
    ByteArray.toList.loop bytes i read = bytes.data.toList := by
  fun_induction ByteArray.toList.loop bytes i read with
  | case1 i read hLt ih =>
    have hIndex : i < bytes.data.toList.length := by simpa using hLt
    apply ih
    rw [List.reverse_cons, hRead, List.take_succ_eq_append_getElem hIndex]
    simp [ByteArray.get!, hLt]
  | case2 i read hGe =>
    rw [hRead, List.take_of_length_le (by simpa using Nat.le_of_not_lt hGe)]

/-- The UTF-8 bytes of some characters. -/
def encode (chars : List Char) : List UInt8 :=
  chars.flatMap String.utf8EncodeChar

@[simp] theorem encode_nil : encode [] = [] := rfl

@[simp] theorem encode_cons (c : Char) (chars : List Char) :
    encode (c :: chars) = String.utf8EncodeChar c ++ encode chars := rfl

@[simp] theorem encode_append (chars others : List Char) :
    encode (chars ++ others) = encode chars ++ encode others :=
  List.flatMap_append

theorem bytesOf_eq_encode (s : String) : bytesOf s = encode s.toList := by
  have hBytes : s.toUTF8 = (encode s.toList).toByteArray := by
    rw [String.toUTF8_eq_toByteArray, ← String.utf8Encode_toList]
    rfl
  rw [bytesOf, hBytes, ByteArray.toList, toList_loop_eq rfl, List.toList_data_toByteArray]

theorem bytesOf_ofList (chars : List Char) : bytesOf (String.ofList chars) = encode chars := by
  rw [bytesOf_eq_encode, String.toList_ofList]

@[simp] theorem bytesOf_append (s t : String) : bytesOf (s ++ t) = bytesOf s ++ bytesOf t := by
  simp [bytesOf_eq_encode]

/-- Decoding the bytes of characters gives the characters back. -/
theorem fromUTF8?_encode (chars : List Char) :
    String.fromUTF8? ⟨(encode chars).toArray⟩ = some (String.ofList chars) := by
  have hBytes : (⟨(encode chars).toArray⟩ : ByteArray) = (String.ofList chars).toByteArray := by
    rw [String.toByteArray_ofList]
    exact ByteArray.ext (by simp [encode, List.utf8Encode])
  rw [hBytes, String.fromUTF8?, dif_pos (String.ofList chars).isValidUTF8]
  rfl

/-- An ASCII character is one byte. -/
theorem encode_ascii {c : Char} (hAscii : c.toNat < 0x80) : String.utf8EncodeChar c = [byte c] :=
  if_pos (Nat.le_of_lt_succ hAscii)

theorem toNat_byte {c : Char} (hAscii : c.toNat < 0x80) : (byte c).toNat = c.toNat :=
  UInt8.toNat_ofNat_of_lt' (Nat.lt_trans hAscii (by decide))

theorem byte_inj {c d : Char} (hAscii : c.toNat < 0x80) (hAscii' : d.toNat < 0x80)
    (hByte : byte c = byte d) : c = d := by
  have hNat : c.toNat = d.toNat := by
    rw [← toNat_byte hAscii, ← toNat_byte hAscii', hByte]
  exact Char.toNat_inj.mp hNat

/-- Beyond ASCII every byte of a character has its high bit set. -/
theorem le_of_mem_encode {c : Char} (hBeyond : 0x80 ≤ c.toNat) {b : UInt8}
    (hMem : b ∈ String.utf8EncodeChar c) : 0x80 ≤ b := by
  have hNot : ¬ c.val.toNat ≤ 0x7f := Nat.not_le.mpr hBeyond
  have hHigh : ∀ n, 0x80 ≤ n → n < 0x100 → 0x80 ≤ UInt8.ofNat n := by
    intro n hLow hLt
    rw [UInt8.le_iff_toNat_le, UInt8.toNat_ofNat_of_lt' hLt]
    exact hLow
  simp only [String.utf8EncodeChar, hNot, if_false] at hMem
  split at hMem
  · simp only [List.mem_cons, List.not_mem_nil, or_false] at hMem
    rcases hMem with rfl | rfl <;> exact hHigh _ (by omega) (by omega)
  · split at hMem
    · simp only [List.mem_cons, List.not_mem_nil, or_false] at hMem
      rcases hMem with rfl | rfl | rfl <;> exact hHigh _ (by omega) (by omega)
    · simp only [List.mem_cons, List.not_mem_nil, or_false] at hMem
      rcases hMem with rfl | rfl | rfl | rfl <;> exact hHigh _ (by omega) (by omega)

/-! ## The order of texts -/

theorem ofNat_cons_lt {m n : Nat} {bytes others : List UInt8} (hByte : n < UInt8.size) (hLe : m ≤ n)
    (hRest : m = n → bytes < others) : UInt8.ofNat m :: bytes < UInt8.ofNat n :: others := by
  rw [List.cons_lt_cons_iff]
  rcases Nat.lt_or_eq_of_le hLe with hLt | hEq
  · exact .inl ((UInt8.ofNat_lt_iff_lt (Nat.lt_trans hLt hByte) hByte).mpr hLt)
  · exact .inr ⟨by rw [hEq], hRest hEq⟩

/-- The bytes of a greater character are greater, whatever follows. -/
theorem encode_char_lt {c d : Char} (hLt : c < d) (rest others : List UInt8) :
    String.utf8EncodeChar c ++ rest < String.utf8EncodeChar d ++ others := by
  have hCode : c.val.toNat < d.val.toNat := hLt
  have hValid : d.val.toNat < 0x110000 := by
    rcases d.valid with hLow | ⟨-, hHigh⟩
    · exact Nat.lt_trans hLow (by decide)
    · exact hHigh
  have hSize : UInt8.size = 0x100 := rfl
  unfold String.utf8EncodeChar
  generalize c.val.toNat = m at *
  generalize d.val.toNat = n at *
  dsimp only
  -- a longer code has the greater first byte, and codes of one length differ at last in some byte
  split_ifs
  all_goals
    simp only [List.cons_append, List.nil_append]
    repeat first
      | omega
      | refine ofNat_cons_lt (by omega) (by omega) fun _ => ?_

theorem encode_lt_of_lt {chars others : List Char} (hLt : chars < others) :
    encode chars < encode others := by
  induction hLt with
  | @nil c rest =>
    rw [encode_cons, encode_nil]
    cases hBytes : String.utf8EncodeChar c with
    | nil => exact absurd hBytes String.utf8EncodeChar_ne_nil
    | cons b bytes => exact List.nil_lt_cons _ _
  | rel hFirst => exact encode_char_lt hFirst _ _
  | cons hRest ih =>
    rw [encode_cons, encode_cons]
    exact List.append_left_lt ih

/-- Texts compare as their bytes do. -/
theorem bytesOf_lt_of_lt {s t : String} (hLt : s < t) : bytesOf s < bytesOf t := by
  rw [bytesOf_eq_encode, bytesOf_eq_encode]
  exact encode_lt_of_lt hLt

/-! ## What stands between the quotes -/

/-- Inside a string the bytes `written` stand for the bytes `meant`.  A round of the reader takes a
byte or more, so rounds that suffice for all of `written` leave as many spare ones as there were. -/
def Spells (written meant : List UInt8) : Prop :=
  ∀ spare rest, ∃ left, spare ≤ left ∧
    readStringBytes (written.length + spare) (written ++ rest) =
      (readStringBytes left rest).map fun r => (meant ++ r.1, r.2)

theorem spells_nil : Spells [] [] := by
  refine fun spare rest => ⟨spare, Nat.le_refl _, ?_⟩
  simp only [List.length_nil, Nat.zero_add, List.nil_append]
  cases readStringBytes spare rest <;> rfl

theorem Spells.append {written written' meant meant' : List UInt8} (h : Spells written meant)
    (h' : Spells written' meant') : Spells (written ++ written') (meant ++ meant') := by
  intro spare rest
  obtain ⟨left, hLeft, hFirst⟩ := h (written'.length + spare) (written' ++ rest)
  -- the rounds that the first part leaves are enough for the second
  obtain ⟨more, rfl⟩ := Nat.exists_eq_add_of_le (Nat.le_trans (Nat.le_add_right ..) hLeft)
  obtain ⟨left', hLeft', hSecond⟩ := h' more rest
  refine ⟨left', by omega, ?_⟩
  rw [List.length_append, Nat.add_assoc, List.append_assoc, hFirst, hSecond]
  cases readStringBytes left' rest <;> simp [Except.map]

/-- A byte that is neither quote nor backslash nor control stands for itself. -/
theorem spells_byte {b : UInt8} (hQuote : b ≠ byte '"') (hBackslash : b ≠ byte '\\')
    (hControl : ¬ b < 0x20) : Spells [b] [b] := by
  refine fun spare rest => ⟨spare, Nat.le_refl _, ?_⟩
  rw [List.length_singleton, Nat.add_comm, List.singleton_append, readStringBytes, if_neg hQuote,
    if_neg hBackslash, if_neg hControl]
  cases readStringBytes spare rest <;> rfl

theorem spells_bytes {bytes : List UInt8} (h : ∀ b ∈ bytes, Spells [b] [b]) :
    Spells bytes bytes := by
  induction bytes with
  | nil => exact spells_nil
  | cons b bytes ih =>
    exact (h b List.mem_cons_self).append (ih fun b' hMem => h b' (List.mem_cons_of_mem _ hMem))

/-- An escape stands for the character that the reader makes of it. -/
theorem spells_escape {escape : List UInt8} {c : Char}
    (h : ∀ rest, readEscape (escape ++ rest) = .ok (c, rest)) :
    Spells (byte '\\' :: escape) (String.utf8EncodeChar c) := by
  refine fun spare rest => ⟨escape.length + spare, Nat.le_add_left .., ?_⟩
  rw [List.length_cons, Nat.add_right_comm, List.cons_append, readStringBytes,
    if_neg (by decide), if_pos rfl, h]
  simp only [ok_bind]
  cases readStringBytes (escape.length + spare) rest <;> rfl

theorem hexValue?_hexDigit (n : Nat) : hexValue? (byte (hexDigit n)) = some (n % 16) := by
  have hAll : ∀ d < 16, hexValue? (byte (Nat.digitChar d)) = some d := by decide
  exact hAll (n % 16) (Nat.mod_lt n (by decide))

theorem encode_hexDigit (n : Nat) : String.utf8EncodeChar (hexDigit n) = [byte (hexDigit n)] := by
  have hAll : ∀ d < 16, (Nat.digitChar d).toNat < 0x80 := by decide
  exact encode_ascii (hAll (n % 16) (Nat.mod_lt n (by decide)))

/-- A control character is read back from its four hexadecimal digits. -/
theorem readEscape_control {c : Char} (hControl : c.toNat < 0x20) (rest : List UInt8) :
    readEscape (byte 'u' :: byte '0' :: byte '0' :: byte (hexDigit (c.toNat / 16)) ::
      byte (hexDigit c.toNat) :: rest) = .ok (c, rest) := by
  have hZero : hexValue? (byte '0') = some 0 := hexValue?_hexDigit 0
  have hValue : ((0 * 16 + 0) * 16 + c.toNat / 16 % 16) * 16 + c.toNat % 16 = c.toNat := by omega
  have hHex : readHex (byte '0' :: byte '0' :: byte (hexDigit (c.toNat / 16)) ::
      byte (hexDigit c.toNat) :: rest) = .ok (c.toNat, rest) := by
    simp only [readHex, hZero, hexValue?_hexDigit, hValue]
  rw [readEscape]
  -- the escapes of one letter are tried first
  iterate 8 rw [if_neg (by decide)]
  rw [if_pos rfl, hHex, ok_bind]
  dsimp only
  rw [if_neg (by omega), if_neg (by omega), Char.ofNat_toNat]
  rfl

/-- Every character is read back from its bytes inside a string. -/
theorem spells_escapeChar (c : Char) :
    Spells (encode (escapeChar c)) (String.utf8EncodeChar c) := by
  fun_cases escapeChar c with
  | case1 | case2 | case3 | case4 | case5 | case6 | case7 =>
    -- one letter behind the backslash
    subst_vars
    exact spells_escape fun rest => rfl
  | case8 _ _ _ _ _ _ _ hControl =>
    have hBytes : encode ['\\', 'u', '0', '0', hexDigit (c.toNat / 16), hexDigit c.toNat] =
        byte '\\' :: [byte 'u', byte '0', byte '0', byte (hexDigit (c.toNat / 16)),
          byte (hexDigit c.toNat)] := by
      simp only [encode_cons, encode_hexDigit]
      rfl
    rw [hBytes]
    exact spells_escape fun rest => readEscape_control hControl rest
  | case9 hQuote hBackslash _ _ _ _ _ hControl =>
    -- no byte of any other character looks like a quote, a backslash or a control
    rw [encode_cons, encode_nil, List.append_nil]
    refine spells_bytes fun b hMem => ?_
    by_cases hAscii : c.toNat < 0x80
    · rw [encode_ascii hAscii, List.mem_singleton] at hMem
      subst hMem
      have hNat := toNat_byte hAscii
      refine spells_byte (fun h => hQuote (byte_inj hAscii (by decide) h))
        (fun h => hBackslash (byte_inj hAscii (by decide) h)) ?_
      rw [UInt8.lt_iff_toNat_lt, hNat]
      exact hControl
    · have hHigh : 0x80 ≤ b := le_of_mem_encode (Nat.not_lt.mp hAscii) hMem
      refine spells_byte ?_ ?_ (fun hLt => absurd (UInt8.lt_of_le_of_lt hHigh hLt) (by decide))
      · rintro rfl
        exact absurd hHigh (by decide)
      · rintro rfl
        exact absurd hHigh (by decide)

theorem spells_flatMap_escapeChar (chars : List Char) :
    Spells (encode (chars.flatMap escapeChar)) (encode chars) := by
  induction chars with
  | nil => exact spells_nil
  | cons c chars ih =>
    rw [List.flatMap_cons, encode_append, encode_cons]
    exact (spells_escapeChar c).append ih

/-! ## Whole strings -/

theorem bytesOf_quote (s : String) :
    bytesOf (quote s) = byte '"' :: (encode (s.toList.flatMap escapeChar) ++ [byte '"']) := by
  have hMark : bytesOf "\"" = [byte '"'] := bytesOf_eq_encode _
  rw [quote, bytesOf_append, bytesOf_append, hMark, bytesOf_ofList]
  rfl

/-- The reader takes a quoted text for that text. -/
theorem readString_quote (s : String) (rest : List UInt8) :
    readString (encode (s.toList.flatMap escapeChar) ++ byte '"' :: rest) = .ok (s, rest) := by
  obtain ⟨left, hLeft, hBytes⟩ :=
    spells_flatMap_escapeChar s.toList (rest.length + 2) (byte '"' :: rest)
  -- a round is left for the closing quote
  obtain ⟨more, rfl⟩ := Nat.exists_eq_add_of_lt (Nat.lt_of_lt_of_le (Nat.succ_pos _) hLeft)
  have hEnd : readStringBytes (0 + more + 1) (byte '"' :: rest) = .ok ([], rest) := rfl
  rw [readString, List.length_append, List.length_cons, Nat.add_assoc, hBytes, hEnd]
  simp only [Except.map, ok_bind, List.append_nil, fromUTF8?_encode, String.ofList_toList]
  rfl

end ClusterBootstrap.Json
