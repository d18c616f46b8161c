import ClusterBootstrap.Net.Host
import ClusterBootstrap.Proofs.Except
import ClusterBootstrap.Proofs.Text.Breaks
import Mathlib.Data.Bool.AllAny

/-!
# What hosts are made of

Whatever a host is read from, its normal form has none of the characters that divide an address, but for the
brackets around an IPv6 address and the colons inside them.  So nothing that stands in an address in the place
of the host can be taken for another part of it.
-/

namespace ClusterBootstrap.Net

/-! ## Punycode -/

namespace Punycode

theorem threshold_le (bias k : Nat) : threshold bias k ≤ 26 := by
  unfold threshold
  split <;> omega

/-- A number is written in the thirty-six digits. -/
theorem exists_of_mem_digits {bias q k rounds : Nat} {c : Char}
    (hMem : c ∈ digits bias q k rounds) : ∃ n < 36, c = digit n := by
  induction rounds generalizing q k with
  | zero => cases hMem
  | succ rounds ih =>
    have hThreshold := threshold_le bias k
    simp only [digits] at hMem
    split at hMem
    · rename_i hLast
      exact ⟨q, by omega, List.mem_singleton.mp hMem⟩
    · rcases List.mem_cons.mp hMem with hFirst | hRest
      · have hMod : (q - threshold bias k) % (36 - threshold bias k) < 36 - threshold bias k :=
          Nat.mod_lt _ (by omega)
        exact ⟨_, by omega, hFirst⟩
      · exact ih hRest

section

variable {P : Char → Prop} (hDigit : ∀ n < 36, P (digit n))

include hDigit

/-- A pass adds nothing but digits. -/
theorem forall_encodePass {label : List Nat} {n basic : Nat} {e : Encoder}
    (hOutput : ∀ c ∈ e.output, P c) : ∀ c ∈ (encodePass label n basic e).output, P c := by
  unfold encodePass
  dsimp only
  -- on the label, for every state of the encoder
  induction label generalizing e with
  | nil => exact hOutput
  | cons first rest ih =>
    rw [List.foldl_cons]
    apply ih
    split
    · exact hOutput
    · split
      · intro c hMem
        rcases List.mem_append.mp hMem with hOld | hNew
        · exact hOutput c hOld
        · obtain ⟨d, hLt, rfl⟩ := exists_of_mem_digits hNew
          exact hDigit d hLt
      · exact hOutput

theorem forall_encodeFrom {label : List Nat} {basic n rounds : Nat} {e : Encoder}
    (hOutput : ∀ c ∈ e.output, P c) : ∀ c ∈ (encodeFrom label basic n e rounds).output, P c := by
  induction rounds generalizing n e with
  | zero => exact hOutput
  | succ rounds ih =>
    unfold encodeFrom
    split
    · exact hOutput
    · exact ih (forall_encodePass hDigit hOutput)

/-- Punycode has characters of the label, hyphens and digits. -/
theorem forall_encode {label : List Char} (hHyphen : P '-') (hLabel : ∀ c ∈ label, P c) :
    ∀ c ∈ encode label, P c := by
  have hBasic : ∀ c ∈ label.filter (·.toNat < 0x80), P c := fun c hMem =>
    hLabel c ((List.mem_filter.mp hMem).1)
  unfold encode
  apply forall_encodeFrom hDigit
  dsimp only
  split
  · exact List.forall_mem_nil _
  · exact List.forall_mem_append.mpr ⟨hBasic, List.forall_mem_singleton.mpr hHyphen⟩

end

end Punycode

/-! ## Names -/

namespace Idna

theorem not_forbidden_digit : ∀ n < 36, isForbidden (Punycode.digit n) = false := by decide

/-- A label is written as it came, or in Punycode behind the mark. -/
theorem Label.written_of_ofText? {text : List Char} {label : Label}
    (hLabel : ofText? text = some label) :
    label.written = text ∨ label.written = mark ++ Punycode.encode text := by
  unfold ofText? at hLabel
  split at hLabel
  · obtain ⟨meant, -, hSound⟩ := Option.bind_eq_some_iff.mp hLabel
    split at hSound
    · cases hSound
      exact .inl rfl
    · cases hSound
  · split at hLabel
    · cases hLabel
      exact .inl rfl
    · split at hLabel
      · cases hLabel
        exact .inr rfl
      · cases hLabel

/-- Neither the mark nor Punycode brings in a forbidden character. -/
theorem Label.not_forbidden {text : List Char} {label : Label} (hLabel : ofText? text = some label)
    (hText : ∀ c ∈ text, isForbidden c = false) : ∀ c ∈ label.written, isForbidden c = false := by
  have hMark : ∀ c ∈ mark, isForbidden c = false := List.all_iff_forall_prop.mp rfl
  rcases written_of_ofText? hLabel with hWritten | hWritten
  · rw [hWritten]
    exact hText
  · rw [hWritten]
    exact List.forall_mem_append.mpr
      ⟨hMark, Punycode.forall_encode not_forbidden_digit (by decide) hText⟩

/-- The labels of a name come from a text without forbidden characters, one from each part. -/
theorem exists_parts_of_labels? {name : String} {labels : List Label}
    (hLabels : labels? name = some labels) :
    ∃ composed, (∀ c ∈ composed, isForbidden c = false) ∧
      (Text.parts '.' composed).mapM Label.ofText? = some labels := by
  obtain ⟨folded, -, hComposed⟩ := Option.bind_eq_some_iff.mp hLabels
  dsimp only at hComposed
  split at hComposed
  · cases hComposed
  · rename_i hAllowed
    obtain ⟨made, hMade, hDirected⟩ := Option.bind_eq_some_iff.mp hComposed
    refine ⟨Text.compose folded.flatten, by simpa using hAllowed, ?_⟩
    split at hDirected
    · cases hDirected
    · cases hDirected
      exact hMade

theorem exists_of_mem_mapM {α β : Type} {f : α → Option β} {items : List α} {images : List β}
    (hImages : items.mapM f = some images) {b : β} (hMem : b ∈ images) :
    ∃ a ∈ items, f a = some b := by
  induction items generalizing images with
  | nil =>
    cases hImages
    cases hMem
  | cons a items ih =>
    rw [List.mapM_cons] at hImages
    obtain ⟨image, hImage, hRest⟩ := Option.bind_eq_some_iff.mp hImages
    obtain ⟨others, hOthers, hCons⟩ := Option.bind_eq_some_iff.mp hRest
    cases hCons
    rcases List.mem_cons.mp hMem with rfl | hMem
    · exact ⟨a, List.mem_cons_self, hImage⟩
    · obtain ⟨other, hOther, hEq⟩ := ih hOthers hMem
      exact ⟨other, List.mem_cons_of_mem _ hOther, hEq⟩

/-- A name in ASCII has no forbidden characters, whatever name it was made of. -/
theorem not_forbidden_of_toAscii? {name ascii : String} (hAscii : toAscii? name = some ascii) :
    ∀ c ∈ ascii.toList, isForbidden c = false := by
  obtain ⟨labels, hLabels, rfl⟩ := Option.map_eq_some_iff.mp hAscii
  obtain ⟨composed, hComposed, hParts⟩ := exists_parts_of_labels? hLabels
  rw [String.toList_intercalate]
  apply Text.forall_intercalate
  · exact List.forall_mem_singleton.mpr rfl
  · intro written hWritten
    simp only [List.map_map, List.mem_map, Function.comp_apply, String.toList_ofList] at hWritten
    obtain ⟨label, hLabel, rfl⟩ := hWritten
    obtain ⟨part, hPart, hRead⟩ := exists_of_mem_mapM hParts hLabel
    exact Label.not_forbidden hRead fun c hMem =>
      hComposed c (Text.mem_of_mem_parts hPart hMem).1

end Idna

/-! ## All hosts -/

namespace Host

/-- What the groups of an IPv6 address are written in. -/
def groupChars : List Char := "0123456789abcdef:".toList

/-- What the normal form of a host can be: a name without delimiters, or an IPv6 address in brackets. -/
inductive Bounded : List Char → Prop where
  | name {chars : List Char} (hSome : chars ≠ [])
      (hChars : ∀ c ∈ chars, Idna.isForbidden c = false) : Bounded chars
  | address {groups : List Char} (hGroups : ∀ c ∈ groups, c ∈ groupChars) :
    Bounded ('[' :: (groups ++ [']']))

theorem Bounded.ne_nil {host : List Char} (h : Bounded host) : host ≠ [] := by
  cases h with
  | name hSome _ => exact hSome
  | address => exact List.cons_ne_nil _ _

theorem bounded_ipv4Text (address : Nat) : Bounded (ipv4Text address).toList := by
  have hDigit : ∀ d < 10, Idna.isForbidden (Nat.digitChar d) = false := by decide
  apply Bounded.name
  · rw [ipv4Text, List.map_cons, List.map_cons, String.intercalate_cons_cons]
    simp
  · rw [ipv4Text, String.toList_intercalate]
    apply Text.forall_intercalate
    · exact List.forall_mem_singleton.mpr rfl
    · simp only [List.map_map, List.forall_mem_map, Function.comp_apply]
      intro i _ c hMem
      rw [Nat.toString_eq_repr, Nat.toList_repr] at hMem
      obtain ⟨d, hLt, rfl⟩ := Text.exists_of_mem_toDigits (by decide) hMem
      exact hDigit d hLt

theorem groupsText_chars (groups : List Nat) :
    ∀ c ∈ (groupsText groups).toList, c ∈ groupChars := by
  have hDigit : ∀ d < 16, Nat.digitChar d ∈ groupChars := by decide
  have hColon : ':' ∈ groupChars := by decide
  rw [groupsText, String.toList_intercalate]
  apply Text.forall_intercalate
  · exact List.forall_mem_singleton.mpr hColon
  · simp only [List.map_map, List.forall_mem_map, Function.comp_apply, Text.hexDigits,
      String.toList_ofList]
    intro value _ c hMem
    obtain ⟨d, hLt, rfl⟩ := Text.exists_of_mem_toDigits (by decide) hMem
    exact hDigit d hLt

theorem bounded_brackets {body : String} (hBody : ∀ c ∈ body.toList, c ∈ groupChars) :
    Bounded ("[" ++ body ++ "]").toList := by
  have hText : ("[" ++ body ++ "]").toList = '[' :: (body.toList ++ [']']) := by simp
  rw [hText]
  exact .address hBody

theorem bounded_ipv6Text (groups : List Nat) : Bounded (ipv6Text groups).toList := by
  have hColons : ∀ c ∈ "::".toList, c ∈ groupChars := List.all_iff_forall_prop.mp rfl
  apply bounded_brackets
  split
  · exact groupsText_chars groups
  · rw [String.toList_append, String.toList_append]
    exact List.forall_mem_append.mpr
      ⟨List.forall_mem_append.mpr ⟨groupsText_chars _, hColons⟩, groupsText_chars _⟩

/-- The normal form of a host is bounded, whatever it was read from. -/
theorem bounded_of_normalize {host : List Char} {normal : String}
    (hNormal : normalize host = .ok normal) : Bounded normal.toList := by
  unfold normalize at hNormal
  split at hNormal
  · cases hNormal
  · split at hNormal
    · split at hNormal
      · cases hNormal
        exact bounded_ipv6Text _
      · cases hNormal
    · cases hNormal
  · dsimp only at hNormal
    split at hNormal
    · cases hNormal
    · rename_i name hName
      obtain ⟨text, -, hAscii⟩ := Option.bind_eq_some_iff.mp hName
      split at hNormal
      · cases hNormal
      · rename_i hSome
        split at hNormal
        · split at hNormal
          · cases hNormal
            exact bounded_ipv4Text _
          · cases hNormal
        · cases hNormal
          exact .name (by simpa using hSome) (Idna.not_forbidden_of_toAscii? hAscii)

end Host

end ClusterBootstrap.Net
