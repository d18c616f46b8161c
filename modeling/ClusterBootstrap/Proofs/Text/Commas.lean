import ClusterBootstrap.Decimal.Reading
import ClusterBootstrap.Proofs.Text.Ending

/-!
# Commas

Names that hold no comma are told apart by the commas between them.  No number is written with one, so
that a text of two names or more is never taken for a number.
-/

namespace ClusterBootstrap

/-! ## Names between commas -/

namespace Text

/-- Parts without the separator, put together with the separator between them, are found again. -/
theorem parts_intercalate {separator : Char} {texts : List (List Char)} (hSome : texts ≠ [])
    (hNone : ∀ text ∈ texts, separator ∉ text) :
    parts separator ([separator].intercalate texts) = texts := by
  induction texts with
  | nil => exact absurd rfl hSome
  | cons text texts ih =>
    have hFirst := parts_of_not_mem (hNone text List.mem_cons_self)
    cases texts with
    | nil => simpa using hFirst
    | cons next texts =>
      have hRest := ih (List.cons_ne_nil next texts)
        fun other hMem => hNone other (List.mem_cons_of_mem _ hMem)
      rw [List.intercalate_cons_of_ne_nil (List.cons_ne_nil next texts), List.append_assoc,
        List.singleton_append, parts_append, hFirst, hRest, List.singleton_append]

theorem stringParts_commas {names : List String} (hSome : names ≠ [])
    (hNone : ∀ name ∈ names, ',' ∉ name.toList) :
    stringParts ',' (",".intercalate names) = names := by
  have hEach : ∀ text ∈ names.map String.toList, ',' ∉ text := by
    intro text hMem
    obtain ⟨name, hName, rfl⟩ := List.mem_map.mp hMem
    exact hNone name hName
  have hParts := parts_intercalate (by simpa using hSome) hEach
  have hComma : ",".toList = [','] := rfl
  rw [stringParts, String.toList_intercalate, hComma, hParts, List.map_map]
  simp [Function.comp_def]

/-- Two names or more have a comma between them. -/
theorem comma_mem_intercalate (first second : String) (rest : List String) :
    ',' ∈ (",".intercalate (first :: second :: rest)).toList := by
  have hComma : ',' ∈ ",".toList := List.mem_singleton_self ','
  rw [String.intercalate_cons_cons, String.toList_append, String.toList_append]
  exact List.mem_append_left _ (List.mem_append_right _ hComma)

end Text

/-! ## Numbers have no comma -/

namespace Decimal

theorem natural?_eq_none_of_comma {text : List Char} (hComma : ',' ∈ text) :
    natural? text = none := by
  rw [Option.eq_none_iff_forall_ne_some]
  intro n hSome
  obtain ⟨-, hDigits, -⟩ := natural?_eq_some_iff.mp hSome
  exact absurd (hDigits ',' hComma) (by decide)

/-- A comma is left over where digits are read. -/
theorem comma_mem_spanDigits {text : List Char} (hComma : ',' ∈ text) :
    ',' ∈ (spanDigits text).2 := by
  have hSplit : text.takeWhile Char.isDigit ++ text.dropWhile Char.isDigit = text :=
    List.takeWhile_append_dropWhile
  rw [← hSplit] at hComma
  rcases List.mem_append.mp hComma with hDigits | hRest
  · exact absurd (List.all_eq_true.mp List.all_takeWhile ',' hDigits) (by decide)
  · exact hRest

theorem exponent?_eq_none_of_comma {text : List Char} (hComma : ',' ∈ text) :
    exponent? text = none := by
  have hBehind {c : Char} {rest : List Char} (hMem : ',' ∈ c :: rest) (hNe : c ≠ ',') :
      ',' ∈ rest :=
    List.mem_of_ne_of_mem (Ne.symm hNe) hMem
  fun_cases exponent? text with
  | case1 => cases hComma
  | case2 e rest hExponent negative digits hSigned =>
    have hNe : e ≠ ',' := by
      rintro rfl
      exact absurd hExponent (by decide)
    have hRest := hBehind hComma hNe
    -- the comma stands behind a sign as well
    have hDigits : ',' ∈ digits := by
      split at hSigned
      · obtain ⟨-, rfl⟩ := Prod.mk.inj hSigned
        exact hBehind hRest (by decide)
      · obtain ⟨-, rfl⟩ := Prod.mk.inj hSigned
        exact hBehind hRest (by decide)
      · obtain ⟨-, rfl⟩ := Prod.mk.inj hSigned
        exact hRest
    rw [natural?_eq_none_of_comma hDigits]
    rfl
  | case3 => rfl

theorem unsigned?_eq_none_of_comma {text : List Char} (hComma : ',' ∈ text) :
    unsigned? text = none := by
  have hNamed {word : String} (hWord : String.ofList (text.map Char.toLower) = word) :
      ',' ∈ word.toList := by
    rw [← hWord, String.toList_ofList]
    exact List.mem_map.mpr ⟨',', hComma, rfl⟩
  fun_cases unsigned? text with
  | case1 name hInf =>
    rcases hInf with hWord | hWord
    · exact absurd (hNamed hWord) (by decide)
    · exact absurd (hNamed hWord) (by decide)
  | case2 name hInf hNan => exact absurd (hNamed hNan) (by decide)
  | case3 => rfl
  | case4 name hInf hNan whole rest hWhole fraction behind hFraction hDigits =>
    have hRest : ',' ∈ rest := by
      have hSpan := comma_mem_spanDigits hComma
      rwa [hWhole] at hSpan
    -- the comma stands behind the digits, and behind a point and its digits as well
    have hBehind : ',' ∈ behind := by
      split at hFraction
      · rename_i decimals
        have hDecimals : ',' ∈ decimals := List.mem_of_ne_of_mem (by decide) hRest
        have hSpan := comma_mem_spanDigits hDecimals
        rwa [hFraction] at hSpan
      · obtain ⟨-, rfl⟩ := Prod.mk.inj hFraction
        exact hRest
    rw [exponent?_eq_none_of_comma hBehind]
    rfl

theorem parse?_eq_none_of_comma {text : String} (hComma : ',' ∈ text.toList) :
    parse? text = none := by
  unfold parse?
  split
  · rename_i digits hText
    rw [hText] at hComma
    rw [unsigned?_eq_none_of_comma (List.mem_of_ne_of_mem (by decide) hComma)]
    rfl
  · rename_i digits hText
    rw [hText] at hComma
    exact unsigned?_eq_none_of_comma (List.mem_of_ne_of_mem (by decide) hComma)
  · exact unsigned?_eq_none_of_comma hComma

end Decimal

end ClusterBootstrap
