import ClusterBootstrap.Decimal.Digits

/-!
# Endpoints

An endpoint is written `host:port`.  The last colon divides the two, so that the host may contain
colons itself.  A port is written in decimal, with leading zeros and one plus sign allowed.
-/

namespace ClusterBootstrap.Endpoint

/-- The parts before and after the last colon of a text. -/
def splitLastColon : List Char → Option (List Char × List Char)
  | [] => none
  | c :: cs =>
    match splitLastColon cs with
    | some (host, port) => some (c :: host, port)
    | none => if c = ':' then some ([], cs) else none

/-- The digits of a number after its optional plus sign. -/
def unsignedDigits : List Char → List Char
  | '+' :: digits => digits
  | digits => digits

/-- Reads a port: at least one digit, and a value from 1 to 65535. -/
def port? (text : List Char) : Option Nat :=
  (Decimal.natural? (unsignedDigits text)).filter fun n => 1 ≤ n && n ≤ 65535

/-! ## The last colon -/

/-- Only a text without a colon cannot be divided. -/
theorem splitLastColon_eq_none_iff {text : List Char} :
    splitLastColon text = none ↔ ':' ∉ text := by
  induction text with
  | nil => simp [splitLastColon]
  | cons c cs ih =>
    unfold splitLastColon
    split
    · rename_i hSome
      have hMem : ':' ∈ cs := by
        rw [← Classical.not_not (a := ':' ∈ cs), ← ih, hSome]
        simp
      simp [hMem]
    · rename_i hNone
      have hNotMem := ih.mp hNone
      split
      · rename_i hColon
        simp [hColon]
      · rename_i hNe
        simp [hNotMem, Ne.symm hNe]

/-- The two parts make up the text again, and the colon between them is the last one. -/
theorem splitLastColon_eq_some_iff {text host port : List Char} :
    splitLastColon text = some (host, port) ↔ text = host ++ ':' :: port ∧ ':' ∉ port := by
  induction text generalizing host port with
  | nil => simp [splitLastColon]
  | cons c cs ih =>
    unfold splitLastColon
    split
    · rename_i h p hSome
      obtain ⟨hEq, hLast⟩ := ih.mp hSome
      constructor
      · rintro h'
        obtain ⟨rfl, rfl⟩ := Prod.mk.injEq .. ▸ Option.some.inj h'
        exact ⟨by simp [hEq], hLast⟩
      · rintro ⟨hText, hPort⟩
        cases host with
        | nil =>
          obtain ⟨_, rfl⟩ := List.cons.inj hText
          exact absurd (by simp [hEq]) hPort
        | cons d host =>
          obtain ⟨rfl, hRest⟩ := List.cons.inj hText
          have := ih.mpr ⟨hRest, hPort⟩
          rw [hSome] at this
          simp_all
    · rename_i hNone
      have hNotMem := splitLastColon_eq_none_iff.mp hNone
      constructor
      · intro h'
        split at h'
        · rename_i hColon
          obtain ⟨rfl, rfl⟩ := Prod.mk.injEq .. ▸ Option.some.inj h'
          exact ⟨by simp [hColon], hNotMem⟩
        · simp at h'
      · rintro ⟨hText, hPort⟩
        cases host with
        | nil =>
          obtain ⟨rfl, rfl⟩ := List.cons.inj hText
          simp
        | cons d host =>
          obtain ⟨_, hRest⟩ := List.cons.inj hText
          exact absurd (by simp [hRest]) hNotMem

end ClusterBootstrap.Endpoint
