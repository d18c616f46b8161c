import ClusterBootstrap.Json.Decoder
import ClusterBootstrap.Proofs.Except
import Mathlib.Data.List.Forall2

/-!
# How records are read

A record stands in an object, under the names of its fields, or in an array, at their places.  Where a
field that may be missing from the object may be missing from the end of the array too, the second is
nothing but the first: the array is read like the object that gives each item the name of its place.
-/

namespace ClusterBootstrap.Json

/-! ## Forms of records -/

/-- The members of a record with fields of these names: those of an object, or the items of an array under
the names of their places, of which an array may have fewer but not more. -/
inductive Members (names : List String) : Json → List (String × Json) → Prop where
  | object {members : List (String × Json)} : Members names (.object members) members
  | array {items : List Json} (hLength : items.length ≤ names.length) :
    Members names (.array items) (names.zip items)

/-- A text. -/
def Text (json : Json) (s : String) : Prop := json = .string s

/-- A value that may be null, which stands for none. -/
inductive Nullable {α : Type} (form : Json → α → Prop) : Json → Option α → Prop where
  | null : Nullable form .null none
  | some {json : Json} {a : α} (hNull : json ≠ .null) (hForm : form json a) :
    Nullable form json (some a)

/-- A member that may be absent, and otherwise has its form. -/
inductive Default {α : Type} (form : Json → α → Prop) (value : α) : Option Json → α → Prop where
  | absent : Default form value none value
  | present {json : Json} {a : α} (hForm : form json a) : Default form value (some json) a

variable {α β : Type} {name : String} {names : List String} {members : List (String × Json)}

/-- The one member of a record with one field: in an object, or alone in an array, or not at all. -/
theorem exists_members_singleton_iff {json : Json} {member : Option Json} :
    (∃ members, Members [name] json members ∧ members.lookup name = member) ↔
      (∃ members, json = .object members ∧ members.lookup name = member) ∨
        (json = .array [] ∧ member = none) ∨
          ∃ item, json = .array [item] ∧ member = some item := by
  constructor
  · rintro ⟨members, hMembers, hLookup⟩
    cases hMembers with
    | object => exact .inl ⟨members, rfl, hLookup⟩
    | @array items hLength =>
      match items, hLength with
      | [], _ => exact .inr (.inl ⟨rfl, hLookup.symm⟩)
      | [item], _ => exact .inr (.inr ⟨item, rfl, by simpa [eq_comm] using hLookup⟩)
  · rintro (⟨members, rfl, hLookup⟩ | ⟨rfl, rfl⟩ | ⟨item, rfl, rfl⟩)
    · exact ⟨members, .object, hLookup⟩
    · exact ⟨_, .array (by simp), rfl⟩
    · exact ⟨_, .array (by simp), by simp⟩

/-! ## Values -/

theorem Decoder.string_eq_ok_iff (json : Json) (s : String) :
    Decoder.string json = .ok s ↔ Text json s := by
  unfold Text
  cases json <;> simp [Decoder.string]

theorem Decoder.option_eq_ok_iff {decode : Decoder α} {form : Json → α → Prop}
    (hForm : ∀ json a, decode json = .ok a ↔ form json a) (json : Json) (a : Option α) :
    Decoder.option decode json = .ok a ↔ Nullable form json a := by
  by_cases hNull : json = .null
  · subst hNull
    constructor
    · rintro ⟨⟩
      exact .null
    · rintro (_ | ⟨hNull, -⟩)
      · rfl
      · exact absurd rfl hNull
  · have hOther : Decoder.option decode json = (decode json).map .some := by
      cases json <;> first | rfl | exact absurd rfl hNull
    rw [hOther, map_eq_ok_iff]
    constructor
    · rintro ⟨b, hDecode, rfl⟩
      exact .some hNull ((hForm json b).mp hDecode)
    · rintro (_ | ⟨-, hSome⟩)
      · exact absurd rfl hNull
      · exact ⟨_, (hForm json _).mpr hSome, rfl⟩

theorem mapM_eq_ok_iff {decode : Decoder α} {form : Json → α → Prop}
    (hForm : ∀ json a, decode json = .ok a ↔ form json a) {items : List Json} {as : List α} :
    items.mapM decode = .ok as ↔ List.Forall₂ form items as := by
  induction items generalizing as with
  | nil => simp [pure, Except.pure, eq_comm]
  | cons item items ih =>
    rw [List.mapM_cons, List.forall₂_cons_left_iff]
    constructor
    · intro hAll
      obtain ⟨a, hDecode, hRest⟩ := bind_eq_ok_iff.mp hAll
      obtain ⟨rest, hItems, hCons⟩ := bind_eq_ok_iff.mp hRest
      cases hCons
      exact ⟨a, rest, (hForm item a).mp hDecode, ih.mp hItems, rfl⟩
    · rintro ⟨a, rest, hItem, hItems, rfl⟩
      refine bind_eq_ok_iff.mpr ⟨a, (hForm item a).mpr hItem, ?_⟩
      exact bind_eq_ok_iff.mpr ⟨rest, ih.mpr hItems, rfl⟩

/-- A list has a counterpart in a relation exactly where all its elements have one. -/
theorem exists_forall₂_iff {γ : Type} {r : γ → α → Prop} {xs : List γ} :
    (∃ as, List.Forall₂ r xs as) ↔ ∀ x ∈ xs, ∃ a, r x a := by
  induction xs with
  | nil => simp
  | cons x xs ih =>
    simp only [List.forall₂_cons_left_iff, List.forall_mem_cons, ← ih]
    constructor
    · rintro ⟨_, a, as, hHead, hTail, rfl⟩
      exact ⟨⟨a, hHead⟩, as, hTail⟩
    · rintro ⟨⟨a, hHead⟩, as, hTail⟩
      exact ⟨_, a, as, hHead, hTail, rfl⟩

/-- The items of an array are decoded one by one and in their order, and none is left out. -/
theorem Decoder.list_eq_ok_iff {decode : Decoder α} {form : Json → α → Prop}
    (hForm : ∀ json a, decode json = .ok a ↔ form json a) (json : Json) (as : List α) :
    Decoder.list decode json = .ok as ↔
      ∃ items, json = .array items ∧ List.Forall₂ form items as := by
  cases json <;> simp [Decoder.list, mapM_eq_ok_iff hForm]

/-! ## Fields by name -/

theorem Collected.seq_eq_complete_iff {f : Collected (α → β)} {x : Collected α} {b : β} :
    f.seq x = .complete b ↔ ∃ g a, f = .complete g ∧ x = .complete a ∧ g a = b := by
  cases f with
  | complete g => cases x <;> simp [seq]
  | missing n => cases x <;> simp [seq]
  | wrong n d =>
    cases x with
    | wrong m e =>
      simp only [seq]
      split <;> simp
    | _ => simp [seq]

theorem Collected.toExcept_eq_ok_iff {x : Collected α} {a : α} :
    x.toExcept = .ok a ↔ x = .complete a := by
  cases x <;> simp [toExcept]

namespace Fields

theorem ofMembers_seq_eq_complete_iff {f : Fields (α → β)} {x : Fields α} {b : β} :
    (f <*> x).ofMembers members = .complete b ↔
      ∃ a, x.ofMembers members = .complete a ∧ ∃ g, f.ofMembers members = .complete g ∧ g a = b := by
  refine Collected.seq_eq_complete_iff.trans ⟨?_, ?_⟩
  · rintro ⟨g, a, hg, ha, hb⟩
    exact ⟨a, ha, g, hg, hb⟩
  · rintro ⟨a, ha, g, hg, hb⟩
    exact ⟨g, a, hg, ha, hb⟩

/-- The same with what is said of the value, so that a row of fields is told one after the other. -/
theorem exists_ofMembers_seq_iff {f : Fields (α → β)} {x : Fields α} {p : β → Prop} :
    (∃ b, (f <*> x).ofMembers members = .complete b ∧ p b) ↔
      ∃ a, x.ofMembers members = .complete a ∧
        ∃ g, f.ofMembers members = .complete g ∧ p (g a) := by
  simp only [ofMembers_seq_eq_complete_iff]
  constructor
  · rintro ⟨_, ⟨a, ha, g, hg, rfl⟩, hSays⟩
    exact ⟨a, ha, g, hg, hSays⟩
  · rintro ⟨a, ha, g, hg, hSays⟩
    exact ⟨_, ⟨a, ha, g, hg, rfl⟩, hSays⟩

theorem ofMembers_map_eq_complete_iff {g : α → β} {x : Fields α} {b : β} :
    (g <$> x).ofMembers members = .complete b ↔
      ∃ a, x.ofMembers members = .complete a ∧ g a = b := by
  have hMap : (g <$> x).ofMembers members = (Fields.pure g <*> x).ofMembers members := rfl
  rw [hMap, ofMembers_seq_eq_complete_iff]
  simp [Fields.pure]

theorem exists_ofMembers_map_iff {g : α → β} {x : Fields α} {p : β → Prop} :
    (∃ b, (g <$> x).ofMembers members = .complete b ∧ p b) ↔
      ∃ a, x.ofMembers members = .complete a ∧ p (g a) := by
  simp only [ofMembers_map_eq_complete_iff]
  constructor
  · rintro ⟨_, ⟨a, ha, rfl⟩, hSays⟩
    exact ⟨a, ha, hSays⟩
  · rintro ⟨a, ha, hSays⟩
    exact ⟨_, ⟨a, ha, rfl⟩, hSays⟩

theorem ofMembers_required_eq_complete_iff {decode : Decoder α} {a : α} :
    (required name decode).ofMembers members = .complete a ↔
      ∃ json, members.lookup name = some json ∧ decode json = .ok a := by
  simp only [required, field]
  cases members.lookup name with
  | none => simp
  | some json => cases hDecode : decode json <;> simp [hDecode]

theorem ofMembers_defaulted_eq_complete_iff {decode : Decoder α} {form : Json → α → Prop}
    {value a : α} (hForm : ∀ json a, decode json = .ok a ↔ form json a) :
    (defaulted name decode value).ofMembers members = .complete a ↔
      Default form value (members.lookup name) a := by
  simp only [defaulted, field]
  cases members.lookup name with
  | none =>
    constructor
    · rintro ⟨⟩
      exact .absent
    · rintro ⟨⟩
      rfl
  | some json =>
    constructor
    · intro hComplete
      cases hDecode : decode json with
      | error fault => simp [hDecode] at hComplete
      | ok b =>
        obtain rfl : b = a := by simpa [hDecode] using hComplete
        exact .present ((hForm json b).mp hDecode)
    · rintro (_ | hPresent)
      simp [(hForm json a).mpr hPresent]

theorem ofMembers_option_eq_complete_iff {decode : Decoder α} {form : Json → α → Prop}
    {a : Option α} (hForm : ∀ json a, decode json = .ok a ↔ form json a) :
    (defaulted name (Decoder.option decode) none).ofMembers members = .complete a ↔
      Default (Nullable form) none (members.lookup name) a :=
  ofMembers_defaulted_eq_complete_iff (Decoder.option_eq_ok_iff hForm)

/-! ## Fields by place -/

/-- Fields of these names that are read from the items of an array as from members which give the items the
names of their places. -/
structure Uniform (fields : Fields α) (names : List String) : Prop where
  /-- Only members of these names count. -/
  ofMembers_congr : ∀ {members others : List (String × Json)},
    (∀ name ∈ names, members.lookup name = others.lookup name) →
      fields.ofMembers members = fields.ofMembers others
  ofItems_iff : ∀ {expected : String} {taken : Nat} {items rest : List Json} {a : α},
    (∃ now, fields.ofItems expected ⟨taken, items⟩ = .ok (a, ⟨now, rest⟩)) ↔
      fields.ofMembers (names.zip items) = .complete a ∧ rest = items.drop names.length

theorem uniform_required (name : String) (decode : Decoder α) :
    Uniform (required name decode) [name] where
  ofMembers_congr hSame := by simp [required, field, hSame name]
  ofItems_iff := by
    intro expected taken items rest a
    rw [ofMembers_required_eq_complete_iff]
    cases items with
    | nil => simp [required, field]
    | cons item items =>
      cases hDecode : decode item <;>
        simp [required, field, hDecode, Except.map, eq_comm]

theorem uniform_defaulted (name : String) (decode : Decoder α) (value : α) :
    Uniform (defaulted name decode value) [name] where
  ofMembers_congr hSame := by simp [defaulted, field, hSame name]
  ofItems_iff := by
    intro expected taken items rest a
    cases items with
    | nil => simp [defaulted, field, eq_comm]
    | cons item items =>
      cases hDecode : decode item <;>
        simp [defaulted, field, hDecode, Except.map, eq_comm]

theorem zip_append_left (ns ms : List String) (items : List Json) :
    (ns ++ ms).zip items = ns.zip items ++ ms.zip (items.drop ns.length) := by
  induction ns generalizing items with
  | nil => simp
  | cons name ns ih =>
    cases items with
    | nil => simp
    | cons item items => simp [ih]

theorem lookup_zip_of_not_mem {names : List String} {items : List Json} {name : String}
    (hNot : name ∉ names) : (names.zip items).lookup name = none := by
  rw [List.lookup_eq_none_iff]
  rintro ⟨other, item⟩ hMem
  have hOther := (List.of_mem_zip hMem).1
  simpa using fun hSame : name = other => hNot (hSame ▸ hOther)

theorem Uniform.seq {f : Fields (α → β)} {x : Fields α} {ns ms : List String}
    (hf : Uniform f ns) (hx : Uniform x ms) (hDisjoint : ∀ name ∈ ms, name ∉ ns) :
    Uniform (f <*> x) (ns ++ ms) where
  ofMembers_congr {members others} hSame := by
    have hLeft := hf.ofMembers_congr fun name hMem =>
      hSame name (List.mem_append_left ms hMem)
    have hRight := hx.ofMembers_congr fun name hMem =>
      hSame name (List.mem_append_right ns hMem)
    exact congrArg₂ Collected.seq hLeft hRight
  ofItems_iff {expected taken items rest b} := by
    -- each side finds its own members among those of both
    have hLeft : f.ofMembers ((ns ++ ms).zip items) = f.ofMembers (ns.zip items) := by
      refine hf.ofMembers_congr fun name hMem => ?_
      have hNot : name ∉ ms := fun hOther => hDisjoint name hOther hMem
      rw [zip_append_left, List.lookup_append, lookup_zip_of_not_mem hNot, Option.or_none]
    have hRight : x.ofMembers ((ns ++ ms).zip items) =
        x.ofMembers (ms.zip (items.drop ns.length)) := by
      refine hx.ofMembers_congr fun name hMem => ?_
      rw [zip_append_left, List.lookup_append, lookup_zip_of_not_mem (hDisjoint name hMem),
        Option.none_or]
    rw [ofMembers_seq_eq_complete_iff, hLeft, hRight, List.length_append, ← List.drop_drop]
    constructor
    · rintro ⟨now, hItems⟩
      obtain ⟨⟨g, between, middle⟩, hFirst, hRest⟩ := bind_eq_ok_iff.mp hItems
      obtain ⟨⟨a, last⟩, hSecond, hEnd⟩ := bind_eq_ok_iff.mp hRest
      cases hEnd
      obtain ⟨hg, rfl⟩ := hf.ofItems_iff.mp ⟨between, hFirst⟩
      obtain ⟨ha, hDrop⟩ := hx.ofItems_iff.mp ⟨now, hSecond⟩
      exact ⟨⟨a, ha, g, hg, rfl⟩, hDrop⟩
    · rintro ⟨⟨a, ha, g, hg, rfl⟩, hDrop⟩
      obtain ⟨between, hFirst⟩ := (@hf.ofItems_iff expected taken items _ g).mpr ⟨hg, rfl⟩
      obtain ⟨now, hSecond⟩ := (@hx.ofItems_iff expected between _ rest a).mpr ⟨ha, hDrop⟩
      refine ⟨now, bind_eq_ok_iff.mpr ⟨_, hFirst, ?_⟩⟩
      exact bind_eq_ok_iff.mpr ⟨_, hSecond, rfl⟩

theorem uniform_pure (a : α) : Uniform (Fields.pure a) [] where
  ofMembers_congr _ := rfl
  ofItems_iff := by
    intro expected taken items rest b
    simp [Fields.pure, eq_comm]

theorem Uniform.map {x : Fields α} {names : List String} (hx : Uniform x names) (g : α → β) :
    Uniform (g <$> x) names :=
  (uniform_pure g).seq hx (by simp)

/-- A record is read from its members, wherever these stand. -/
theorem Uniform.record_eq_ok_iff {fields : Fields α} {names : List String}
    (hFields : Uniform fields names) {name : String} {size : Nat} {json : Json} {a : α} :
    record name size fields json = .ok a ↔
      ∃ members, Members names json members ∧ fields.ofMembers members = .complete a := by
  cases json with
  | object members =>
    simp only [record]
    rw [Collected.toExcept_eq_ok_iff]
    constructor
    · exact fun hComplete => ⟨members, .object, hComplete⟩
    · rintro ⟨_, ⟨⟩, hComplete⟩
      exact hComplete
  | array items =>
    constructor
    · intro hRecord
      obtain ⟨⟨b, now, rest⟩, hItems, hEnd⟩ := bind_eq_ok_iff.mp hRecord
      obtain ⟨hComplete, rfl⟩ := hFields.ofItems_iff.mp ⟨now, hItems⟩
      -- no item may be left over
      dsimp only at hEnd
      split at hEnd
      · rename_i hEmpty
        cases hEnd
        exact ⟨_, .array (by simpa using hEmpty), hComplete⟩
      · cases hEnd
    · rintro ⟨members, hMembers, hComplete⟩
      obtain _ | hLength := hMembers
      obtain ⟨now, hItems⟩ := (@hFields.ofItems_iff _ 0 items _ a).mpr ⟨hComplete, rfl⟩
      refine bind_eq_ok_iff.mpr ⟨_, hItems, ?_⟩
      simp [List.drop_eq_nil_of_le hLength, pure, Except.pure]
  | _ =>
    constructor
    · intro hRecord
      cases hRecord
    · rintro ⟨_, ⟨⟩, -⟩

end Fields

end ClusterBootstrap.Json
