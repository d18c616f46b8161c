import ClusterBootstrap.Proofs.Json.Records
import ClusterBootstrap.Proofs.Json.RoundTrip

/-!
# Members told by name

The fields of a record are looked up by their names, so that the order in which its members are written
does not count.  A document that was read lists the members of every object by ascending names; for a
record that is the same as the order in which they were written.
-/

namespace ClusterBootstrap.Json

variable {α β : Type} {name : String} {members others : List (String × Json)}

/-! ## Members in normal form -/

theorem lookup_cons_eq (name : String) (m : String × Json) (members : List (String × Json)) :
    (m :: members).lookup name = if name = m.1 then some m.2 else members.lookup name := by
  rw [List.lookup_cons]
  by_cases hSame : name = m.1
  · simp [hSame]
  · simp [hSame, beq_false_of_ne hSame]

theorem lookup_insertMember (name other : String) (value : Json)
    (members : List (String × Json)) :
    (insertMember name value members).lookup other =
      if other = name then some value else members.lookup other := by
  induction members with
  | nil => exact lookup_cons_eq other (name, value) []
  | cons m rest ih =>
    unfold insertMember
    split
    · exact lookup_cons_eq other (name, value) _
    · split
      · -- the member that is replaced is the one that would have been found
        rename_i hName
        rw [lookup_cons_eq, lookup_cons_eq, hName]
        split <;> rfl
      · rename_i hName
        rw [lookup_cons_eq, lookup_cons_eq, ih]
        by_cases hSame : other = name
        · simp [hSame, hName]
        · simp [hSame]

/-- Where no name comes twice, the order in which members are put in does not count. -/
theorem lookup_foldl_insertMember (hDistinct : (members.map Prod.fst).Nodup)
    (sorted : List (String × Json)) (name : String) :
    (members.foldl (fun sorted m => insertMember m.1 m.2 sorted) sorted).lookup name =
      (members.lookup name).or (sorted.lookup name) := by
  induction members generalizing sorted with
  | nil => rfl
  | cons m rest ih =>
    obtain ⟨hFirst, hRest⟩ := List.nodup_cons.mp hDistinct
    rw [List.foldl_cons, ih hRest, lookup_insertMember, lookup_cons_eq]
    by_cases hSame : name = m.1
    · have hNone : rest.lookup name = none := by
        rw [List.lookup_eq_none_iff]
        intro other hMem
        have hNe : name ≠ other.1 := by
          rintro rfl
          exact hFirst (hSame ▸ List.mem_map_of_mem hMem)
        simpa using hNe
      simp [hSame, hSame ▸ hNone]
    · simp [hSame]

/-- An object has the same members in normal form, if their values are in normal form and no name comes
twice. -/
theorem exists_normal_object {json : Json} (hJson : json = .object members)
    (hDistinct : (members.map Prod.fst).Nodup) (hValues : normalMembers members = members) :
    ∃ others, json.normal = .object others ∧
      ∀ name, others.lookup name = members.lookup name := by
  subst hJson
  refine ⟨_, by rw [normal, hValues, ofMembers], fun name => ?_⟩
  rw [lookup_foldl_insertMember hDistinct, List.lookup_nil, Option.or_none]

/-! ## Fields that are told -/

namespace Fields

/-- The members of an object tell the value of some fields. -/
def Told (fields : Fields α) (members : List (String × Json)) (a : α) : Prop :=
  fields.ofMembers members = .complete a

theorem told_field {decode : Decoder α} {absent : Option α} {atEnd : AtEnd α} {json : Json} {a : α}
    (hLookup : members.lookup name = some json) (hDecode : decode json = .ok a) :
    Told (field name decode absent atEnd) members a := by
  simp [Told, field, hLookup, hDecode]

theorem told_required {decode : Decoder α} {json : Json} {a : α}
    (hLookup : members.lookup name = some json) (hDecode : decode json = .ok a) :
    Told (required name decode) members a :=
  told_field hLookup hDecode

theorem told_optional {decode : Decoder α} {json : Json} {a : Option α}
    (hLookup : members.lookup name = some json) (hDecode : Decoder.option decode json = .ok a) :
    Told (optional name decode) members a :=
  told_field hLookup hDecode

theorem Told.seq {f : Fields (α → β)} {x : Fields α} {g : α → β} {a : α}
    (hf : Told f members g) (hx : Told x members a) : Told (f <*> x) members (g a) :=
  ofMembers_seq_eq_complete_iff.mpr ⟨a, hx, g, hf, rfl⟩

theorem Told.map {x : Fields α} {a : α} (hx : Told x members a) (g : α → β) :
    Told (g <$> x) members (g a) :=
  ofMembers_map_eq_complete_iff.mpr ⟨a, hx, rfl⟩

theorem Told.record {fields : Fields α} {a : α} (h : Told fields members a) (name : String)
    (size : Nat) : record name size fields (.object members) = .ok a :=
  Collected.toExcept_eq_ok_iff.mpr h

end Fields

end ClusterBootstrap.Json
