import ClusterBootstrap.Json.Decoder

/-!
# Sets of role names

The roles a cluster knows form a set.  It is kept as the ascending list of its names, so that equal
sets are equal values and every listing of them has the same order.
-/

namespace ClusterBootstrap

/-- A set of role names. -/
structure RoleSet where
  /-- The names, each once. -/
  names : List String
  ascending : names.Pairwise (· < ·)
  deriving DecidableEq

namespace RoleSet

/-- Puts a name at its place in an ascending list, unless it is there already. -/
def place (name : String) : List String → List String
  | [] => [name]
  | other :: rest =>
    if name < other then name :: other :: rest
    else if name = other then other :: rest
    else other :: place name rest

theorem mem_place {name x : String} {names : List String} :
    x ∈ place name names ↔ x = name ∨ x ∈ names := by
  induction names with
  | nil => simp [place]
  | cons other rest ih =>
    unfold place
    split
    · simp
    · split
      · rename_i hEq
        simp [hEq]
      · simp only [List.mem_cons, ih]
        exact or_left_comm

theorem ascending_place (name : String) {names : List String}
    (hAsc : names.Pairwise (· < ·)) : (place name names).Pairwise (· < ·) := by
  induction names with
  | nil => simp [place]
  | cons other rest ih =>
    obtain ⟨hHead, hRest⟩ := List.pairwise_cons.mp hAsc
    unfold place
    split
    · rename_i hLt
      refine List.pairwise_cons.mpr ⟨fun x hx => ?_, hAsc⟩
      rcases List.mem_cons.mp hx with rfl | h
      · exact hLt
      · exact String.lt_trans hLt (hHead x h)
    · rename_i hNotLt
      split
      · exact hAsc
      · rename_i hNe
        refine List.pairwise_cons.mpr ⟨fun x hx => ?_, ih hRest⟩
        rcases mem_place.mp hx with rfl | h
        · exact Std.lt_of_le_of_ne (String.not_lt.mp hNotLt) (Ne.symm hNe)
        · exact hHead x h

/-- The empty set. -/
def empty : RoleSet := ⟨[], .nil⟩

/-- The set with one more name. -/
def insert (set : RoleSet) (name : String) : RoleSet :=
  ⟨place name set.names, ascending_place name set.ascending⟩

/-- The names of a list, in any order and with repetitions. -/
def ofList (names : List String) : RoleSet :=
  names.foldl insert empty

/-- Whether a name is in the set. -/
def contains (set : RoleSet) (name : String) : Bool :=
  set.names.contains name

/-- The number of names. -/
def size (set : RoleSet) : Nat := set.names.length

instance : Inhabited RoleSet := ⟨empty⟩

theorem mem_names_insert {set : RoleSet} {name x : String} :
    x ∈ (set.insert name).names ↔ x = name ∨ x ∈ set.names :=
  mem_place

theorem mem_names_foldl_insert {names : List String} {set : RoleSet} {x : String} :
    x ∈ (names.foldl insert set).names ↔ x ∈ names ∨ x ∈ set.names := by
  induction names generalizing set with
  | nil => simp
  | cons name rest ih =>
    simp only [List.foldl_cons, ih, mem_names_insert, List.mem_cons]
    exact ⟨fun h => by rcases h with h | h | h <;> simp [h],
      fun h => by rcases h with (h | h) | h <;> simp [h]⟩

/-- A set has exactly the names of the list it was built from. -/
theorem mem_names_ofList {names : List String} {x : String} :
    x ∈ (ofList names).names ↔ x ∈ names := by
  simp [ofList, mem_names_foldl_insert, empty]

theorem contains_iff {set : RoleSet} {name : String} :
    set.contains name = true ↔ name ∈ set.names := by
  simp [contains]

/-- A set as an array in ascending order. -/
def toJson (set : RoleSet) : Json := .strings set.names

/-- Reads an array of names in any order. -/
def decode : Json.Decoder RoleSet :=
  fun json => (Json.Decoder.list Json.Decoder.string json).map ofList

end RoleSet

end ClusterBootstrap
