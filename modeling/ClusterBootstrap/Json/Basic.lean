/-!
# JSON values

The dynamic value of requests, responses and diagnostic payloads.  A number is an integer of a machine
word, signed or unsigned, or else a binary floating-point number.

An object lists its members in the order in which they are written.  Objects that were read have a
normal form, built by `ofMembers`: one member per name, names ascending.  Names compare by code point,
which is also the order of their UTF-8 bytes.
-/

namespace ClusterBootstrap

/-- A JSON value. -/
inductive Json where
  | null
  | bool (value : Bool)
  | integer (value : Int)
  | decimal (value : Float)
  | string (value : String)
  | array (items : List Json)
  | object (members : List (String × Json))
  deriving Inhabited

namespace Json

/-! ## Objects -/

/-- Sets a member, keeping the order of names; a member of that name is replaced. -/
def insertMember (name : String) (value : Json) : List (String × Json) → List (String × Json)
  | [] => [(name, value)]
  | (other, v) :: rest =>
    if name < other then (name, value) :: (other, v) :: rest
    else if name = other then (name, value) :: rest
    else (other, v) :: insertMember name value rest

/-- An object from its members in any order; of members with one name the last counts. -/
def ofMembers (members : List (String × Json)) : Json :=
  .object (members.foldl (fun sorted m => insertMember m.1 m.2 sorted) [])

/-- The member of a given name; other values than objects have none. -/
def get? (name : String) : Json → Option Json
  | .object members => members.lookup name
  | _ => none

/-- Whether an object has a member of a given name, whatever its value. -/
def hasMember (name : String) (json : Json) : Bool :=
  (json.get? name).isSome

/-! ## Views -/

/-- Whether a value is null. -/
def isNull : Json → Bool
  | .null => true
  | _ => false

/-- The text of a string. -/
def string? : Json → Option String
  | .string s => some s
  | _ => none

/-- The items of an array. -/
def items? : Json → Option (List Json)
  | .array items => some items
  | _ => none

/-- A list of texts as an array. -/
def strings (texts : List String) : Json :=
  .array (texts.map .string)

/-- A text, or null for none. -/
def ofOption : Option String → Json
  | some s => .string s
  | none => .null

@[simp] theorem get?_null (name : String) : get? name .null = none := rfl

@[simp] theorem get?_object (name : String) (members : List (String × Json)) :
    get? name (.object members) = members.lookup name := rfl

/-! ## Names in ascending order -/

/-- The names of an object's members ascend strictly. -/
def Ascending (members : List (String × Json)) : Prop :=
  members.Pairwise fun a b => a.1 < b.1

theorem mem_insertMember {name : String} {value : Json} {members : List (String × Json)}
    {m : String × Json} (hMem : m ∈ insertMember name value members) :
    m = (name, value) ∨ m ∈ members := by
  induction members with
  | nil => simpa [insertMember] using hMem
  | cons head rest ih =>
    obtain ⟨other, v⟩ := head
    unfold insertMember at hMem
    split at hMem
    · simpa using hMem
    · split at hMem
      · rcases List.mem_cons.mp hMem with h | h
        · exact .inl h
        · exact .inr (List.mem_cons_of_mem _ h)
      · rcases List.mem_cons.mp hMem with h | h
        · exact .inr (h ▸ List.mem_cons_self ..)
        · exact (ih h).imp_right (List.mem_cons_of_mem _)

theorem ascending_insertMember (name : String) (value : Json) {members : List (String × Json)}
    (hAsc : Ascending members) : Ascending (insertMember name value members) := by
  induction members with
  | nil => simp [insertMember, Ascending]
  | cons head rest ih =>
    obtain ⟨other, v⟩ := head
    have hRest : Ascending rest := (List.pairwise_cons.mp hAsc).2
    have hHead : ∀ m ∈ rest, other < m.1 := (List.pairwise_cons.mp hAsc).1
    unfold insertMember
    split
    · rename_i hLt
      refine List.pairwise_cons.mpr ⟨fun m hm => ?_, hAsc⟩
      rcases List.mem_cons.mp hm with h | h
      · exact h ▸ hLt
      · exact String.lt_trans hLt (hHead m h)
    · rename_i hNotLt
      split
      · rename_i hEq
        exact List.pairwise_cons.mpr ⟨fun m hm => hEq ▸ hHead m hm, hRest⟩
      · rename_i hNe
        refine List.pairwise_cons.mpr ⟨fun m hm => ?_, ih hRest⟩
        rcases mem_insertMember hm with h | h
        · subst h
          exact Std.lt_of_le_of_ne (String.not_lt.mp hNotLt) (Ne.symm hNe)
        · exact hHead m h

/-- The members of an object built from any members ascend. -/
theorem ascending_foldl_insertMember (members : List (String × Json))
    {sorted : List (String × Json)} (hAsc : Ascending sorted) :
    Ascending (members.foldl (fun sorted m => insertMember m.1 m.2 sorted) sorted) := by
  induction members generalizing sorted with
  | nil => exact hAsc
  | cons m rest ih => exact ih (ascending_insertMember m.1 m.2 hAsc)

end Json

end ClusterBootstrap
