/-! # JSON values

The values that programs and settings are written as.  Numbers are whole
numbers; the members of an object keep their order.
-/

namespace Stencil

/-- A JSON value. -/
inductive Json where
  | null
  | bool (value : Bool)
  | number (value : Int)
  | string (text : List Char)
  | array (items : List Json)
  | object (members : List (List Char × Json))
  deriving Repr, Inhabited

/-- The value of an object's member, the first one with the name. -/
def Json.member? (name : List Char) : Json → Option Json
  | .object members => members.lookup name
  | _ => none

/-- A member is smaller than the list of members it stands in. -/
theorem Json.sizeOf_lookup {name : List Char} {members : List (List Char × Json)} {value : Json}
    (found : members.lookup name = some value) : sizeOf value < sizeOf members := by
  induction members with
  | nil => simp at found
  | cons first others ih =>
    obtain ⟨key, json⟩ := first
    simp only [List.lookup_cons] at found
    simp only [List.cons.sizeOf_spec, Prod.mk.sizeOf_spec]
    split at found
    · simp only [Option.some.injEq] at found
      subst found
      omega
    · have := ih found
      omega

end Stencil
