import InAppMessaging.Json.Decode

/-!
# Looking into a tree

Members of an object by name, for readers that take what they know and do not care for the
rest.  Of several members of one name the first one counts, and what comes after the place
where the text stops being JSON is not there.

* `Members.find?_toList` — looking a name up is looking it up in the list of members.
-/

namespace InAppMessaging.Json

/-- The items of an array. -/
def Items.toList : Items → List Tree
  | .cons head tail => head :: tail.toList
  | .done | .cut _ => []

/-- The members of an object whose names can be read. -/
def Members.toList : Members → List (String × Tree)
  | .cons key value tail =>
      match key.text with
      | .ok name => (name, value) :: tail.toList
      | .error _ => tail.toList
  | .done | .cut _ | .keyless _ _ => []

/-- The value of the first member of a name. -/
def Members.find? (name : String) : Members → Option Tree
  | .cons key value tail =>
      match key.text with
      | .ok other => if other = name then some value else tail.find? name
      | .error _ => tail.find? name
  | .done | .cut _ | .keyless _ _ => none

/-- Looking a name up is looking it up in the list of members. -/
theorem Members.find?_toList (name : String) :
    ∀ members : Members,
      members.find? name = (members.toList.find? fun m => m.1 = name).map (·.2)
  | .done | .cut _ | .keyless _ _ => rfl
  | .cons key value tail => by
      have ih := find?_toList name tail
      unfold find? toList
      split
      · next other _ => by_cases h : other = name <;> simp [h, ih]
      · exact ih

/-- A member that is there, even if it is null. -/
def Tree.member? (t : Tree) (name : String) : Option Tree :=
  match t with
  | .object members => members.find? name
  | _ => none

/-- A member that is there and not null. -/
def Tree.given? (t : Tree) (name : String) : Option Tree :=
  match t.member? name with
  | some .null => none
  | found => found

/-- The items, if the tree is an array. -/
def Tree.items? : Tree → Option (List Tree)
  | .array items => some items.toList
  | _ => none

/-- The members, if the tree is an object. -/
def Tree.members? : Tree → Option (List (String × Tree))
  | .object members => some members.toList
  | _ => none

end InAppMessaging.Json
