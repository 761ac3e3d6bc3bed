
/-! # Stores of files

A store is a tree of directories and files.  A location leads from the top of
the tree to a node by names; a file knows when it was last written.

* `Store.node?` — what is at a location;
* `Store.put` / `Store.remove` — a store with a node changed or gone;
* `ListingOrder` — how a file system orders the names in a directory;
* `Store.names` — what a directory lists.
-/

namespace Stencil

/-- The names that lead from the top of a store to a node. -/
abbrev Location := List (List Char)

/-- A point in time, in nanoseconds since 1970. -/
abbrev Time := Int

/-- What can be at a location. -/
inductive Node where
  | directory
  | file (contents : ByteArray) (written : Time)

/-- A tree of files: the nodes that are not the top, by their locations. -/
structure Store where
  nodes : List (Location × Node) := []

/-- The order in which directories list their names, which is up to the file system. -/
class ListingOrder where
  arrange : List (List Char) → List (List Char)
  arrange_perm : ∀ names, (arrange names).Perm names

namespace Store

/-- What is at a location.  The top is always a directory. -/
def node? (store : Store) (location : Location) : Option Node :=
  if location = [] then some .directory else store.nodes.lookup location

/-- The store without a node. -/
def remove (store : Store) (location : Location) : Store :=
  ⟨store.nodes.filter (·.1 ≠ location)⟩

/-- The store with a node at a location, in place of what may be there. -/
def put (store : Store) (location : Location) (node : Node) : Store :=
  ⟨(location, node) :: (store.remove location).nodes⟩

/-- Whether a location holds a file. -/
def isFile (store : Store) (location : Location) : Bool :=
  match store.node? location with
  | some (.file _ _) => true
  | _ => false

/-- Whether a location holds a directory. -/
def isDirectory (store : Store) (location : Location) : Bool :=
  match store.node? location with
  | some .directory => true
  | _ => false

/-- When the file at a location was written. -/
def written? (store : Store) (location : Location) : Option Time :=
  match store.node? location with
  | some (.file _ time) => some time
  | _ => none

/-- All files, with their locations. -/
def files (store : Store) : List (Location × ByteArray) :=
  store.nodes.filterMap fun
    | (location, .file contents _) => some (location, contents)
    | (_, .directory) => none

/-- The names that a directory lists. -/
def names [ListingOrder] (store : Store) (directory : Location) : List (List Char) :=
  ListingOrder.arrange <| store.nodes.filterMap fun (location, _) =>
    if location.dropLast = directory then location.getLast? else none

/-! ## Laws -/

/-- A look-up does not see that entries of another key are left out. -/
theorem lookup_filter_of_ne {α : Type} {key other : Location} (different : other ≠ key)
    (entries : List (Location × α)) :
    (entries.filter (·.1 ≠ key)).lookup other = entries.lookup other := by
  induction entries with
  | nil => rfl
  | cons entry entries ih =>
    obtain ⟨name, value⟩ := entry
    by_cases same : name = key
    · have apart : (other == name) = false := by simpa [same] using different
      rw [List.filter_cons_of_neg (by simpa using same), ih, List.lookup_cons, apart]
    · rw [List.filter_cons_of_pos (by simpa using same), List.lookup_cons, List.lookup_cons, ih]

/-- A look-up of a key whose entries are left out finds nothing. -/
theorem lookup_filter_self {α : Type} (key : Location) (entries : List (Location × α)) :
    (entries.filter (·.1 ≠ key)).lookup key = none := by
  rw [List.lookup_eq_none_iff]
  intro entry kept
  have different : entry.1 ≠ key := by simpa using (List.mem_filter.1 kept).2
  simpa using different.symm

/-- A location holds what was put there. -/
theorem node?_put_self {store : Store} {location : Location} {node : Node}
    (below : location ≠ []) : (store.put location node).node? location = some node := by
  simp [node?, put, below]

/-- Putting a node leaves all other locations alone. -/
theorem node?_put_of_ne {store : Store} {location other : Location} {node : Node}
    (different : other ≠ location) : (store.put location node).node? other = store.node? other := by
  have apart : (other == location) = false := by simpa using different
  simp only [node?, put, remove, List.lookup_cons, apart, lookup_filter_of_ne different]

/-- A location from which the node was removed holds nothing. -/
theorem node?_remove_self {store : Store} {location : Location} (below : location ≠ []) :
    (store.remove location).node? location = none := by
  simp only [node?, remove, below, if_false, lookup_filter_self]

/-- Removing a node leaves all other locations alone. -/
theorem node?_remove_of_ne {store : Store} {location other : Location}
    (different : other ≠ location) : (store.remove location).node? other = store.node? other := by
  simp only [node?, remove, lookup_filter_of_ne different]

end Store

end Stencil
