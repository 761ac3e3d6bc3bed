import Mathlib.Data.List.TakeWhile
import Mathlib.Tactic.SplitIfs
import Stencil.Store.Path

/-! # Where paths lead

A store has no links, so where a path leads can be told from its text; the store
decides only whether it gets there.  Making directories and writing files keep
a store a tree, and every path that led somewhere leads there still.

* `destination` — where a path leads, if it leads anywhere;
* `Store.LeadsTo` — paths that lead to files;
* `Store.IsTree` — every node lies in a directory;
* `Store.GrowsTo` — a store in which directories were made;
* `makeDirectories_spec` — what making directories leads to;
* `resolve_inside` — the path of a file in such a directory.
-/

namespace Stencil

open Stencil.Text (byteLength splitOn)

/-! ## Paths as text -/

theorem splitOn_append (left right : List Char) :
    splitOn '/' (left ++ '/' :: right) = splitOn '/' left ++ splitOn '/' right := by
  induction left with
  | nil => simp [splitOn]
  | cons c left ih =>
    by_cases slash : c = '/'
    · simp [splitOn, slash, ih]
    · simp only [List.cons_append, splitOn, slash, if_false, ih]
      cases pieces : splitOn '/' left with
      | nil => exact absurd pieces (Text.splitOn_ne_nil '/' left)
      | cons piece pieces => rfl

theorem splitOn_of_not_mem {text : List Char} (plain : '/' ∉ text) : splitOn '/' text = [text] := by
  induction text with
  | nil => rfl
  | cons c text ih =>
    simp only [List.mem_cons, not_or] at plain
    simp [splitOn, ih plain.2, Ne.symm plain.1]

/-- A name that a directory can list. -/
structure IsFileName (name : List Char) : Prop where
  slash : '/' ∉ name
  nonempty : name ≠ []
  dot : name ≠ ['.']
  dots : name ≠ ['.', '.']

theorem IsFileName.head_ne {name : List Char} (isName : IsFileName name) : name.head? ≠ some '/' :=
  fun first => isName.slash (List.mem_of_head? first)

/-- The parts of a path inside a directory.  A slash at the end of the directory,
    or none at all, makes no difference. -/
theorem splitOn_joinPath {name : List Char} (isName : IsFileName name) (directory : List Char) :
    ∃ parts, splitOn '/' (joinPath directory name) = parts ++ [name] ∧
      (splitOn '/' directory = parts ∨ splitOn '/' directory = parts ++ [[]]) := by
  unfold joinPath
  rw [if_neg isName.head_ne]
  by_cases empty : directory = []
  · subst empty
    exact ⟨[], splitOn_of_not_mem isName.slash, .inr rfl⟩
  · by_cases ends : directory.getLast? = some '/'
    · obtain ⟨front, rfl⟩ := List.getLast?_eq_some_iff.1 ends
      refine ⟨splitOn '/' front, ?_, .inr (splitOn_append front [])⟩
      simp [splitOn_append, splitOn_of_not_mem isName.slash]
    · refine ⟨splitOn '/' directory, ?_, .inl rfl⟩
      simp [empty, ends, splitOn_append, splitOn_of_not_mem isName.slash]

theorem head?_joinPath {name : List Char} (isName : IsFileName name) (directory : List Char) :
    (joinPath directory name).head? = some '/' ↔ directory.head? = some '/' := by
  unfold joinPath
  rw [if_neg isName.head_ne]
  cases directory with
  | nil => simpa using isName.head_ne
  | cons c directory =>
    by_cases ends : (c :: directory).getLast? = some '/' <;> simp [ends]

theorem joinPath_ne_nil {name : List Char} (isName : IsFileName name) (directory : List Char) :
    joinPath directory name ≠ [] := by
  unfold joinPath
  rw [if_neg isName.head_ne]
  split <;> simp [isName.nonempty]

/-- The last part of a name. -/
def baseOf (name : List Char) : List Char := (name.reverse.takeWhile (· ≠ '/')).reverse

/-- What stands in front of the last part of a name. -/
def folderOf (name : List Char) : List Char := name.take (name.length - (baseOf name).length)

theorem folderOf_append_baseOf (name : List Char) : folderOf name ++ baseOf name = name := by
  have parts := List.takeWhile_append_dropWhile (p := fun c => decide (c ≠ '/')) (l := name.reverse)
  have split : (name.reverse.dropWhile (· ≠ '/')).reverse ++ baseOf name = name := by
    rw [baseOf, ← List.reverse_append, parts, List.reverse_reverse]
  unfold folderOf
  generalize (name.reverse.dropWhile (· ≠ '/')).reverse = front at split
  generalize baseOf name = base at split ⊢
  subst split
  simp

theorem slash_not_mem_baseOf (name : List Char) : '/' ∉ baseOf name := by
  intro inside
  have := List.mem_takeWhile_imp (List.mem_reverse.1 inside)
  simp at this

theorem baseOf_append {name : List Char} (plain : '/' ∉ name) (front : List Char) :
    baseOf (front ++ name) = baseOf front ++ name := by
  have kept : ∀ c ∈ name.reverse, decide (c ≠ '/') = true := by
    intro c listed
    have other : c ≠ '/' := fun slash => plain (by simpa [slash] using listed)
    simpa using other
  rw [baseOf, List.reverse_append, List.takeWhile_append_of_pos kept, List.reverse_append,
    List.reverse_reverse, baseOf]

@[simp] theorem baseOf_slash (front : List Char) : baseOf (front ++ ['/']) = [] := by
  simp [baseOf]

/-- The name of a file can be read off its path. -/
theorem baseOf_joinPath {name : List Char} (isName : IsFileName name) (directory : List Char) :
    baseOf (joinPath directory name) = name := by
  unfold joinPath
  rw [if_neg isName.head_ne]
  split
  · rename_i bare
    simp only [Bool.or_eq_true, decide_eq_true_eq] at bare
    rcases bare with rfl | ends
    · exact baseOf_append isName.slash []
    · obtain ⟨front, rfl⟩ := List.getLast?_eq_some_iff.1 ends
      rw [baseOf_append isName.slash, baseOf_slash, List.nil_append]
  · have split : directory ++ '/' :: name = (directory ++ ['/']) ++ name := by simp
    rw [split, baseOf_append isName.slash, baseOf_slash, List.nil_append]

/-! ## Destinations -/

/-- Where the parts of a path lead from a location. -/
def destinationFrom (location : Location) : List (List Char) → Location
  | [] => location
  | part :: parts =>
    if part = [] || part = ['.'] then destinationFrom location parts
    else if part = ['.', '.'] then destinationFrom location.dropLast parts
    else destinationFrom (location ++ [part]) parts

/-- Where a path begins. -/
def startOf (here : Location) (path : List Char) : Location :=
  if path.head? = some '/' then [] else here

/-- Where a path leads from a directory, if it leads anywhere. -/
def destination (here : Location) (path : List Char) : Location :=
  destinationFrom (startOf here path) (splitOn '/' path)

theorem destinationFrom_append (location : Location) (left right : List (List Char)) :
    destinationFrom location (left ++ right) =
      destinationFrom (destinationFrom location left) right := by
  induction left generalizing location with
  | nil => rfl
  | cons part left ih =>
    simp only [List.cons_append, destinationFrom, ih]
    split
    · rfl
    · split <;> rfl

theorem startOf_joinPath {name : List Char} (isName : IsFileName name) (here : Location)
    (directory : List Char) : startOf here (joinPath directory name) = startOf here directory := by
  simp only [startOf, head?_joinPath isName]

/-- A file lies in its directory. -/
theorem destination_joinPath {name : List Char} (isName : IsFileName name) (here : Location)
    (directory : List Char) :
    destination here (joinPath directory name) = destination here directory ++ [name] := by
  have last (location : Location) : destinationFrom location [name] = location ++ [name] := by
    simp [destinationFrom, isName.nonempty, isName.dot, isName.dots]
  obtain ⟨parts, whole, folder | folder⟩ := splitOn_joinPath isName directory
  · rw [destination, destination, startOf_joinPath isName, whole, folder, destinationFrom_append, last]
  · rw [destination, destination, startOf_joinPath isName, whole, folder, destinationFrom_append,
      destinationFrom_append, last]
    rfl

namespace Store

variable {store later : Store} {location here there : Location}

/-- Where a store lets a path lead, it leads to its destination. -/
theorem destinationFrom_of_follow {parts : List (List Char)}
    (followed : store.follow location parts = .ok there) : there = destinationFrom location parts := by
  induction parts generalizing location with
  | nil =>
    cases followed
    rfl
  | cons part parts ih =>
    simp only [follow] at followed
    split at followed
    · cases followed
    · cases followed
    · simp only [destinationFrom]
      split_ifs at followed ⊢ with stay up long
      · exact ih followed
      · exact ih followed
      · exact ih followed

theorem destination_of_resolve {path : List Char} (resolved : store.resolve here path = .ok there) :
    there = destination here path := by
  unfold resolve at resolved
  split at resolved
  · cases resolved
  · exact destinationFrom_of_follow resolved

/-! ## Files -/

theorem isDirectory_iff : store.isDirectory location = true ↔ store.node? location = some .directory := by
  unfold isDirectory
  split
  · simp_all
  · rename_i other
    simpa using other

theorem isFile_iff : store.isFile location = true ↔
    ∃ contents written, store.node? location = some (.file contents written) := by
  unfold isFile
  split
  · simp_all
  · rename_i other
    simpa using other

theorem writeText_ok {text : List Char} {now : Time}
    (wrote : store.writeText location text now = .ok later) :
    byteLength (location.getLastD []) ≤ nameLimit ∧ store.node? location ≠ some .directory ∧
      later = store.put location (.file (Text.encode text) now) := by
  unfold writeText at wrote
  split at wrote
  · cases wrote
  · rename_i short
    split at wrote
    · cases wrote
    · rename_i free
      cases wrote
      exact ⟨by omega, fun directory => free (isDirectory_iff.2 directory), rfl⟩

/-- A path leads to a file. -/
def LeadsTo (store : Store) (here : Location) (path : List Char) (contents : ByteArray)
    (written : Time) : Prop :=
  store.resolve here path = .ok (destination here path) ∧
    store.node? (destination here path) = some (.file contents written)

theorem leadsTo_iff {path : List Char} {contents : ByteArray} {written : Time} :
    store.LeadsTo here path contents written ↔ ∃ location,
      store.resolve here path = .ok location ∧
        store.node? location = some (.file contents written) := by
  constructor
  · exact fun leads => ⟨_, leads⟩
  · rintro ⟨location, resolved, file⟩
    obtain rfl := destination_of_resolve resolved
    exact ⟨resolved, file⟩

theorem holdsFile_iff {path : List Char} :
    store.holdsFile here path = true ↔ ∃ contents written, store.LeadsTo here path contents written := by
  simp only [leadsTo_iff, holdsFile]
  cases store.resolve here path with
  | error error => simp
  | ok location => simp [isFile_iff]

theorem writtenAt?_eq_some_iff {path : List Char} {time : Time} :
    store.writtenAt? here path = some time ↔ ∃ contents, store.LeadsTo here path contents time := by
  simp only [leadsTo_iff, writtenAt?]
  cases store.resolve here path with
  | error error => simp
  | ok location =>
    simp only [Except.ok.injEq, exists_eq_left', written?]
    split <;> simp_all

theorem readText_eq_ok_iff {path text : List Char} :
    store.readText here path = .ok text ↔ ∃ contents written,
      store.LeadsTo here path contents written ∧ Text.decode? contents = some text := by
  simp only [leadsTo_iff, readText]
  cases store.resolve here path with
  | error error => simp [bind, Except.bind]
  | ok location =>
    simp only [bind, Except.bind, Except.ok.injEq, exists_eq_left']
    cases store.node? location with
    | none => simp
    | some node =>
      cases node with
      | directory => simp
      | file contents written =>
        cases decoded : Text.decode? contents <;> simp_all

/-! ## Trees -/

/-- Every node lies in a directory. -/
def IsTree (store : Store) : Prop :=
  ∀ location, store.node? location ≠ none → store.node? location.dropLast = some .directory

/-- All directories are still there. -/
def KeepsDirectories (store later : Store) : Prop :=
  ∀ location, store.node? location = some .directory → later.node? location = some .directory

theorem dropLast_ne_self (below : location ≠ []) : location.dropLast ≠ location := by
  intro same
  have lengths := congrArg List.length same
  have := List.length_pos_iff.2 below
  rw [List.length_dropLast] at lengths
  omega

theorem IsTree.put {node : Node} (tree : store.IsTree) (below : location ≠ [])
    (inside : store.node? location.dropLast = some .directory)
    (free : node = .directory ∨ store.node? location ≠ some .directory) :
    (store.put location node).IsTree := by
  intro other present
  by_cases same : other = location
  · subst same
    rwa [node?_put_of_ne (dropLast_ne_self below)]
  · rw [node?_put_of_ne same] at present
    have parent := tree other present
    by_cases child : other.dropLast = location
    · rw [child] at parent ⊢
      rcases free with rfl | free
      · exact node?_put_self below
      · exact absurd parent free
    · rwa [node?_put_of_ne child]

theorem KeepsDirectories.follow {parts : List (List Char)} (kept : store.KeepsDirectories later)
    (followed : store.follow location parts = .ok there) :
    later.follow location parts = .ok there := by
  induction parts generalizing location with
  | nil => exact followed
  | cons part parts ih =>
    simp only [Store.follow] at followed ⊢
    cases node : store.node? location with
    | none => simp [node] at followed
    | some node' =>
      cases node' with
      | file => simp [node] at followed
      | directory =>
        simp only [node, kept location node] at followed ⊢
        split_ifs at followed ⊢ with stay up long
        · exact ih followed
        · exact ih followed
        · exact ih followed

theorem KeepsDirectories.resolve {path : List Char} (kept : store.KeepsDirectories later)
    (resolved : store.resolve here path = .ok there) : later.resolve here path = .ok there := by
  unfold Store.resolve at resolved ⊢
  split at resolved
  · cases resolved
  · rename_i nonempty
    rw [if_neg nonempty]
    exact kept.follow resolved

theorem mem_of_node? {node : Node} (below : location ≠ [])
    (found : store.node? location = some node) : (location, node) ∈ store.nodes := by
  rw [node?, if_neg below] at found
  obtain ⟨front, back, split, -⟩ := List.lookup_eq_some_iff.1 found
  simp [split]

theorem isTree_of_nodes
    (lies : ∀ entry ∈ store.nodes, store.isDirectory entry.1.dropLast = true) : store.IsTree := by
  intro location present
  by_cases below : location = []
  · subst below
    rfl
  · obtain ⟨node, found⟩ := Option.ne_none_iff_exists'.1 present
    exact isDirectory_iff.1 (lies _ (mem_of_node? below found))

/-! ## Making directories -/

/-- Directories may have been made where nothing was. -/
def GrowsTo (store later : Store) : Prop :=
  ∀ location, later.node? location = store.node? location ∨
    (store.node? location = none ∧ later.node? location = some .directory)

theorem GrowsTo.refl (store : Store) : store.GrowsTo store := fun _ => .inl rfl

theorem GrowsTo.trans {last : Store} (first : store.GrowsTo later) (second : later.GrowsTo last) :
    store.GrowsTo last := by
  intro location
  rcases second location with same | ⟨free, made⟩
  · rw [same]
    exact first location
  · rcases first location with same | ⟨_, there⟩
    · exact .inr ⟨same ▸ free, made⟩
    · rw [there] at free
      cases free

theorem GrowsTo.keepsDirectories (grows : store.GrowsTo later) : store.KeepsDirectories later := by
  intro location directory
  rcases grows location with same | ⟨free, _⟩
  · rwa [same]
  · rw [directory] at free
    cases free

theorem GrowsTo.file_iff (grows : store.GrowsTo later) {contents : ByteArray} {time : Time} :
    later.node? location = some (.file contents time) ↔
      store.node? location = some (.file contents time) := by
  rcases grows location with same | ⟨free, made⟩
  · rw [same]
  · rw [free, made]
    simp

theorem growsTo_put (free : store.node? location = none) :
    store.GrowsTo (store.put location .directory) := by
  intro other
  by_cases same : other = location
  · subst same
    have below : other ≠ [] := by
      rintro rfl
      cases free
    exact .inr ⟨free, node?_put_self below⟩
  · exact .inl (node?_put_of_ne same)

/-- What making directories on the way of a path leads to: the path can be
    followed from then on. -/
structure MadeWay (store : Store) (location : Location) (parts : List (List Char)) (later : Store)
    (there : Location) : Prop where
  destination : there = destinationFrom location parts
  grows : store.GrowsTo later
  tree : later.IsTree
  directory : later.node? there = some .directory
  followed : later.follow location parts = .ok there

/-- A way begins with a part that leads from the directory to the next one, which may
    have been made. -/
theorem MadeWay.cons {middle : Store} {next : Location} {part : List Char} {parts : List (List Char)}
    (directory : store.node? location = some .directory) (grows : store.GrowsTo middle)
    (leads : destinationFrom location (part :: parts) = destinationFrom next parts)
    (follows : later.node? location = some .directory →
      later.follow location (part :: parts) = later.follow next parts)
    (way : MadeWay middle next parts later there) :
    MadeWay store location (part :: parts) later there where
  destination := by rw [leads, way.destination]
  grows := grows.trans way.grows
  tree := way.tree
  directory := way.directory
  followed := by
    have here := (grows.trans way.grows).keepsDirectories _ directory
    rw [follows here, way.followed]

theorem makeParts_spec {parts : List (List Char)} (tree : store.IsTree)
    (directory : store.node? location = some .directory)
    (made : store.makeParts location parts = .ok (later, there)) :
    MadeWay store location parts later there := by
  induction parts generalizing store location with
  | nil =>
    cases made
    exact ⟨rfl, .refl _, tree, directory, rfl⟩
  | cons part parts ih =>
    simp only [makeParts] at made
    split at made
    case isTrue stay =>
      exact (ih tree directory made).cons directory (.refl _) (if_pos stay) fun here => by
        simp only [Store.follow, here, if_pos stay]
    case isFalse stay =>
    split at made
    case isTrue up =>
      have parent := tree location (by simp [directory])
      exact (ih tree parent made).cons directory (.refl _)
        (by rw [destinationFrom, if_neg stay, if_pos up]) fun here => by
          simp only [Store.follow, here, if_neg stay, if_pos up]
    case isFalse up =>
    split at made
    case isTrue => cases made
    case isFalse short =>
    have down {middle : Store} (grows : store.GrowsTo middle)
        (way : MadeWay middle (location ++ [part]) parts later there) :
        MadeWay store location (part :: parts) later there :=
      way.cons directory grows (by rw [destinationFrom, if_neg stay, if_neg up]) fun here => by
        simp only [Store.follow, here, if_neg stay, if_neg up, if_neg short]
    split at made
    · rename_i there
      exact down (.refl _) (ih tree there made)
    · cases made
    · rename_i free
      have inside : store.node? (location ++ [part]).dropLast = some .directory := by
        rwa [List.dropLast_concat]
      exact down (growsTo_put free)
        (ih (tree.put (by simp) inside (.inl rfl)) (node?_put_self (by simp)) made)

/-- Making the directories of a path leads to its destination. -/
theorem makeDirectories_spec {path : List Char} (tree : store.IsTree)
    (directory : store.node? here = some .directory)
    (made : store.makeDirectories here path = .ok (later, there)) :
    MadeWay store (startOf here path) (splitOn '/' path) later there := by
  refine makeParts_spec tree ?_ made
  unfold startOf
  split
  · rfl
  · exact directory

theorem follow_append {left right : List (List Char)} :
    store.follow location (left ++ right) = .ok there ↔
      ∃ middle, store.follow location left = .ok middle ∧ store.follow middle right = .ok there := by
  induction left generalizing location with
  | nil => simp [Store.follow]
  | cons part left ih =>
    simp only [List.cons_append, Store.follow]
    split
    · simp
    · simp
    · split_ifs with stay up long
      · exact ih
      · exact ih
      · simp
      · exact ih

/-- The path of a file in a directory that was made leads to it. -/
theorem MadeWay.resolve {directory name : List Char} {last : Store} (isName : IsFileName name)
    (short : byteLength name ≤ nameLimit)
    (way : MadeWay store (startOf here directory) (splitOn '/' directory) later there)
    (kept : later.KeepsDirectories last) :
    last.resolve here (joinPath directory name) = .ok (there ++ [name]) := by
  obtain ⟨parts, whole, folder⟩ := splitOn_joinPath isName directory
  have followed := kept.follow way.followed
  have reached : last.follow (startOf here directory) parts = .ok there := by
    rcases folder with folder | folder
    · rwa [folder] at followed
    · -- The empty part at the end leads nowhere else.
      rw [folder] at followed
      obtain ⟨middle, front, stays⟩ := follow_append.1 followed
      rw [front, destinationFrom_of_follow stays]
      rfl
  have final : last.follow there [name] = .ok (there ++ [name]) := by
    simp [Store.follow, kept there way.directory, isName.nonempty, isName.dot, isName.dots,
      Nat.not_lt.2 short]
  have resolves := follow_append.2 ⟨there, reached, final⟩
  rw [Store.resolve, if_neg (joinPath_ne_nil isName directory), whole]
  rw [← startOf_joinPath isName] at resolves
  exact resolves

end Store

end Stencil
