import Stencil.Command.Environment
import Stencil.Project.Clean
import Stencil.Proofs.ArtifactNames
import Stencil.Proofs.Occurrences

/-! # What cleaning removes

Cleaning goes through the names that the cache lists and removes the files that
are artifacts by their names and were written too long ago.  Every path of an
artifact leads right into the cache, to a name that is an artifact's.  So all
artifacts are found, but for those of a cache whose path is empty: artifacts are
written to the directory that commands are run in, while an empty path leads nowhere.

* `Store.Removes` — the nodes of a kind are removed and counted;
* `Project.Expired` — files that cleaning is to remove;
* `Store.resolve_joinPath` — the way to a file leads through its directory;
* `removeExpired_removes` — one name after the other;
* `LosesFiles` / `clean_losesFiles` — whatever else, only files are removed;
* `clean_exact` — cleaning removes what is expired, and when artifacts escape it.
-/

namespace Stencil

open Stencil.Program (Format)
open Stencil.Project (artifactMark cutoff removeExpired)
open Stencil.Text (occurs occurs_iff splitOn)

variable {project : Project} {store last : Store} {here cache location : Location}
  {now limit : Time} {expire count : Nat} {name : List Char}

namespace Store

/-! ## Removing nodes -/

/-- The nodes at the locations of a kind were removed, those at all others kept, and
    the former counted. -/
def Removes (store : Store) (doomed : Location → Prop) (last : Store) (count : Nat) : Prop :=
  ∃ removed : List Location, removed.Nodup ∧ removed.length = count ∧
    (∀ location, location ∈ removed ↔ doomed location) ∧
    (∀ location, doomed location → last.node? location = none) ∧
    ∀ location, ¬ doomed location → last.node? location = store.node? location

variable {doomed later : Location → Prop}

theorem removes_nothing (spared : ∀ location, ¬ doomed location) :
    store.Removes doomed store 0 := by
  refine ⟨[], List.nodup_nil, rfl, ?_, fun location dies => absurd dies (spared location),
    fun _ _ => rfl⟩
  intro location
  simpa using spared location

/-- One node is removed, and then all others of its kind. -/
theorem Removes.next (below : location ≠ []) (first : doomed location)
    (others : ∀ other, later other ↔ other ≠ location ∧ doomed other)
    (rest : (store.remove location).Removes later last count) :
    store.Removes doomed last (count + 1) := by
  obtain ⟨removed, once, counted, listed, gone, kept⟩ := rest
  have passed : ¬ later location := fun again => ((others location).1 again).1 rfl
  refine ⟨location :: removed, ?_, by rw [List.length_cons, counted], ?_, ?_, ?_⟩
  · exact List.nodup_cons.2 ⟨fun again => passed ((listed location).1 again), once⟩
  · intro other
    rw [List.mem_cons, listed, others]
    by_cases same : other = location
    · simp [same, first]
    · simp [same]
  · intro other dies
    by_cases same : other = location
    · subst same
      rw [kept other passed, node?_remove_self below]
    · exact gone other ((others other).2 ⟨same, dies⟩)
  · intro other lives
    have different : other ≠ location := by
      rintro rfl
      exact lives first
    rw [kept other fun dies => lives ((others other).1 dies).2, node?_remove_of_ne different]

theorem Removes.congr (removes : store.Removes later last count)
    (same : ∀ location, later location ↔ doomed location) : store.Removes doomed last count := by
  obtain rfl : later = doomed := funext fun location => propext (same location)
  exact removes

/-! ## Names -/

/-- A directory lists the names of the nodes in it. -/
theorem mem_names [ListingOrder] {directory : Location} :
    name ∈ store.names directory ↔ ∃ node, (directory ++ [name], node) ∈ store.nodes := by
  rw [names, (ListingOrder.arrange_perm _).mem_iff, List.mem_filterMap]
  constructor
  · rintro ⟨⟨location, node⟩, there, isListed⟩
    dsimp only at isListed
    split_ifs at isListed with inside
    obtain ⟨front, rfl⟩ := List.getLast?_eq_some_iff.1 isListed
    rw [List.dropLast_concat] at inside
    exact ⟨node, inside ▸ there⟩
  · rintro ⟨node, there⟩
    exact ⟨_, there, by simp⟩

/-! ## The way to a file -/

/-- The way to a file leads through its directory, if that has a path of its own. -/
theorem resolve_joinPath {directory : List Char} (isName : IsFileName name)
    (named : directory ≠ [])
    (resolved : store.resolve here (joinPath directory name) = .ok location) :
    ∃ cache, store.resolve here directory = .ok cache ∧ store.node? cache = some .directory ∧
      location = cache ++ [name] := by
  obtain ⟨parts, whole, folder⟩ := splitOn_joinPath isName directory
  have followed : store.follow (startOf here directory) (parts ++ [name]) = .ok location := by
    rw [← startOf_joinPath isName, ← whole]
    rwa [resolve, if_neg (joinPath_ne_nil isName directory)] at resolved
  obtain ⟨cache, reached, final⟩ := follow_append.1 followed
  -- The last part is only reached through a directory.
  have inside : store.node? cache = some .directory := by
    simp only [follow] at final
    split at final
    · cases final
    · cases final
    · assumption
  have place : location = cache ++ [name] := by
    rw [destinationFrom_of_follow final]
    simp [destinationFrom, isName.nonempty, isName.dot, isName.dots]
  -- The path of the directory may end in a slash, which leaves an empty part behind.
  have stays : store.follow cache [[]] = .ok cache := by simp [follow, inside]
  have way : store.follow (startOf here directory) (splitOn '/' directory) = .ok cache := by
    rcases folder with folder | folder
    · rwa [folder]
    · rw [folder]
      exact follow_append.2 ⟨cache, reached, stays⟩
  refine ⟨cache, ?_, inside, place⟩
  rw [resolve, if_neg named]
  exact way

/-! ## Old artifacts -/

/-- A name in a directory is an artifact's, and its file was written before a time. -/
def HoldsOld (store : Store) (cache : Location) (limit : Time) (name : List Char) : Prop :=
  artifactMark <:+: name ∧ ∃ contents written,
    store.node? (cache ++ [name]) = some (.file contents written) ∧ written < limit

theorem holdsOld_iff : store.HoldsOld cache limit name ↔
    (occurs artifactMark name && (store.written? (cache ++ [name])).any (· < limit)) = true := by
  rw [HoldsOld, Bool.and_eq_true, occurs_iff, written?]
  split
  · simp_all
  · rename_i noFile
    simp only [Option.any_none, Bool.false_eq_true, and_false, iff_false, not_and, not_exists]
    exact fun _ contents written file => absurd file (noFile contents written)

theorem holdsOld_remove {other : List Char} :
    (store.remove (cache ++ [name])).HoldsOld cache limit other ↔
      other ≠ name ∧ store.HoldsOld cache limit other := by
  by_cases same : other = name
  · subst same
    simp [HoldsOld, node?_remove_self]
  · have different : cache ++ [other] ≠ cache ++ [name] := by simpa using same
    simp [HoldsOld, node?_remove_of_ne different, same]

end Store

/-- Going through names removes the old artifacts among them. -/
theorem removeExpired_removes (cacheDirectory : List Char) (cache : Location) (limit : Time)
    (store : Store) (names : List (List Char)) :
    store.Removes (fun location => ∃ name ∈ names, location = cache ++ [name] ∧
        store.HoldsOld cache limit name)
      (removeExpired cacheDirectory cache limit store names).1
      (removeExpired cacheDirectory cache limit store names).2.length := by
  -- A name that is listed twice is no longer old when it comes again.
  induction names generalizing store with
  | nil => exact Store.removes_nothing (by simp)
  | cons name names ih =>
    unfold removeExpired
    by_cases old : store.HoldsOld cache limit name
    · simp only [if_pos (Store.holdsOld_iff.1 old), List.length_cons]
      refine (ih _).next (by simp) ⟨name, .head _, rfl, old⟩ fun other => ?_
      constructor
      · rintro ⟨name', listed, rfl, older⟩
        obtain ⟨different, older⟩ := Store.holdsOld_remove.1 older
        exact ⟨by simpa using different, name', .tail _ listed, rfl, older⟩
      · rintro ⟨different, name', listed, rfl, older⟩
        have different : name' ≠ name := by simpa using different
        have listed := (List.mem_cons.1 listed).resolve_left different
        exact ⟨name', listed, rfl, Store.holdsOld_remove.2 ⟨different, older⟩⟩
    · simp only [if_neg (Store.holdsOld_iff.not.1 old)]
      refine (ih store).congr fun other => ?_
      constructor
      · rintro ⟨name', listed, found⟩
        exact ⟨name', .tail _ listed, found⟩
      · rintro ⟨name', listed, rfl, older⟩
        have different : name' ≠ name := by
          rintro rfl
          exact old older
        exact ⟨name', (List.mem_cons.1 listed).resolve_left different, rfl, older⟩

/-! ## What remains -/

/-- Files may have been removed. -/
def LosesFiles (store last : Store) : Prop :=
  ∀ location, last.node? location = store.node? location ∨
    ((∃ contents written, store.node? location = some (.file contents written)) ∧
      last.node? location = none)

theorem losesFiles_remove {contents : ByteArray} {written : Time}
    (file : store.node? location = some (.file contents written)) :
    LosesFiles store (store.remove location) := by
  intro other
  by_cases same : other = location
  · subst same
    have below : other ≠ [] := by
      rintro rfl
      cases file
    exact .inr ⟨⟨contents, written, file⟩, Store.node?_remove_self below⟩
  · exact .inl (Store.node?_remove_of_ne same)

theorem Store.Removes.losesFiles {doomed : Location → Prop}
    (removes : store.Removes doomed last count)
    (files : ∀ location, doomed location →
      ∃ contents written, store.node? location = some (.file contents written)) :
    LosesFiles store last := by
  obtain ⟨-, -, -, -, gone, kept⟩ := removes
  intro location
  by_cases dies : doomed location
  · exact .inr ⟨files location dies, gone location dies⟩
  · exact .inl (kept location dies)

theorem LosesFiles.keepsDirectories (loses : LosesFiles store last) :
    store.KeepsDirectories last := by
  intro location directory
  rcases loses location with same | ⟨⟨contents, written, file⟩, -⟩
  · rwa [same]
  · rw [directory] at file
    cases file

/-- Without some of its files a tree is a tree. -/
theorem LosesFiles.isTree (loses : LosesFiles store last) (tree : store.IsTree) : last.IsTree := by
  intro location present
  apply loses.keepsDirectories
  apply tree
  rcases loses location with same | ⟨-, gone⟩
  · rwa [← same]
  · exact absurd gone present

namespace Project

/-! ## Expired artifacts -/

/-- The directory that holds the artifacts of a project. -/
def IsCache (project : Project) (store : Store) (here cache : Location) : Prop :=
  store.resolve here project.cacheDirectory = .ok cache ∧ store.node? cache = some .directory

/-- Files right in the cache that are artifacts by their names and were written more
    than some seconds ago. -/
def Expired (project : Project) (store : Store) (here : Location) (now : Time) (expire : Nat)
    (location : Location) : Prop :=
  ∃ cache name contents written, project.IsCache store here cache ∧ location = cache ++ [name] ∧
    artifactMark <:+: name ∧ store.node? location = some (.file contents written) ∧
    expire * 1000000000 < now - written

/-- No file in the cache was written before 1970. -/
def SinceEpoch (project : Project) (store : Store) (here : Location) : Prop :=
  ∀ cache name contents written, project.IsCache store here cache →
    store.node? (cache ++ [name]) = some (.file contents written) → 0 ≤ written

/-- The paths of a project's artifacts, be they of templates or of texts. -/
inductive IsArtifactPath (project : Project) : List Char → Prop
  | template (format : Format) (name : List Char) :
    project.IsArtifactPath (project.artifactPath format name)
  | text (format : Format) (source : List Char) :
    project.IsArtifactPath (project.stringPath format source)

/-- Times before 64 bits do not matter to files that are not older than 1970. -/
theorem lt_cutoff_iff {written : Time} (nonnegative : 0 ≤ written) :
    written < cutoff now expire ↔ expire * 1000000000 < now - written := by
  have earliest : Int64.minValue.toInt = -9223372036854775808 := by decide
  unfold cutoff
  simp only [earliest]
  unfold Time at *
  split <;> omega

theorem IsArtifactPath.inCache {path : List Char} (given : project.IsArtifactPath path) :
    ∃ name, IsFileName name ∧ artifactMark <:+: name ∧
      path = joinPath project.cacheDirectory name := by
  have marked (entry : Entry) : artifactMark <:+: entry.fileName := by
    have begins : artifactMark <+: '.' :: entry.format.extension := by
      cases entry.format <;> decide
    exact begins.isInfix.trans (List.suffix_append _ _).isInfix
  cases given with
  | template format name => exact ⟨_, isFileName_fileName _, marked _, artifactPath_eq _ _ _⟩
  | text format source => exact ⟨_, isFileName_fileName _, marked _, stringPath_eq _ _ _⟩

/-- Files right in the cache that are old artifacts. -/
def Outdated (project : Project) (store : Store) (here : Location) (limit : Time)
    (location : Location) : Prop :=
  ∃ cache name, project.IsCache store here cache ∧ location = cache ++ [name] ∧
    store.HoldsOld cache limit name

/-- Cleaning removes what was written before its cutoff. -/
theorem clean_removes_outdated [ListingOrder] (project : Project) (store : Store)
    (here : Location) (now : Time) (expire : Nat) :
    ∃ count, (project.clean store here now expire).result = .ok count ∧
      store.Removes (project.Outdated store here (cutoff now expire))
        (project.clean store here now expire).store count := by
  unfold clean
  simp only
  split
  case h_1 error unresolved =>
    refine ⟨0, rfl, Store.removes_nothing ?_⟩
    rintro location ⟨cache, -, ⟨resolved, -⟩, -⟩
    rw [unresolved] at resolved
    cases resolved
  case h_2 cache resolved =>
  have only {cache' : Location} (isCache : project.IsCache store here cache') : cache' = cache :=
    Except.ok.inj (isCache.1.symm.trans resolved)
  split
  case isTrue noDirectory =>
    refine ⟨0, rfl, Store.removes_nothing ?_⟩
    rintro location ⟨cache', -, isCache, -⟩
    obtain rfl := only isCache
    rw [Store.isDirectory_iff.2 isCache.2] at noDirectory
    cases noDirectory
  case isFalse isDirectory =>
    have isCache : project.IsCache store here cache :=
      ⟨resolved, Store.isDirectory_iff.1 (by simpa using isDirectory)⟩
    have removes := removeExpired_removes project.cacheDirectory cache (cutoff now expire) store
      (store.names cache)
    refine ⟨_, rfl, removes.congr fun location => ?_⟩
    constructor
    · rintro ⟨name, -, found⟩
      exact ⟨cache, name, isCache, found⟩
    · rintro ⟨cache', name, isCache', place, older⟩
      obtain rfl := only isCache'
      -- The file is there, so the cache lists its name.
      obtain ⟨-, contents, written, file, -⟩ := id older
      exact ⟨name, Store.mem_names.2 ⟨_, Store.mem_of_node? (by simp) file⟩, place, older⟩

theorem outdated_iff_expired (sinceEpoch : project.SinceEpoch store here) :
    project.Outdated store here (cutoff now expire) location ↔
      project.Expired store here now expire location := by
  constructor
  · rintro ⟨cache, name, isCache, rfl, marked, contents, written, file, older⟩
    have old := (lt_cutoff_iff (sinceEpoch _ _ _ _ isCache file)).1 older
    exact ⟨cache, name, contents, written, isCache, rfl, marked, file, old⟩
  · rintro ⟨cache, name, contents, written, isCache, rfl, marked, file, old⟩
    have older := (lt_cutoff_iff (sinceEpoch _ _ _ _ isCache file)).2 old
    exact ⟨cache, name, isCache, rfl, marked, contents, written, file, older⟩

/-- Cleaning removes what is expired. -/
theorem clean_removes [ListingOrder] (now : Time) (expire : Nat)
    (sinceEpoch : project.SinceEpoch store here) :
    ∃ count, (project.clean store here now expire).result = .ok count ∧
      store.Removes (project.Expired store here now expire)
        (project.clean store here now expire).store count := by
  obtain ⟨count, counted, removes⟩ := clean_removes_outdated project store here now expire
  exact ⟨count, counted, removes.congr fun _ => outdated_iff_expired sinceEpoch⟩

/-- Cleaning removes files and does nothing else. -/
theorem clean_losesFiles [ListingOrder] (project : Project) (store : Store) (here : Location)
    (now : Time) (expire : Nat) : LosesFiles store (project.clean store here now expire).store := by
  obtain ⟨count, -, removes⟩ := clean_removes_outdated project store here now expire
  refine removes.losesFiles ?_
  rintro location ⟨cache, name, -, rfl, -, contents, written, file, -⟩
  exact ⟨contents, written, file⟩

/-- Nothing is cleaned where the cache has an empty path. -/
theorem clean_unnamed [ListingOrder] (unnamed : project.cacheDirectory = []) :
    (project.clean store here now expire).store = store := by
  simp [clean, unnamed, Store.resolve]

/-- An old artifact is expired if the cache has a path. -/
theorem IsArtifactPath.expired {path : List Char} {contents : ByteArray} {written : Time}
    (given : project.IsArtifactPath path) (named : project.cacheDirectory ≠ [])
    (leads : store.LeadsTo here path contents written) (old : expire * 1000000000 < now - written) :
    project.Expired store here now expire (destination here path) := by
  obtain ⟨name, isName, marked, rfl⟩ := given.inCache
  obtain ⟨cache, resolved, directory, place⟩ := Store.resolve_joinPath isName named leads.1
  exact ⟨cache, name, contents, written, ⟨resolved, directory⟩, place, marked, leads.2, old⟩

end Project

/-- In whatever order the cache lists its names, cleaning removes exactly the expired
    artifacts, counts them and keeps everything else.  All artifacts are right in the cache
    and artifacts by their names, and none escapes once it is old, unless the path of the
    cache is empty: then all do. -/
theorem clean_exact [ListingOrder] (project : Project) (store : Store) (here : Location)
    (now : Time) (expire : Nat) (sinceEpoch : project.SinceEpoch store here) :
    (∃ count, (project.clean store here now expire).result = .ok count ∧
      store.Removes (project.Expired store here now expire)
        (project.clean store here now expire).store count) ∧
    ∀ path, project.IsArtifactPath path →
      (∃ name, artifactMark <:+: name ∧ path = joinPath project.cacheDirectory name ∧
        destination here path = destination here project.cacheDirectory ++ [name]) ∧
      ∀ contents written, store.LeadsTo here path contents written →
        expire * 1000000000 < now - written →
        ((project.clean store here now expire).store.node? (destination here path) = none ↔
          project.cacheDirectory ≠ []) := by
  have cleaned := Project.clean_removes now expire sinceEpoch
  refine ⟨cleaned, fun path given => ⟨?_, fun contents written leads old => ⟨?_, ?_⟩⟩⟩
  · obtain ⟨name, isName, marked, rfl⟩ := given.inCache
    exact ⟨name, marked, rfl, destination_joinPath isName here _⟩
  · intro gone unnamed
    rw [Project.clean_unnamed unnamed, leads.2] at gone
    cases gone
  · intro named
    obtain ⟨count, -, removed, -, -, -, gone, -⟩ := cleaned
    exact gone _ (given.expired named leads old)

/-- A cache in the directory that commands are run in: cleaning finds the artifact under
    the path of a dot, but not under the empty path. -/
theorem clean_exact_unnamed :
    let site (root : String) : Project := { root := root.toList, settings := { cacheDir := [] } }
    let artifact := "page.8ddb4284.mtpl.php".toList
    let store : Store := ⟨[([artifact], .file .empty 0)]⟩
    let cleaned (root : String) := ((site root).clean store [] 11000000000 10).store
    (site "").artifactPath .php "page".toList = artifact ∧
      (cleaned "").node? [artifact] ≠ none ∧
      (site ".").artifactPath .php "page".toList = "./".toList ++ artifact ∧
      (cleaned ".").node? [artifact] = none := by
  intro site artifact store cleaned
  have sinceEpoch (root : String) : (site root).SinceEpoch store [] := by
    intro cache name contents written _ file
    have listed := Store.mem_of_node? (by simp) file
    obtain ⟨-, rfl, rfl⟩ : _ ∧ contents = .empty ∧ written = 0 := by simpa [store] using listed
    exact Int.le_refl 0
  have law (root : String) := (clean_exact (site root) store [] 11000000000 10 (sinceEpoch root)).2 _
    (.template .php "page".toList)
  have unnamed : (site "").artifactPath .php "page".toList = artifact := by decide +kernel
  have named : (site ".").artifactPath .php "page".toList = "./".toList ++ artifact := by
    decide +kernel
  have hidden := (law "").2 .empty 0 (by rw [unnamed]; exact ⟨rfl, rfl⟩) (by decide)
  have found := (law ".").2 .empty 0 (by rw [named]; exact ⟨rfl, rfl⟩) (by decide)
  rw [unnamed] at hidden
  rw [named] at found
  exact ⟨unnamed, fun gone => hidden.1 gone rfl, named, found.2 (by decide)⟩

end Stencil
