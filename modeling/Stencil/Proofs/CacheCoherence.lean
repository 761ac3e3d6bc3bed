import Mathlib.Control.Monad.Basic
import Mathlib.Logic.Relation
import Stencil.Proofs.Cleaning
import Stencil.Proofs.Handouts
import Stencil.Proofs.Origins

/-! # The cache is coherent

An artifact is found by its name and kept as long as it is not older than its
template.  Over any history of a project — templates written and removed,
settings changed, artifacts compiled and cleaned away — an artifact that is
handed out is the one that the template and the settings make now.

* `Ground` / `Site` — what stays of a project, and what changes;
* `Step` — what can happen to it;
* `Coherent` — every artifact is what its name and its time say;
* `coherent_step` / `coherent_of_reached` — one step keeps it so, and any number;
* `compile_coherent` — what compiling hands out.
-/

namespace Stencil

open Stencil.Program (Artifact Format)
open Stencil.Tag (Registry)
open Stencil.Template (Origin)

/-! ## Projects over time -/

/-- All files are older than a time. -/
def Store.Before (store : Store) (now : Time) : Prop :=
  ∀ location contents written, store.node? location = some (.file contents written) → written < now

/-- Whether a node was written before a time. -/
def Node.isOlder (now : Time) : Node → Bool
  | .directory => true
  | .file _ written => written < now

theorem before_of_nodes {store : Store} {now : Time}
    (older : ∀ entry ∈ store.nodes, entry.2.isOlder now = true) : store.Before now := by
  intro location contents written file
  have below : location ≠ [] := by
    rintro rfl
    cases file
  simpa [Node.isOlder] using older _ (Store.mem_of_node? below file)

/-- A path leads to a file with a text and nothing else. -/
def Store.Contains (store : Store) (here : Location) (path text : List Char) : Prop :=
  ∃ location written, store.resolve here path = .ok location ∧
    store.node? location = some (.file (Text.encode text) written)

/-- What stays of a project: where it is used from, its root and its custom tags. -/
structure Ground where
  here : Location
  root : List Char
  registry : Registry

/-- What changes of a project. -/
structure Site where
  settings : Settings
  store : Store

namespace Ground

/-- The project with some settings. -/
def project (ground : Ground) (settings : Settings) : Project :=
  ⟨ground.root, settings, ground.registry⟩

/-- Where the cache lies. -/
def cache (ground : Ground) (settings : Settings) : Location :=
  destination ground.here (ground.project settings).cacheDirectory

/-- Where a template lies. -/
def template (ground : Ground) (settings : Settings) (name : List Char) : Location :=
  destination ground.here ((ground.project settings).templatePath name)

/-- Where an artifact lies. -/
def artifact (ground : Ground) (entry : Entry) : Location :=
  ground.cache entry.settings ++ [entry.fileName]

/-- The origin of a template. -/
def origin (ground : Ground) (settings : Settings) (name : List Char) : Origin :=
  .file ((ground.project settings).locate name).directory ((ground.project settings).locate name).path

/-- A location that some cache lists. -/
def InCache (ground : Ground) (usage : Usage) (location : Location) : Prop :=
  ∃ settings ∈ usage.settings, location.dropLast = ground.cache settings

instance (ground : Ground) (usage : Usage) (location : Location) :
    Decidable (ground.InCache usage location) :=
  inferInstanceAs (Decidable (∃ settings ∈ usage.settings, _ = _))

end Ground

/-- What can happen to a project.  A file that is written is newer than all others;
    the caches are left to the project. -/
inductive Step (ground : Ground) (usage : Usage) : Site → Site → Prop where
  | write {settings : Settings} {store : Store} (location : Location) (contents : ByteArray)
      (now : Time) (inside : store.node? location.dropLast = some .directory)
      (free : store.node? location ≠ some .directory) (outside : ¬ ground.InCache usage location)
      (newest : store.Before now) :
      Step ground usage ⟨settings, store⟩ ⟨settings, store.put location (.file contents now)⟩
  | remove {settings : Settings} {store : Store} (location : Location) (contents : ByteArray)
      (written : Time) (file : store.node? location = some (.file contents written))
      (outside : ¬ ground.InCache usage location) :
      Step ground usage ⟨settings, store⟩ ⟨settings, store.remove location⟩
  | makeDirectory {settings : Settings} {store : Store} (location : Location)
      (inside : store.node? location.dropLast = some .directory)
      (free : store.node? location = none) :
      Step ground usage ⟨settings, store⟩ ⟨settings, store.put location .directory⟩
  | configure {settings : Settings} {store : Store} (other : Settings)
      (used : other ∈ usage.settings) : Step ground usage ⟨settings, store⟩ ⟨other, store⟩
  | compileTemplate {settings : Settings} {store : Store} (now : Time) (format : Format)
      (force : Bool) (name : List Char) (used : name ∈ usage.names) (newest : store.Before now) :
      Step ground usage ⟨settings, store⟩
        ⟨settings,
          ((ground.project settings).compileTemplate store ground.here now format force name).store⟩
  | compileString {settings : Settings} {store : Store} (now : Time) (format : Format)
      (caller : Caller) (source : List Char) (used : source ∈ usage.sources)
      (newest : store.Before now) :
      Step ground usage ⟨settings, store⟩
        ⟨settings,
          ((ground.project settings).compileString store ground.here now format caller source).store⟩
  | clean [ListingOrder] {settings : Settings} {store : Store} (now : Time) (expire : Nat) :
      Step ground usage ⟨settings, store⟩
        ⟨settings, ((ground.project settings).clean store ground.here now expire).store⟩

/-- A project that was not used yet: nothing is in its caches. -/
structure Site.Unused (ground : Ground) (usage : Usage) (site : Site) : Prop where
  settings : site.settings ∈ usage.settings
  tree : site.store.IsTree
  here : site.store.node? ground.here = some .directory
  empty : ∀ location, ground.InCache usage location → site.store.isFile location = false

/-! ## Coherence -/

/-- The contents of an artifact are those that its name stands for.  The artifact of
    a template that was written since can be anything. -/
def Ground.Holds (ground : Ground) (store : Store) (contents : ByteArray) (time : Time) :
    Entry → Prop
  | .template settings format name =>
    ∀ source written, store.node? (ground.template settings name) = some (.file source written) →
      written ≤ time → ∃ text artifact, Text.decode? source = some text ∧
        ((ground.project settings).compiler.build format text (ground.origin settings name)).2 =
          .ok artifact ∧ contents = Text.encode artifact.contents
  | .text settings format source =>
    ∃ artifact, contents = Text.encode artifact.contents ∧ ∀ file line,
      ((ground.project settings).compiler.build format source (.string file line)).2 = .ok artifact

/-- Every artifact is what its name and its time say. -/
structure Coherent (ground : Ground) (usage : Usage) (store : Store) : Prop where
  tree : store.IsTree
  here : store.node? ground.here = some .directory
  holds : ∀ entry contents time, usage.Has entry →
    store.node? (ground.artifact entry) = some (.file contents time) →
    ground.Holds store contents time entry

section Coherence

variable {ground : Ground} {usage : Usage} {store later : Store}

theorem artifact_inCache {entry : Entry} (has : usage.Has entry) :
    ground.InCache usage (ground.artifact entry) := by
  refine ⟨entry.settings, ?_, List.dropLast_concat⟩
  cases entry with
  | template => exact has.1
  | text => exact has.1

theorem coherent_of_unused {site : Site} (unused : site.Unused ground usage) :
    Coherent ground usage site.store := by
  refine ⟨unused.tree, unused.here, fun entry contents time has file => ?_⟩
  have noFile := unused.empty _ (artifact_inCache has)
  rw [Store.isFile_iff.2 ⟨contents, time, file⟩] at noFile
  cases noFile

/-- What holds of an artifact stays as long as no template is written. -/
theorem Ground.Holds.of_files {contents : ByteArray} {time : Time} {entry : Entry}
    (holds : ground.Holds store contents time entry)
    (files : ∀ location contents written,
      later.node? location = some (.file contents written) →
      store.node? location = some (.file contents written)) :
    ground.Holds later contents time entry := by
  cases entry with
  | template settings format name =>
    exact fun source written there => holds source written (files _ _ _ there)
  | text => exact holds

theorem Coherent.grow (coherent : Coherent ground usage store) (grows : store.GrowsTo later)
    (tree : later.IsTree) : Coherent ground usage later := by
  refine ⟨tree, grows.keepsDirectories _ coherent.here, fun entry contents time has file => ?_⟩
  have holds := coherent.holds entry contents time has (grows.file_iff.1 file)
  exact holds.of_files fun _ _ _ => grows.file_iff.1

theorem Coherent.lose (coherent : Coherent ground usage store) (loses : LosesFiles store later) :
    Coherent ground usage later := by
  have files (location : Location) (contents : ByteArray) (written : Time)
      (file : later.node? location = some (.file contents written)) :
      store.node? location = some (.file contents written) := by
    rcases loses location with same | ⟨-, gone⟩
    · rwa [← same]
    · rw [gone] at file
      cases file
  have here := loses.keepsDirectories _ coherent.here
  refine ⟨loses.isTree coherent.tree, here, fun entry contents time has file => ?_⟩
  exact (coherent.holds entry contents time has (files _ _ _ file)).of_files files

/-- A new file keeps the cache coherent if it is no artifact, or the right one. -/
theorem Coherent.write {location : Location} {contents : ByteArray} {now : Time}
    (coherent : Coherent ground usage store)
    (inside : store.node? location.dropLast = some .directory)
    (free : store.node? location ≠ some .directory) (newest : store.Before now)
    (right : ∀ entry, usage.Has entry → ground.artifact entry = location →
      ground.Holds (store.put location (.file contents now)) contents now entry) :
    Coherent ground usage (store.put location (.file contents now)) := by
  have below : location ≠ [] := by
    rintro rfl
    exact free rfl
  refine ⟨coherent.tree.put below inside (.inr free), keepsDirectories_put free _ coherent.here, ?_⟩
  intro entry contents' time has file
  by_cases same : ground.artifact entry = location
  · rw [same, Store.node?_put_self below] at file
    cases file
    exact right entry has same
  · rw [Store.node?_put_of_ne same] at file
    have holds := coherent.holds entry contents' time has file
    have older := newest _ _ _ file
    cases entry with
    | text => exact holds
    | template settings format name =>
      intro source written there
      by_cases here : ground.template settings name = location
      · -- The template is newer than the artifact now.
        rw [here, Store.node?_put_self below] at there
        cases there
        intro notNewer
        exact absurd notNewer (Int.not_le.2 older)
      · rw [Store.node?_put_of_ne here] at there
        exact holds source written there

/-! ## Steps -/

theorem artifact_injective (distinct : usage.Distinct) {one other : Entry} (oneHas : usage.Has one)
    (otherHas : usage.Has other) (same : ground.artifact one = ground.artifact other) :
    one = other := by
  have names := (List.append_inj' same rfl).2
  exact Usage.fileName_injective distinct oneHas otherHas (List.cons.inj names).1

theorem destination_artifactPath (settings : Settings) (format : Format) (name : List Char) :
    destination ground.here ((ground.project settings).artifactPath format name) =
      ground.artifact (.template settings format name) := by
  rw [artifactPath_eq, destination_joinPath (isFileName_fileName _)]
  rfl

theorem destination_stringPath (settings : Settings) (format : Format) (source : List Char) :
    destination ground.here ((ground.project settings).stringPath format source) =
      ground.artifact (.text settings format source) := by
  rw [stringPath_eq, destination_joinPath (isFileName_fileName _)]
  rfl

/-- Templates lie outside the caches. -/
def Apart (ground : Ground) (usage : Usage) : Prop :=
  ∀ settings ∈ usage.settings, ∀ name ∈ usage.names,
    ¬ ground.InCache usage (ground.template settings name)

instance (ground : Ground) (usage : Usage) : Decidable (Apart ground usage) :=
  inferInstanceAs (Decidable (∀ settings ∈ usage.settings, ∀ name ∈ usage.names, ¬ _))

/-- Writing the artifact of an entry keeps the cache coherent. -/
theorem Coherent.wrote {now : Time} {path text : List Char} {entry : Entry}
    (distinct : usage.Distinct) (coherent : Coherent ground usage store) (newest : store.Before now)
    (has : usage.Has entry) (place : destination ground.here path = ground.artifact entry)
    (wrote : Wrote store ground.here now path text later)
    (right : ground.Holds later (Text.encode text) now entry) : Coherent ground usage later := by
  obtain ⟨made, grows, tree, inside, free, rfl, -⟩ := wrote
  have newest : made.Before now := fun location contents written file =>
    newest location contents written (grows.file_iff.1 file)
  refine (coherent.grow grows tree).write inside free newest fun other otherHas same => ?_
  rw [artifact_injective distinct otherHas has (same.trans place)]
  exact right

theorem Wrote.contains {here : Location} {now : Time} {path text : List Char}
    (wrote : Wrote store here now path text later) : later.Contains here path text := by
  obtain ⟨made, grows, tree, inside, free, rfl, resolved⟩ := wrote
  have below : destination here path ≠ [] := by
    intro top
    rw [top] at free
    exact free rfl
  exact ⟨_, now, resolved, Store.node?_put_self below⟩

theorem Wrote.readText {here : Location} {now : Time} {path text other source : List Char}
    (wrote : Wrote store here now path text later)
    (different : destination here other ≠ destination here path)
    (read : store.readText here other = .ok source) : later.readText here other = .ok source := by
  obtain ⟨contents, written, ⟨resolved, file⟩, decoded⟩ := Store.readText_eq_ok_iff.1 read
  obtain ⟨made, grows, tree, inside, free, rfl, -⟩ := wrote
  have reaches := grows.keepsDirectories.resolve resolved
  have kept : (made.put (destination here path) (.file (Text.encode text) now)).node?
      (destination here other) = some (.file contents written) := by
    rw [Store.node?_put_of_ne different]
    exact grows.file_iff.2 file
  exact Store.readText_eq_ok_iff.2
    ⟨contents, written, ⟨(keepsDirectories_put free).resolve reaches, kept⟩, decoded⟩

/-- What was read for a template is what its artifact stands for. -/
theorem Wrote.holds_template {settings : Settings} {now : Time} {path name source : List Char}
    {format : Format} {artifact : Artifact} (apart : Apart ground usage)
    (has : usage.Has (.template settings format name))
    (place : destination ground.here path = ground.artifact (.template settings format name))
    (wrote : Wrote store ground.here now path artifact.contents later)
    (read : store.readText ground.here ((ground.project settings).templatePath name) = .ok source)
    (built : ((ground.project settings).compiler.build format source
      (ground.origin settings name)).2 = .ok artifact) :
    later.readText ground.here ((ground.project settings).templatePath name) = .ok source ∧
      ground.Holds later (Text.encode artifact.contents) now (.template settings format name) := by
  have different : ground.template settings name ≠ destination ground.here path := by
    intro same
    rw [place] at same
    exact apart settings has.1 name has.2 (same ▸ artifact_inCache has)
  have again := wrote.readText different read
  refine ⟨again, fun contents written file _ => ⟨source, artifact, ?_, built, rfl⟩⟩
  obtain ⟨contents', written', ⟨-, file'⟩, decoded⟩ := Store.readText_eq_ok_iff.1 again
  cases file.symm.trans file'
  exact decoded

/-- A text becomes the same artifact whoever hands it over. -/
theorem holds_text {settings : Settings} {now : Time} {source : List Char} {format : Format}
    {artifact : Artifact} {caller : Caller}
    (built : ((ground.project settings).compiler.build format source
      (.string caller.file caller.line)).2 = .ok artifact) :
    ground.Holds later (Text.encode artifact.contents) now (.text settings format source) := by
  refine ⟨artifact, rfl, fun file line => ?_⟩
  have same : (Origin.string caller.file caller.line).directory =
      (Origin.string file line).directory := rfl
  exact Program.build_of_directory same built

/-- A step keeps the cache coherent. -/
theorem coherent_step {site next : Site} (distinct : usage.Distinct) (apart : Apart ground usage)
    (used : site.settings ∈ usage.settings) (coherent : Coherent ground usage site.store)
    (step : Step ground usage site next) :
    next.settings ∈ usage.settings ∧ Coherent ground usage next.store := by
  cases step with
  | write location contents now inside free outside newest =>
    refine ⟨used, coherent.write inside free newest fun entry has same => ?_⟩
    exact absurd (same ▸ artifact_inCache has) outside
  | remove location contents written file outside =>
    exact ⟨used, coherent.lose (losesFiles_remove file)⟩
  | makeDirectory location inside free =>
    have below : location ≠ [] := by
      rintro rfl
      cases free
    exact ⟨used, coherent.grow (Store.growsTo_put free)
      (coherent.tree.put below inside (.inl rfl))⟩
  | configure other otherUsed => exact ⟨otherUsed, coherent⟩
  | @compileTemplate settings store now format force name named newest =>
    refine ⟨used, ?_⟩
    have place := @destination_artifactPath ground settings format name
    cases compileTemplate_handout (ground.project settings) now format force name coherent.tree
      coherent.here with
    | failed error result grows tree => exact coherent.grow grows tree
    | kept result same kept => exact same ▸ coherent
    | wrote artifact result made wrote =>
      obtain ⟨source, read, built⟩ := made
      have has : usage.Has (.template settings format name) := ⟨used, named⟩
      exact coherent.wrote distinct newest has place wrote
        (wrote.holds_template apart has place read built).2
  | @compileString settings store now format caller source read newest =>
    refine ⟨used, ?_⟩
    have place := @destination_stringPath ground settings format source
    cases compileString_handout (ground.project settings) now format caller source coherent.tree
      coherent.here with
    | failed error result grows tree => exact coherent.grow grows tree
    | kept result same kept => exact same ▸ coherent
    | wrote artifact result built wrote =>
      have has : usage.Has (.text settings format source) := ⟨used, read⟩
      exact coherent.wrote distinct newest has place wrote (holds_text built)
  | @clean order settings store now expire =>
    have loses := (ground.project settings).clean_losesFiles store ground.here now expire
    exact ⟨used, coherent.lose loses⟩

/-- Every run keeps the cache coherent. -/
theorem coherent_of_reached {initial site : Site} (distinct : usage.Distinct)
    (apart : Apart ground usage) (unused : initial.Unused ground usage)
    (reached : Relation.ReflTransGen (Step ground usage) initial site) :
    site.settings ∈ usage.settings ∧ Coherent ground usage site.store := by
  induction reached with
  | refl => exact ⟨unused.settings, coherent_of_unused unused⟩
  | tail _ step ih => exact coherent_step distinct apart ih.1 ih.2 step

/-! ## What is handed out -/

/-- An artifact that is not stale is not older than its template. -/
theorem times_of_fresh {project : Project} {here : Location} {template artifact : List Char}
    (fresh : project.isStale store here template artifact = false) :
    ∃ read written, store.writtenAt? here template = some read ∧
      store.writtenAt? here artifact = some written ∧ read ≤ written := by
  simp only [Project.isStale, Bool.or_eq_false_iff] at fresh
  obtain ⟨-, times⟩ := fresh
  split at times
  · rename_i read written readAt writtenAt
    exact ⟨read, written, readAt, writtenAt, Int.not_lt.1 (by simpa using times)⟩
  · cases times

/-- What compiling hands out at a site.  The path that it yields leads to the
    artifact of what the template is then, or of the text. -/
structure Accurate (ground : Ground) (usage : Usage) (site : Site) : Prop where
  template : ∀ now format force name path, name ∈ usage.names → site.store.Before now →
    let project := ground.project site.settings
    let outcome := project.compileTemplate site.store ground.here now format force name
    outcome.result = .ok path → ∃ source artifact,
      outcome.store.readText ground.here (project.templatePath name) = .ok source ∧
      (project.compiler.build format source (ground.origin site.settings name)).2 = .ok artifact ∧
      outcome.store.Contains ground.here path artifact.contents
  text : ∀ now format caller source path, source ∈ usage.sources → site.store.Before now →
    let project := ground.project site.settings
    let outcome := project.compileString site.store ground.here now format caller source
    outcome.result = .ok path → ∃ artifact,
      (project.compiler.build format source (.string caller.file caller.line)).2 = .ok artifact ∧
      outcome.store.Contains ground.here path artifact.contents

theorem Coherent.accurate {site : Site} (apart : Apart ground usage)
    (used : site.settings ∈ usage.settings) (coherent : Coherent ground usage site.store) :
    Accurate ground usage site := by
  obtain ⟨settings, store⟩ := site
  constructor
  case template =>
    intro now format force name path named newest project outcome yields
    have has : usage.Has (.template settings format name) := ⟨used, named⟩
    have place := @destination_artifactPath ground settings format name
    cases compileTemplate_handout project now format force name coherent.tree coherent.here with
    | failed error result => exact absurd (result.symm.trans yields) (by simp)
    | kept result same kept =>
      obtain rfl := Except.ok.inj (result.symm.trans yields)
      obtain ⟨read, written, readAt, writtenAt, order⟩ := times_of_fresh kept.2
      obtain ⟨text, resolved, file⟩ := Store.writtenAt?_eq_some_iff.1 readAt
      obtain ⟨contents, artifactResolved, artifactFile⟩ := Store.writtenAt?_eq_some_iff.1 writtenAt
      have holds := coherent.holds _ contents written has (place ▸ artifactFile)
      obtain ⟨source, artifact, decoded, built, rfl⟩ := holds text read file order
      have current := Store.readText_eq_ok_iff.2 ⟨text, read, ⟨resolved, file⟩, decoded⟩
      exact ⟨source, artifact, same ▸ current, built, same ▸ ⟨_, _, artifactResolved, artifactFile⟩⟩
    | wrote artifact result made wrote =>
      obtain rfl := Except.ok.inj (result.symm.trans yields)
      obtain ⟨source, read, built⟩ := made
      exact ⟨source, artifact, (wrote.holds_template apart has place read built).1, built,
        wrote.contains⟩
  case text =>
    intro now format caller source path named newest project outcome yields
    have has : usage.Has (.text settings format source) := ⟨used, named⟩
    have place := @destination_stringPath ground settings format source
    cases compileString_handout project now format caller source coherent.tree coherent.here with
    | failed error result => exact absurd (result.symm.trans yields) (by simp)
    | kept result same kept =>
      obtain rfl := Except.ok.inj (result.symm.trans yields)
      obtain ⟨contents, written, resolved, file⟩ := Store.holdsFile_iff.1 kept
      obtain ⟨artifact, rfl, built⟩ := coherent.holds _ contents written has (place ▸ file)
      exact ⟨artifact, built _ _, same ▸ ⟨_, _, resolved, file⟩⟩
    | wrote artifact result built wrote =>
      obtain rfl := Except.ok.inj (result.symm.trans yields)
      exact ⟨artifact, built, wrote.contains⟩

end Coherence

/-- After any run of a project, compiling hands out the artifact of what the template
    and the settings are now. -/
theorem compile_coherent (ground : Ground) (usage : Usage) (initial site : Site)
    (distinct : usage.Distinct) (apart : Apart ground usage)
    (unused : initial.Unused ground usage)
    (reached : Relation.ReflTransGen (Step ground usage) initial site) :
    Accurate ground usage site := by
  obtain ⟨used, coherent⟩ := coherent_of_reached distinct apart unused reached
  exact coherent.accurate apart used

/-- A template is compiled and then written anew, and compiling yields a path again. -/
theorem compile_coherent_rewritten :
    let ground : Ground := ⟨[], [], .empty⟩
    let usage : Usage := ⟨[{}, { autoEscape := true }], ["a".toList], []⟩
    let template : Location := ["templates".toList, "a.html".toList]
    let initial : Site := ⟨{}, ⟨[(["templates".toList], .directory),
      (template, .file (Text.encode "x".toList) 1)]⟩⟩
    let project := ground.project {}
    let compiled := (project.compileTemplate initial.store [] 2 .php false "a".toList).store
    let site : Site := ⟨{}, compiled.put template (.file (Text.encode "y".toList) 3)⟩
    usage.Distinct ∧ Apart ground usage ∧ initial.Unused ground usage ∧
      Relation.ReflTransGen (Step ground usage) initial site ∧ Accurate ground usage site ∧
      site.store.Before 4 ∧
      (project.compileTemplate site.store [] 4 .php false "a".toList).result =
        .ok (project.artifactPath .php "a".toList) := by
  intro ground usage template initial project compiled site
  have distinct : usage.Distinct :=
    ⟨by decide +kernel, by decide +kernel, by decide +kernel, by decide +kernel⟩
  have apart : Apart ground usage := by decide +kernel
  have files : ∀ entry ∈ initial.store.nodes, ground.InCache usage entry.1 →
      initial.store.isFile entry.1 = false := by
    decide +kernel
  have unused : initial.Unused ground usage := by
    refine ⟨.head _, Store.isTree_of_nodes (by decide +kernel), rfl, fun location inCache => ?_⟩
    by_contra present
    obtain ⟨contents, written, file⟩ := Store.isFile_iff.1 (by simpa using present)
    have below : location ≠ [] := by
      rintro rfl
      cases file
    exact present (files _ (Store.mem_of_node? below file) inCache)
  have compiles : Step ground usage initial ⟨{}, compiled⟩ :=
    .compileTemplate 2 .php false "a".toList (.head _) (before_of_nodes (by decide +kernel))
  have rewrites : Step ground usage ⟨{}, compiled⟩ site := by
    refine .write template _ 3 (Store.isDirectory_iff.1 (by decide +kernel)) ?_ (by decide +kernel)
      (before_of_nodes (by decide +kernel))
    intro directory
    exact absurd (Store.isDirectory_iff.2 directory) (by decide +kernel)
  have reached := (Relation.ReflTransGen.single compiles).tail rewrites
  exact ⟨distinct, apart, unused, reached, compile_coherent _ _ _ _ distinct apart unused reached,
    before_of_nodes (by decide +kernel), by decide +kernel⟩

end Stencil
