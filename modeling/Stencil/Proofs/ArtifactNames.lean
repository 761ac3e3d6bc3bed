import Stencil.Project.Build
import Stencil.Proofs.Locations
import Stencil.Proofs.SettingsDigest

/-! # The names of artifacts

The name of an artifact tells what it was made of: the format by its end, the
settings and the source or the directory of the template by a digest, and the
template's name by what stands in front.  This takes digests that do not collide
on what they are made of.

* `Entry` — what an artifact is made of;
* `Entry.fileName` — the file in the cache that holds it;
* `Usage` — the settings, templates and texts that a project is used with;
* `fileName_injective` — different artifacts have different files.
-/

namespace Stencil

open Stencil.Digest (sha256Hex length_sha256Hex)
open Stencil.Program (Format)
open Stencil.Text (bytes bytes_append bytes_injective replaceChar)

/-! ## Names of templates -/

theorem replaceChar_of_not_mem {text : List Char} (plain : '/' ∉ text) :
    replaceChar '/' ['.'] text = text := by
  induction text with
  | nil => rfl
  | cons c text ih =>
    simp only [List.mem_cons, not_or] at plain
    have rest := ih plain.2
    unfold replaceChar at rest ⊢
    rw [List.flatMap_cons, rest, if_neg (Ne.symm plain.1)]
    rfl

theorem slash_not_mem_replaceChar (text : List Char) : '/' ∉ replaceChar '/' ['.'] text := by
  simp only [replaceChar, List.mem_flatMap, not_exists, not_and]
  intro c _
  split
  · simp
  · rename_i other
    simpa using Ne.symm other

/-- Names that are looked for in the directory of templates. -/
def IsRelative (name : List Char) : Prop := name.head? ≠ some '/'

instance (name : List Char) : Decidable (IsRelative name) :=
  inferInstanceAs (Decidable (_ ≠ _))

/-- The directory of a template, as the settings and its name put it. -/
def directoryOf (settings : Settings) (name : List Char) : List Char :=
  if name.head? = some '/' then folderOf name else settings.templateDir ++ folderOf name

/-- What is left of a text without the slashes in front. -/
def withoutSlashes (text : List Char) : List Char := text.dropWhile (· = '/')

theorem withoutSlashes_of_head {text : List Char} (other : text.head? ≠ some '/') :
    withoutSlashes text = text := by
  cases text with
  | nil => rfl
  | cons c text => exact List.dropWhile_cons_of_neg (by simpa using other)

theorem withoutSlashes_append {tail : List Char} (other : tail.head? ≠ some '/')
    (text : List Char) : withoutSlashes (text ++ tail) = withoutSlashes text ++ tail := by
  have kept := withoutSlashes_of_head other
  unfold withoutSlashes at kept ⊢
  rw [List.dropWhile_append]
  split
  · rename_i bare
    rw [List.isEmpty_iff.1 bare, kept, List.nil_append]
  · rfl

/-- The last part of a name is kept, and only the folder is flattened. -/
theorem cacheName_eq (name : List Char) :
    Project.cacheName name =
      replaceChar '/' ['.'] (withoutSlashes (folderOf name)) ++ baseOf name := by
  have plain := slash_not_mem_baseOf name
  have parts : withoutSlashes name = withoutSlashes (folderOf name) ++ baseOf name := by
    conv_lhs => rw [← folderOf_append_baseOf name]
    exact withoutSlashes_append (fun first => plain (List.mem_of_head? first)) _
  show replaceChar '/' ['.'] (withoutSlashes name) = _
  rw [parts, replaceChar, List.flatMap_append]
  congr 1
  exact replaceChar_of_not_mem plain

theorem baseOf_eq_of_folder {one other : List Char} (folders : folderOf one = folderOf other)
    (keys : Project.cacheName one = Project.cacheName other) : baseOf one = baseOf other := by
  rw [cacheName_eq, cacheName_eq, folders] at keys
  exact List.append_cancel_left keys

/-! ## Entries of the cache -/

/-- What an artifact is made of. -/
inductive Entry where
  | template (settings : Settings) (format : Format) (name : List Char)
  | text (settings : Settings) (format : Format) (source : List Char)

/-- What a digest is made of in the name of a template's artifact. -/
def templateMessage (settings : Settings) (name : List Char) : List UInt8 :=
  bytes (directoryOf settings name) ++ bytes settings.checksum

/-- What a digest is made of in the name of a text's artifact. -/
def textMessage (settings : Settings) (source : List Char) : List UInt8 :=
  bytes source ++ bytes settings.checksum

namespace Entry

def settings : Entry → Settings
  | template settings _ _ | text settings _ _ => settings

def format : Entry → Format
  | template _ format _ | text _ format _ => format

/-- What stands in front of the format in the name of an artifact. -/
def stem : Entry → List Char
  | template settings _ name =>
    Project.cacheName name ++ '.' :: (sha256Hex (templateMessage settings name)).take 8
  | text settings _ source => sha256Hex (textMessage settings source) ++ ".s".toList

/-- The file that holds an artifact. -/
def fileName (entry : Entry) : List Char := entry.stem ++ '.' :: entry.format.extension

end Entry

theorem Entry.stem_template (settings : Settings) (format : Format) (name : List Char) :
    (template settings format name).stem =
      Project.cacheName name ++ '.' :: (sha256Hex (templateMessage settings name)).take 8 := rfl

theorem Entry.stem_text (settings : Settings) (format : Format) (source : List Char) :
    (text settings format source).stem =
      sha256Hex (textMessage settings source) ++ ".s".toList := rfl

theorem artifactPath_eq (project : Project) (format : Format) (name : List Char) :
    project.artifactPath format name =
      joinPath project.cacheDirectory (Entry.template project.settings format name).fileName := rfl

theorem stringPath_eq (project : Project) (format : Format) (source : List Char) :
    project.stringPath format source =
      joinPath project.cacheDirectory (Entry.text project.settings format source).fileName := by
  have split : ".s.".toList ++ format.extension = ".s".toList ++ '.' :: format.extension := rfl
  rw [Project.stringPath, List.append_assoc, split, ← List.append_assoc, Entry.fileName, Entry.stem,
    textMessage, Entry.format]

/-! ## Digits -/

theorem ne_of_mem_sha256Hex {message : List UInt8} {c : Char} (listed : c ∈ sha256Hex message) :
    c ≠ '/' ∧ c ≠ 's' := by
  have digits : ∀ n < 16, Nat.digitChar n ≠ '/' ∧ Nat.digitChar n ≠ 's' := by decide
  simp only [sha256Hex, Digest.hexWord, List.mem_flatMap, List.mem_map] at listed
  obtain ⟨word, -, index, -, rfl⟩ := listed
  exact digits _ (Nat.mod_lt _ (by decide))

theorem slash_not_mem_sha256Hex (message : List UInt8) : '/' ∉ sha256Hex message :=
  fun inside => (ne_of_mem_sha256Hex inside).1 rfl

theorem slash_not_mem_stem (entry : Entry) : '/' ∉ entry.stem := by
  intro inside
  cases entry with
  | template settings format name =>
    rw [Entry.stem_template] at inside
    rcases List.mem_append.1 inside with key | rest
    · exact slash_not_mem_replaceChar _ key
    · rcases List.mem_cons.1 rest with dot | digits
      · exact absurd dot (by decide)
      · exact slash_not_mem_sha256Hex _ (List.mem_of_mem_take digits)
  | text settings format source =>
    rw [Entry.stem_text] at inside
    rcases List.mem_append.1 inside with digits | mark
    · exact slash_not_mem_sha256Hex _ digits
    · exact absurd mark (by decide)

/-- The name of an artifact is one that a directory can list. -/
theorem isFileName_fileName (entry : Entry) : IsFileName entry.fileName := by
  have extension : '/' ∉ '.' :: entry.format.extension := by
    cases entry.format <;> decide
  have long : 2 < entry.fileName.length := by
    have extended : 2 ≤ entry.format.extension.length := by
      cases entry.format <;> decide
    rw [Entry.fileName, List.length_append, List.length_cons]
    omega
  constructor
  case slash => exact fun inside => (List.mem_append.1 inside).elim (slash_not_mem_stem entry) extension
  case nonempty => exact fun same => by simp [same] at long
  case dot => exact fun same => by simp [same] at long
  case dots => exact fun same => by simp [same] at long

/-! ## What names tell -/

/-- What stands in front of a checksum can be told from it. -/
theorem bytes_checksum_inj {left right : Settings} {one other : List Char}
    (same : bytes one ++ bytes left.checksum = bytes other ++ bytes right.checksum) :
    one = other ∧ left.checksum = right.checksum := by
  rw [← bytes_append, ← bytes_append] at same
  have lengths : left.checksum.length = right.checksum.length := by
    rw [Settings.checksum, Settings.checksum, length_sha256Hex, length_sha256Hex]
  exact List.append_inj' (bytes_injective same) lengths

namespace Entry

variable {one other : Entry} {left right : Settings} {format format' : Format}
  {name name' source : List Char}

theorem fileName_inj (same : one.fileName = other.fileName) :
    one.format = other.format ∧ one.stem = other.stem := by
  unfold fileName at same
  generalize one.stem = stem at same ⊢
  generalize other.stem = stem' at same ⊢
  -- The formats differ in the last letter.
  have php : Format.php.extension = "mtpl.ph".toList ++ ['p'] := rfl
  have json : Format.json.extension = "mtpl.jso".toList ++ ['n'] := rfl
  cases mine : one.format <;> cases theirs : other.format <;> rw [mine, theirs] at same
  · exact ⟨rfl, List.append_cancel_right same⟩
  · rw [php, json, ← List.cons_append, ← List.cons_append, ← List.append_assoc,
      ← List.append_assoc] at same
    exact absurd (List.append_inj' same rfl).2 (by decide)
  · rw [php, json, ← List.cons_append, ← List.cons_append, ← List.append_assoc,
      ← List.append_assoc] at same
    exact absurd (List.append_inj' same rfl).2 (by decide)
  · exact ⟨rfl, List.append_cancel_right same⟩

theorem stem_template_inj
    (same : (template left format name).stem = (template right format' name').stem) :
    Project.cacheName name = Project.cacheName name' ∧
      (sha256Hex (templateMessage left name)).take 8 =
        (sha256Hex (templateMessage right name')).take 8 := by
  have lengths : ('.' :: (sha256Hex (templateMessage left name)).take 8).length =
      ('.' :: (sha256Hex (templateMessage right name')).take 8).length := by
    simp [length_sha256Hex]
  obtain ⟨keys, digests⟩ := List.append_inj' same lengths
  exact ⟨keys, (List.cons.inj digests).2⟩

/-- The stem of a template's artifact ends in a digit, that of a text's does not. -/
theorem stem_template_ne_text :
    (template left format name).stem ≠ (text right format' source).stem := by
  intro same
  rw [stem_template, stem_text] at same
  have digit : ∀ c ∈ (sha256Hex (templateMessage left name)).take 8, c ≠ 's' := fun c inside =>
    (ne_of_mem_sha256Hex (List.mem_of_mem_take inside)).2
  have long : ((sha256Hex (templateMessage left name)).take 8).length = 8 := by
    rw [List.length_take, length_sha256Hex]
    rfl
  generalize (sha256Hex (templateMessage left name)).take 8 = digits at *
  generalize sha256Hex (textMessage right source) = digest at same
  rcases List.eq_nil_or_concat digits with rfl | ⟨front, last, rfl⟩
  · cases long
  · have split : (Project.cacheName name ++ '.' :: front) ++ [last] = (digest ++ ['.']) ++ ['s'] := by
      simpa using same
    exact digit last (by simp) (List.cons.inj (List.append_inj' split rfl).2).1

end Entry

/-! ## Different entries -/

/-- What a project is used with. -/
structure Usage where
  settings : List Settings
  names : List (List Char)
  sources : List (List Char)

namespace Usage

variable {usage : Usage} {left right : Settings}

/-- The artifact of an entry can be asked for. -/
def Has (usage : Usage) : Entry → Prop
  | .template settings _ name => settings ∈ usage.settings ∧ name ∈ usage.names
  | .text settings _ source => settings ∈ usage.settings ∧ source ∈ usage.sources

/-- The digests tell apart what they are made of, and no name skips the directory of
    templates. -/
structure Distinct (usage : Usage) : Prop where
  checksums : NoCollisions sha256Hex (usage.settings.map Settings.message)
  templates : NoCollisions (fun message => (sha256Hex message).take 8)
    (usage.settings.flatMap fun settings => usage.names.map (templateMessage settings))
  texts : NoCollisions sha256Hex
    (usage.settings.flatMap fun settings => usage.sources.map (textMessage settings))
  relative : ∀ name ∈ usage.names, IsRelative name

/-- A text and settings can be told from the message of a digest. -/
theorem message_inj (distinct : usage.Distinct) {one other : List Char}
    (leftUsed : left ∈ usage.settings) (rightUsed : right ∈ usage.settings)
    (same : bytes one ++ bytes left.checksum = bytes other ++ bytes right.checksum) :
    one = other ∧ left = right := by
  obtain ⟨texts, checksums⟩ := bytes_checksum_inj same
  exact ⟨texts, Settings.checksum_injective distinct.checksums leftUsed rightUsed checksums⟩

theorem templateStem_inj (distinct : usage.Distinct) {format format' : Format}
    {one other : List Char} (leftHas : usage.Has (.template left format one))
    (rightHas : usage.Has (.template right format' other))
    (same : (Entry.template left format one).stem = (Entry.template right format' other).stem) :
    left = right ∧ one = other := by
  obtain ⟨leftUsed, oneUsed⟩ := leftHas
  obtain ⟨rightUsed, otherUsed⟩ := rightHas
  obtain ⟨keys, digests⟩ := Entry.stem_template_inj same
  have listed {settings : Settings} {name : List Char} (used : settings ∈ usage.settings)
      (named : name ∈ usage.names) : templateMessage settings name ∈
        usage.settings.flatMap fun settings => usage.names.map (templateMessage settings) :=
    List.mem_flatMap.2 ⟨settings, used, List.mem_map_of_mem named⟩
  have messages := distinct.templates _ (listed leftUsed oneUsed) _ (listed rightUsed otherUsed)
    digests
  obtain ⟨directories, rfl⟩ := message_inj distinct leftUsed rightUsed messages
  have oneRelative := distinct.relative one oneUsed
  have otherRelative := distinct.relative other otherUsed
  rw [directoryOf, directoryOf, if_neg oneRelative, if_neg otherRelative] at directories
  have folders := List.append_cancel_left directories
  have names : one = other := by
    rw [← folderOf_append_baseOf one, ← folderOf_append_baseOf other, folders,
      baseOf_eq_of_folder folders keys]
  exact ⟨rfl, names⟩

theorem textStem_inj (distinct : usage.Distinct) {format format' : Format} {one other : List Char}
    (leftHas : usage.Has (.text left format one)) (rightHas : usage.Has (.text right format' other))
    (same : (Entry.text left format one).stem = (Entry.text right format' other).stem) :
    left = right ∧ one = other := by
  obtain ⟨leftUsed, oneUsed⟩ := leftHas
  obtain ⟨rightUsed, otherUsed⟩ := rightHas
  have listed {settings : Settings} {source : List Char} (used : settings ∈ usage.settings)
      (read : source ∈ usage.sources) : textMessage settings source ∈
        usage.settings.flatMap fun settings => usage.sources.map (textMessage settings) :=
    List.mem_flatMap.2 ⟨settings, used, List.mem_map_of_mem read⟩
  have messages := distinct.texts _ (listed leftUsed oneUsed) _ (listed rightUsed otherUsed)
    (List.append_cancel_right same)
  exact (message_inj distinct leftUsed rightUsed messages).symm

/-- Different artifacts have different files. -/
theorem fileName_injective (distinct : usage.Distinct) {one other : Entry} (oneUsed : usage.Has one)
    (otherUsed : usage.Has other) (same : one.fileName = other.fileName) : one = other := by
  obtain ⟨formats, stems⟩ := Entry.fileName_inj same
  cases one with
  | template settings format name =>
    cases other with
    | template settings' format' name' =>
      obtain ⟨rfl, rfl⟩ := templateStem_inj distinct oneUsed otherUsed stems
      cases formats
      rfl
    | text => exact absurd stems Entry.stem_template_ne_text
  | text settings format source =>
    cases other with
    | template => exact absurd stems.symm Entry.stem_template_ne_text
    | text settings' format' source' =>
      obtain ⟨rfl, rfl⟩ := textStem_inj distinct oneUsed otherUsed stems
      cases formats
      rfl

end Usage

end Stencil
