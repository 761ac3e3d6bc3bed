import Stencil.Proofs.ArtifactNames

/-! # Other settings, other files

The path of an artifact ends in a name that carries a digest of the settings, so
settings that differ in anything never lead to the same file, whatever is looked
up with them.  The file of a template is never that of a text either.

* `Coincide` — paths that lead to the same place;
* `Entry.path` — the path of an artifact, as a project gives it;
* `Entry.Distinct` — digests that tell apart what they are made of;
* `settings_eq_of_fileName` — the settings can be told from the name of a file;
* `artifacts_apart` — so settings that differ have different files.
-/

namespace Stencil

open Stencil.Digest (sha256Hex)
open Stencil.Program (Format)
open Stencil.Tag (Registry)

variable {one other : Entry} {root : List Char} {registry : Registry}

/-! ## Paths -/

/-- Paths that lead to the same place from some directory.  Equal paths do, and so do
    paths that are equal part by part. -/
def Coincide (path path' : List Char) : Prop :=
  ∃ here, destination here path = destination here path'

/-- Files at the same place have the same name. -/
theorem Coincide.name_eq {name name' directory directory' : List Char} (isName : IsFileName name)
    (isName' : IsFileName name')
    (same : Coincide (joinPath directory name) (joinPath directory' name')) : name = name' := by
  obtain ⟨here, same⟩ := same
  rw [destination_joinPath isName, destination_joinPath isName'] at same
  exact (List.cons.inj (List.append_inj' same rfl).2).1

namespace Entry

/-- Where a project with the settings of an entry keeps its artifact. -/
def path (root : List Char) (registry : Registry) : Entry → List Char
  | template settings format name => (Project.mk root settings registry).artifactPath format name
  | text settings format source => (Project.mk root settings registry).stringPath format source

theorem path_eq (root : List Char) (registry : Registry) (entry : Entry) :
    entry.path root registry =
      joinPath (Project.mk root entry.settings registry).cacheDirectory entry.fileName := by
  cases entry with
  | template settings format name => exact artifactPath_eq _ _ _
  | text settings format source => exact stringPath_eq _ _ _

theorem fileName_eq_of_coincide
    (same : Coincide (one.path root registry) (other.path root registry)) :
    one.fileName = other.fileName := by
  rw [path_eq, path_eq] at same
  exact same.name_eq (isFileName_fileName one) (isFileName_fileName other)

/-! ## Digests -/

/-- What is digested to eight digits for the name of an artifact. -/
def shortMessages : Entry → List (List UInt8)
  | template settings _ name => [templateMessage settings name]
  | text .. => []

/-- What is digested to all digits for the name of an artifact. -/
def longMessages : Entry → List (List UInt8)
  | template settings _ _ => [settings.message]
  | text settings _ source => [settings.message, textMessage settings source]

/-- The digests in the names of two artifacts tell apart what they are made of. -/
structure Distinct (one other : Entry) : Prop where
  short : NoCollisions (fun message => (sha256Hex message).take 8)
    (one.shortMessages ++ other.shortMessages)
  long : NoCollisions sha256Hex (one.longMessages ++ other.longMessages)

theorem message_mem_longMessages (entry : Entry) : entry.settings.message ∈ entry.longMessages := by
  cases entry with
  | template => exact .head _
  | text => exact .head _

theorem Distinct.settings_eq (distinct : one.Distinct other)
    (same : one.settings.checksum = other.settings.checksum) : one.settings = other.settings := by
  have messages := distinct.long _ (List.mem_append_left _ one.message_mem_longMessages) _
    (List.mem_append_right _ other.message_mem_longMessages) same
  exact Settings.compact_toJson_injective (Text.bytes_injective messages)

/-- The settings can be told from the name of an artifact. -/
theorem settings_eq_of_fileName (distinct : one.Distinct other)
    (same : one.fileName = other.fileName) : one.settings = other.settings := by
  have stems := (fileName_inj same).2
  apply distinct.settings_eq
  cases one with
  | template left format name =>
    cases other with
    | template right format' name' =>
      -- The digest of a template is cut to its first digits, so they have to do.
      have digests := (stem_template_inj stems).2
      have messages := distinct.short _ (.head _) _ (.tail _ (.head _)) digests
      exact (bytes_checksum_inj messages).2
    | text => exact absurd stems stem_template_ne_text
  | text left format source =>
    cases other with
    | template => exact absurd stems.symm stem_template_ne_text
    | text right format' source' =>
      have digests := List.append_cancel_right stems
      have messages := distinct.long _ (.tail _ (.head _)) _ (.tail _ (.tail _ (.tail _ (.head _))))
        digests
      exact (bytes_checksum_inj messages).2

end Entry

/-- Artifacts of different settings never lie at the same place, and those of a template
    and of a text never do, whatever the settings. -/
theorem artifacts_apart (root : List Char) (registry : Registry) :
    (∀ one other : Entry, one.settings ≠ other.settings → one.Distinct other →
      ¬ Coincide (one.path root registry) (other.path root registry)) ∧
    ∀ (settings settings' : Settings) (format format' : Format) (name source : List Char),
      ¬ Coincide ((Entry.template settings format name).path root registry)
        ((Entry.text settings' format' source).path root registry) := by
  constructor
  · intro one other different distinct same
    exact different (Entry.settings_eq_of_fileName distinct (Entry.fileName_eq_of_coincide same))
  · intro settings settings' format format' name source same
    have stems := (Entry.fileName_inj (Entry.fileName_eq_of_coincide same)).2
    exact Entry.stem_template_ne_text stems

/-- Settings that differ in a quote of one text. -/
theorem artifacts_apart_quote :
    let template (settings : Settings) : Entry := .template settings .php "x".toList
    let quoted : Settings := { charset := "UTF-8\",\"".toList }
    ({} : Settings) ≠ quoted ∧ (template {}).Distinct (template quoted) ∧
      ¬ Coincide ((template {}).path "site".toList .empty)
        ((template quoted).path "site".toList .empty) := by
  intro template quoted
  have different : ({} : Settings) ≠ quoted := by decide
  have distinct : (template {}).Distinct (template quoted) :=
    ⟨noCollisions_pair (by decide +kernel), noCollisions_pair (by decide +kernel)⟩
  exact ⟨different, distinct, (artifacts_apart "site".toList .empty).1 _ _ different distinct⟩

end Stencil
