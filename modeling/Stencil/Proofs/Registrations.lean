import Mathlib.Data.List.Induction
import Mathlib.Data.List.Nodup
import Stencil.Command.Environment
import Stencil.Tag.Custom

/-! # Histories of a registry

A registry is built by requests to register tags, some of which are refused.
After any number of them it is an ordered map: it has one tag for each name, in
the order in which the names were first registered, and each tag is the one that
was registered last under its name.  Which requests are refused is up to the
engine, and all this holds whatever the engine is.

* `Registry.ofRequests` — the registry that requests lead to;
* `firstPlace` / `latest?` — the first and the last request for a name that succeed;
* `Follows` — a registry that is the ordered map of some requests, and
  `Follows.after`, by which the next request keeps it so;
* `register_history` — what a registry shows of its history.
-/

namespace Stencil.Tag

open Stencil.Pattern (Engine Matcher)
open Stencil.Template (TemplateError)

/-- A request to register a tag. -/
structure Registration where
  name : List Char
  pattern : List Char
  callback : TagMatches → List Char

/-! ## Tags in their places -/

section Places

variable {registry : Registry} {tag : CustomTag}

/-- A tag takes the place of the one with its name. -/
theorem names_insert_of_mem (known : tag.name ∈ registry.names) :
    (registry.insert tag).names = registry.names := by
  have same : ∀ other ∈ registry.tags,
      (if other.name = tag.name then tag else other).name = other.name := by
    intro other _
    split <;> simp_all
  rw [Registry.insert, if_pos (List.contains_iff_mem.2 known), Registry.names, List.map_map]
  exact List.map_congr_left same

/-- A tag with a new name becomes the last one. -/
theorem names_insert_of_not_mem (unknown : tag.name ∉ registry.names) :
    (registry.insert tag).names = registry.names ++ [tag.name] := by
  rw [Registry.insert, if_neg (mt List.contains_iff_mem.1 unknown), Registry.names, List.map_append]
  rfl

theorem mem_insert {other : CustomTag} (listed : other ∈ (registry.insert tag).tags) :
    other = tag ∨ other ∈ registry.tags ∧ other.name ≠ tag.name := by
  unfold Registry.insert at listed
  split at listed
  · obtain ⟨earlier, known, replaced⟩ := List.mem_map.1 listed
    by_cases same : earlier.name = tag.name
    · exact .inl (by rw [← replaced, if_pos same])
    · rw [if_neg same] at replaced
      subst replaced
      exact .inr ⟨known, same⟩
  · rename_i unknown
    rcases List.mem_append.1 listed with known | added
    · refine .inr ⟨known, fun same => unknown ?_⟩
      rw [← same]
      exact List.contains_iff_mem.2 (List.mem_map_of_mem known)
    · exact .inl (List.mem_singleton.1 added)

end Places

/-! ## Requests -/

section Requests

variable [Engine]

/-- The tag that a request is for, if the engine takes its pattern. -/
def Registration.tag? (request : Registration) : Option CustomTag :=
  match Engine.compile request.pattern with
  | .ok pattern => some ⟨request.name, pattern, request.callback⟩
  | .error _ => none

/-- What a registry answers to a request. -/
def Registry.answer (registry : Registry) (request : Registration) :
    Except TemplateError (Registry × List Event) :=
  registry.register request.name request.pattern request.callback

/-- The registry after a request. -/
def Registry.after (registry : Registry) (request : Registration) : Registry :=
  match registry.answer request with
  | .ok (later, _) => later
  | .error _ => registry

/-- The registry after requests, which begin with the empty one. -/
def Registry.ofRequests (requests : List Registration) : Registry :=
  requests.foldl Registry.after .empty

/-! ## What requests ask for -/

/-- A request under the name whose pattern the engine takes. -/
def Registration.Registers (request : Registration) (name : List Char) : Prop :=
  request.name = name ∧ request.tag?.isSome = true

instance (request : Registration) (name : List Char) : Decidable (request.Registers name) :=
  inferInstanceAs (Decidable (_ ∧ _))

/-- The place of the first request that registers a name. -/
def firstPlace (requests : List Registration) (name : List Char) : Nat :=
  requests.findIdx fun request => request.Registers name

/-- The tag of the last request that registers a name. -/
def latest? (requests : List Registration) (name : List Char) : Option CustomTag :=
  requests.reverse.findSome? fun request => if request.name = name then request.tag? else none

variable {requests : List Registration} {request : Registration} {registry : Registry}
  {name : List Char} {tag : CustomTag}

theorem name_of_tag? (isTag : request.tag? = some tag) : tag.name = request.name := by
  unfold Registration.tag? at isTag
  split at isTag
  · cases isTag
    rfl
  · cases isTag

theorem latest?_concat (requests : List Registration) (request : Registration) (name : List Char) :
    latest? (requests ++ [request]) name =
      (if request.name = name then request.tag? else none).or (latest? requests name) := by
  simp only [latest?, List.reverse_append, List.reverse_singleton, List.singleton_append,
    List.findSome?_cons]
  split <;> simp_all

theorem latest?_eq_none (unlisted : ∀ request ∈ requests, ¬ request.Registers name) :
    latest? requests name = none := by
  apply List.findSome?_eq_none_iff.2
  intro request listed
  have other := unlisted request (List.mem_reverse.1 listed)
  by_cases same : request.name = name
  · simpa [Registration.Registers, same] using other
  · simp [same]

theorem firstPlace_lt (registered : ∃ request ∈ requests, request.Registers name) :
    firstPlace requests name < requests.length := by
  apply List.findIdx_lt_length.2
  simpa using registered

/-- A name keeps its place when requests are added. -/
theorem firstPlace_append (later : List Registration)
    (registered : ∃ request ∈ requests, request.Registers name) :
    firstPlace (requests ++ later) name = firstPlace requests name := by
  rw [firstPlace, List.findIdx_append]
  exact if_pos (firstPlace_lt registered)

/-- A name that is registered for the first time comes behind all others. -/
theorem firstPlace_concat (first : ∀ request ∈ requests, ¬ request.Registers name)
    (registers : request.Registers name) :
    firstPlace (requests ++ [request]) name = requests.length := by
  rw [firstPlace, List.findIdx_append, if_neg (by simpa using first)]
  simp [List.findIdx_cons, registers]

/-! ## One request -/

/-- A registry that is the ordered map of requests. -/
structure Follows (requests : List Registration) (registry : Registry) : Prop where
  distinct : registry.names.Nodup
  listed : ∀ name, name ∈ registry.names ↔ ∃ request ∈ requests, request.Registers name
  ordered : registry.names.Pairwise fun earlier later =>
    firstPlace requests earlier < firstPlace requests later
  latest : ∀ tag ∈ registry.tags, latest? requests tag.name = some tag

theorem after_of_tag? (isTag : request.tag? = some tag) :
    registry.after request = registry.insert tag := by
  unfold Registration.tag? at isTag
  unfold Registry.after Registry.answer Registry.register
  cases compiled : Engine.compile request.pattern with
  | error reason => simp [compiled] at isTag
  | ok pattern =>
    simp only [compiled, Option.some.injEq] at isTag
    rw [← isTag]

theorem after_of_none (refused : request.tag? = none) : registry.after request = registry := by
  unfold Registration.tag? at refused
  unfold Registry.after Registry.answer Registry.register
  cases compiled : Engine.compile request.pattern with
  | error reason => rfl
  | ok pattern => simp [compiled] at refused

theorem exists_registers_concat :
    (∃ other ∈ requests ++ [request], other.Registers name) ↔
      (∃ other ∈ requests, other.Registers name) ∨ request.Registers name := by
  simp [or_and_right, exists_or]

/-- The names stay in the order of their first registration. -/
theorem Follows.ordered_concat (follows : Follows requests registry) (request : Registration) :
    registry.names.Pairwise fun earlier later =>
      firstPlace (requests ++ [request]) earlier < firstPlace (requests ++ [request]) later := by
  apply follows.ordered.imp_of_mem
  intro earlier later earlierListed laterListed before
  rwa [firstPlace_append _ ((follows.listed earlier).1 earlierListed),
    firstPlace_append _ ((follows.listed later).1 laterListed)]

/-- A request that is refused is not seen in the registry. -/
theorem Follows.refused (follows : Follows requests registry) (refused : request.tag? = none) :
    Follows (requests ++ [request]) registry := by
  have adds (name : List Char) : ¬ request.Registers name := by
    simp [Registration.Registers, refused]
  constructor
  case distinct => exact follows.distinct
  case ordered => exact follows.ordered_concat request
  case listed =>
    intro name
    rw [exists_registers_concat, follows.listed, or_iff_left (adds name)]
  case latest =>
    intro tag listed
    rw [latest?_concat, refused, follows.latest tag listed]
    split <;> rfl

theorem registers_iff_of_tag? (isTag : request.tag? = some tag) :
    request.Registers name ↔ tag.name = name := by
  simp [Registration.Registers, isTag, name_of_tag? isTag]

/-- The tag of a request is the latest of its name; those of other names stay. -/
theorem Follows.latest_insert (follows : Follows requests registry)
    (isTag : request.tag? = some tag) {other : CustomTag}
    (listed : other ∈ (registry.insert tag).tags) :
    latest? (requests ++ [request]) other.name = some other := by
  rw [latest?_concat, ← name_of_tag? isTag, isTag]
  rcases mem_insert listed with rfl | ⟨earlier, different⟩
  · simp
  · rw [if_neg (Ne.symm different), follows.latest other earlier]
    rfl

/-- A tag with a known name is registered in the place of that name. -/
theorem Follows.insert_of_mem (follows : Follows requests registry)
    (isTag : request.tag? = some tag) (known : tag.name ∈ registry.names) :
    Follows (requests ++ [request]) (registry.insert tag) := by
  have names := names_insert_of_mem known
  constructor
  case distinct => exact names ▸ follows.distinct
  case ordered => exact names ▸ follows.ordered_concat request
  case latest => exact fun other listed => follows.latest_insert isTag listed
  case listed =>
    intro name
    rw [names, exists_registers_concat, registers_iff_of_tag? isTag, ← follows.listed]
    refine ⟨.inl, ?_⟩
    rintro (listed | rfl)
    · exact listed
    · exact known

/-- A tag with a new name is registered behind all others. -/
theorem Follows.insert_of_not_mem (follows : Follows requests registry)
    (isTag : request.tag? = some tag) (unknown : tag.name ∉ registry.names) :
    Follows (requests ++ [request]) (registry.insert tag) := by
  have names := names_insert_of_not_mem unknown
  constructor
  case distinct =>
    rw [names, ← List.concat_eq_append]
    exact List.Nodup.concat unknown follows.distinct
  case latest => exact fun other listed => follows.latest_insert isTag listed
  case listed =>
    intro name
    rw [names, exists_registers_concat, registers_iff_of_tag? isTag, ← follows.listed,
      List.mem_append, List.mem_singleton, @eq_comm _ name]
  case ordered =>
    rw [names]
    apply List.pairwise_append.2
    refine ⟨follows.ordered_concat request, List.pairwise_singleton _ _, ?_⟩
    intro earlier listed later isName
    obtain rfl := List.mem_singleton.1 isName
    -- The name is new, so its first request is the last one of all.
    have first : ∀ other ∈ requests, ¬ other.Registers tag.name := by
      intro other listed registered
      exact unknown ((follows.listed _).2 ⟨other, listed, registered⟩)
    have registered := (follows.listed earlier).1 listed
    rw [firstPlace_append _ registered,
      firstPlace_concat first ((registers_iff_of_tag? isTag).2 rfl)]
    exact firstPlace_lt registered

theorem Follows.after (follows : Follows requests registry) (request : Registration) :
    Follows (requests ++ [request]) (registry.after request) := by
  cases isTag : request.tag? with
  | none =>
    rw [after_of_none isTag]
    exact follows.refused isTag
  | some tag =>
    rw [after_of_tag? isTag]
    by_cases known : tag.name ∈ registry.names
    · exact follows.insert_of_mem isTag known
    · exact follows.insert_of_not_mem isTag known

/-! ## Histories -/

theorem ofRequests_concat (requests : List Registration) (request : Registration) :
    Registry.ofRequests (requests ++ [request]) = (Registry.ofRequests requests).after request :=
  List.foldl_append

theorem follows_ofRequests (requests : List Registration) :
    Follows requests (Registry.ofRequests requests) := by
  induction requests using List.reverseRecOn with
  | nil => exact ⟨.nil, by simp [Registry.ofRequests, Registry.names, Registry.empty], .nil, nofun⟩
  | append_singleton requests request ih =>
    rw [ofRequests_concat]
    exact ih.after request

/-- The tag found under a name is the one registered last. -/
theorem Follows.find? (follows : Follows requests registry) (name : List Char) :
    registry.tags.find? (·.name == name) = latest? requests name := by
  cases found : registry.tags.find? (·.name == name) with
  | none =>
    symm
    apply latest?_eq_none
    intro request listed registers
    obtain ⟨tag, known, same⟩ :=
      List.mem_map.1 ((follows.listed name).2 ⟨request, listed, registers⟩)
    have other := List.find?_eq_none.1 found tag known
    simp [same] at other
  | some tag =>
    have same : tag.name = name := by simpa using List.find?_some found
    rw [← same, follows.latest tag (List.mem_of_find?_eq_some found)]

/-- How a registry answers to a request, and what it is afterwards. -/
inductive Answered (registry later : Registry) (request : Registration) :
    Except TemplateError (Registry × List Event) → Prop where
  | refused (reason : List Char) (invalid : Engine.compile request.pattern = .error reason)
      (unchanged : later = registry) :
      Answered registry later request (.error (.invalidPattern request.name reason))
  | registered (pattern : Matcher) (valid : Engine.compile request.pattern = .ok pattern) :
      Answered registry later request (.ok (later,
        if request.name ∈ registry.names then
          [⟨.debug, .registry, "replacing custom tag '".toList ++ request.name ++ ['\'']⟩]
        else []))

theorem answered (registry : Registry) (request : Registration) :
    Answered registry (registry.after request) request (registry.answer request) := by
  cases compiled : Engine.compile request.pattern with
  | error reason =>
    have refuses : registry.answer request = .error (.invalidPattern request.name reason) := by
      simp only [Registry.answer, Registry.register, compiled]
    rw [refuses]
    refine .refused reason compiled ?_
    rw [Registry.after, refuses]
  | ok pattern =>
    have isTag : request.tag? = some ⟨request.name, pattern, request.callback⟩ := by
      simp only [Registration.tag?, compiled]
    rw [after_of_tag? isTag]
    simp only [Registry.answer, Registry.register, compiled, List.contains_iff_mem]
    exact .registered pattern compiled

/-- After any requests the names of a registry are distinct and stand in the order of their
    first registration, matching and invoking use the pattern and the callback registered last
    under a name, and a request whose pattern the engine refuses is answered with an error that
    names its tag and changes nothing. -/
theorem register_history (requests : List Registration) :
    let registry := Registry.ofRequests requests
    registry.names.Nodup ∧
    (∀ name, name ∈ registry.names ↔ ∃ request ∈ requests, request.Registers name) ∧
    (registry.names.Pairwise fun earlier later =>
      firstPlace requests earlier < firstPlace requests later) ∧
    (∀ text, registry.matching text = registry.names.filterMap fun name =>
      (latest? requests name).bind fun tag =>
        (TagMatches.collect? tag.pattern text).map fun found => (name, found)) ∧
    (∀ name found, registry.invoke? name found =
      (latest? requests name).map fun tag => tag.callback found) ∧
    ∀ request, Answered registry (Registry.ofRequests (requests ++ [request])) request
      (registry.answer request) := by
  intro registry
  have follows := follows_ofRequests requests
  refine ⟨follows.distinct, follows.listed, follows.ordered, ?_, ?_, ?_⟩
  · intro text
    rw [Registry.names, List.filterMap_map, Registry.matching]
    apply List.filterMap_congr
    intro tag listed
    simp [follows.latest tag listed]
  · intro name found
    rw [Registry.invoke?, follows.find? name]
  · intro request
    rw [ofRequests_concat]
    exact answered registry request

end Requests

/-- A name keeps its place when its tag is replaced, and its tag when it is refused. -/
theorem register_history_replaced :
    let requests : List Registration :=
      [⟨"date".toList, "date".toList, fun _ => "now".toList⟩, ⟨"upper".toList, "[A-Z]".toList, fun _ => []⟩,
        ⟨"date".toList, "(".toList, fun _ => []⟩, ⟨"upper".toList, "[a-z]".toList, fun _ => "up".toList⟩]
    let registry := Registry.ofRequests requests
    registry.names.Nodup ∧ registry.names = ["date".toList, "upper".toList] ∧
      registry.matching "date".toList = [("date".toList, ⟨[⟨none, ["date".toList]⟩]⟩),
        ("upper".toList, ⟨[⟨none, ["d".toList, "a".toList, "t".toList, "e".toList]⟩]⟩)] ∧
      registry.invoke? "date".toList ⟨[]⟩ = some "now".toList := by
  intro requests registry
  obtain ⟨distinct, -, -, matching, invoking, -⟩ := register_history requests
  have names : registry.names = ["date".toList, "upper".toList] := by decide +kernel
  refine ⟨distinct, names, ?_, ?_⟩
  · rw [matching, names]
    decide +kernel
  · rw [invoking]
    decide +kernel

end Stencil.Tag
