import Stencil.Project.Build

/-! # Cleaning the cache

Artifacts that have not been written for a while are removed.  A file is an
artifact by its name.
-/

namespace Stencil

open Stencil.Text (decimal occurs)

namespace Project

/-- What the names of artifacts have in them. -/
def artifactMark : List Char := ".mtpl.".toList

/-- How long artifacts are kept, in seconds, if nothing else is said. -/
def defaultExpire : Nat := 2592000

/-- The time before which artifacts are expired.  Beyond the times that 64 bits can
    hold, it is the start of 1970. -/
def cutoff (now : Time) (expire : Nat) : Time :=
  let time := now - expire * 1000000000
  if time < Int64.minValue.toInt * 1000000000 then 0 else time

/-- Removes those of the names in a directory that are expired artifacts. -/
def removeExpired (cacheDirectory : List Char) (cache : Location) (limit : Time) :
    Store → List (List Char) → Store × List Event
  | store, [] => (store, [])
  | store, name :: names =>
    let expired := occurs artifactMark name &&
      (store.written? (cache ++ [name])).any (· < limit)
    if expired then
      let (after, events) :=
        removeExpired cacheDirectory cache limit (store.remove (cache ++ [name])) names
      (after, ⟨.debug, .host, "removed ".toList ++ joinPath cacheDirectory name⟩ :: events)
    else removeExpired cacheDirectory cache limit store names

/-- Removes the artifacts that were written more than `expire` seconds ago, and
    counts them. -/
def clean [ListingOrder] (project : Project) (store : Store) (here : Location) (now : Time)
    (expire : Nat) : Outcome Nat :=
  let cacheDirectory := project.cacheDirectory
  match store.resolve here cacheDirectory with
  | .error _ => { store, result := .ok 0 }
  | .ok cache =>
    if !store.isDirectory cache then { store, result := .ok 0 }
    else
      let (after, removals) :=
        removeExpired cacheDirectory cache (cutoff now expire) store (store.names cache)
      let cleaned := "cleaned ".toList ++ decimal removals.length ++ " artifacts from ".toList ++
        cacheDirectory
      { store := after
        events := removals ++ [⟨.info, .host, cleaned⟩]
        result := .ok removals.length }

end Project

end Stencil
