import Routebook.Notes
import Routebook.Notes.Block

namespace Routebook

/-!
# Annotations of controllers

Controllers are read on demand.  The first request for a controller reads it and gathers the
annotations of all its actions; every later request is answered without reading it again.  A
controller that cannot be read is not remembered.

The library reads controllers through a function, which may answer differently from time to
time: its state is whatever the reader of controllers depends on.
-/

/-- The annotations of a controller by action.  Where an action has several blocks, the first
one counts. -/
def notesOf (catalog : Catalog) (options : Options) (source : String) : Keyed Notes :=
  (commentBlocks source.toList).foldl (fun known block =>
    if known.contains block.action then known
    else known.insert block.action (.ofLines catalog options block.action block.lines)) .empty

/-- The controllers read so far, with their annotations. -/
abbrev NotesCache := Keyed (Keyed Notes)

namespace NotesCache

/-- The annotation of an action in a controller, and the cache behind the request.  The
controller is read, through `read`, only if the cache does not hold it. -/
def lookup {ε σ : Type} (read : String → σ → Except ε String × σ) (catalog : Catalog)
    (options : Options) (cache : NotesCache) (controller action : String) (state : σ) :
    Except ε (Option Notes) × NotesCache × σ :=
  match cache.get? controller with
  | some known => (.ok (known.get? action), cache, state)
  | none =>
    match read controller state with
    | (.error error, state) => (.error error, cache, state)
    | (.ok source, state) =>
      let known := notesOf catalog options source
      (.ok (known.get? action), cache.insert controller known, state)

end NotesCache
end Routebook
