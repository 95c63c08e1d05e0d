import LoopTemplate.Files.Tree

/-!
# What changed between two file trees
-/

namespace LoopTemplate.Files

/-- Whether an entry is a directory. -/
def Entry.isDirectory : Entry → Bool
  | directory => true
  | _ => false

namespace FileTree

/-- What the second tree has that the first has not: new directories, and files that are new or
have another content. -/
def written (old new : FileTree) : List (Location × Entry) :=
  new.entries.filter fun entry => old.get? entry.1 != some entry.2

/-- What the first tree has that is gone from the second, or that gave way to the other kind of
entry. -/
def removed (old new : FileTree) : List (Location × Entry) :=
  old.entries.filter fun entry =>
    match new.get? entry.1 with
    | some now => now.isDirectory != entry.2.isDirectory
    | none => true

/-- The part of a tree below a location, seen from there. -/
def subtree (tree : FileTree) (location : Location) : FileTree := ⟨tree.below location⟩

end FileTree

end LoopTemplate.Files
