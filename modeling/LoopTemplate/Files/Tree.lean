import LoopTemplate.Files.Path

/-!
# File trees

A file tree says what stands at each location: nothing, a directory or a file. A location is the
list of names from the root down, so the root is the empty list. The operations keep to the rules of
a file system without links: a directory has to exist before anything is put into it, and an
operation that fails says why.
-/

namespace LoopTemplate.Files

/-- The names from the root down. Names are texts: what has a name whose bytes are no text stands at
no location. -/
abbrev Location := List String

/-- What stands at a location. -/
inductive Entry where
  | directory
  /-- A file whose bytes are a text. -/
  | text (content : String)
  /-- A file whose bytes are no text. -/
  | binary (bytes : List UInt8)
deriving DecidableEq, Inhabited

/-- A file with the given bytes. -/
def Entry.ofBytes (bytes : List UInt8) : Entry :=
  match String.fromUTF8? ⟨bytes.toArray⟩ with
  | some content => .text content
  | none => .binary bytes

/-- Why an operation on files fails. -/
inductive FileError where
  | notFound
  | alreadyThere
  | notDirectory
  | isDirectory
  | notText
deriving DecidableEq, Inhabited

/-- The wording of a failure. -/
def FileError.message : FileError → String
  | notFound => "No such file or directory (os error 2)"
  | alreadyThere => "File exists (os error 17)"
  | notDirectory => "Not a directory (os error 20)"
  | isDirectory => "Is a directory (os error 21)"
  | notText => "stream did not contain valid UTF-8"

/-! ## Trees -/

/-- Looking up among the entries that pass a test on locations. -/
theorem lookup_filter (entries : List (Location × Entry)) (test : Location → Bool)
    (location : Location) :
    (entries.filter fun entry => test entry.1).lookup location
      = if test location then entries.lookup location else none := by
  induction entries with
  | nil => simp
  | cons entry entries ih =>
      obtain ⟨name, value⟩ := entry
      by_cases equal : location = name
      · subst equal
        by_cases passes : test location
        · simp [passes]
        · simp [passes, ih]
      · have differs : (location == name) = false := by simpa using equal
        by_cases passes : test name
        · simp [passes, List.lookup_cons, differs, ih]
        · simp [passes, List.lookup_cons, differs, ih]

/-- Looking up where an entry was added at the end. -/
theorem lookup_append_single (entries : List (Location × Entry)) (location other : Location)
    (entry : Entry) :
    (entries ++ [(location, entry)]).lookup other
      = (entries.lookup other).or (if other = location then some entry else none) := by
  induction entries with
  | nil =>
      by_cases equal : other = location
      · simp [equal]
      · have differs : (other == location) = false := by simpa using equal
        simp [List.lookup_cons, differs, equal]
  | cons head entries ih =>
      obtain ⟨name, value⟩ := head
      by_cases equal : other = name
      · simp [equal]
      · have differs : (other == name) = false := by simpa using equal
        simp [List.lookup_cons, differs, ih]

/-- What stands where. The root is always a directory and is not listed. -/
structure FileTree where
  entries : List (Location × Entry)
deriving DecidableEq, Inhabited

namespace FileTree

/-- A tree with nothing but the root. -/
def empty : FileTree := ⟨[]⟩

/-- What stands at a location. -/
def get? (tree : FileTree) (location : Location) : Option Entry :=
  if location.isEmpty then some .directory else tree.entries.lookup location

/-- The tree without what stands at a location. -/
def erase (tree : FileTree) (location : Location) : FileTree :=
  ⟨tree.entries.filter fun entry => entry.1 != location⟩

/-- The tree with an entry at a location, in place of what stood there. -/
def insert (tree : FileTree) (location : Location) (entry : Entry) : FileTree :=
  ⟨(tree.erase location).entries ++ [(location, entry)]⟩

/-- The tree without a location and all below it. -/
def eraseBelow (tree : FileTree) (location : Location) : FileTree :=
  ⟨tree.entries.filter fun entry => !location.isPrefixOf entry.1⟩

/-- The root is a directory. -/
@[simp] theorem get?_nil (tree : FileTree) : tree.get? [] = some .directory := rfl

/-- Erasing empties one location. -/
theorem get?_erase (tree : FileTree) (location other : Location) (below : other ≠ []) :
    (tree.erase location).get? other = if other = location then none else tree.get? other := by
  have present : other.isEmpty = false := by simpa using below
  simp only [get?, erase, present]
  rw [lookup_filter tree.entries (· != location)]
  by_cases equal : other = location <;> simp [equal]

/-- Inserting changes one location. -/
theorem get?_insert (tree : FileTree) (location other : Location) (entry : Entry)
    (below : other ≠ []) :
    (tree.insert location entry).get? other
      = if other = location then some entry else tree.get? other := by
  have present : other.isEmpty = false := by simpa using below
  have erased := tree.get?_erase location other below
  simp only [get?, present, Bool.false_eq_true, ↓reduceIte] at erased
  simp only [get?, insert, present, Bool.false_eq_true, ↓reduceIte]
  rw [lookup_append_single, erased]
  by_cases equal : other = location <;> simp [equal]

/-- Erasing a location with all below it leaves the rest. -/
theorem get?_eraseBelow (tree : FileTree) (location other : Location) (below : other ≠ []) :
    (tree.eraseBelow location).get? other
      = if location.isPrefixOf other then none else tree.get? other := by
  have present : other.isEmpty = false := by simpa using below
  simp only [get?, eraseBelow, present]
  rw [lookup_filter tree.entries (fun name => !location.isPrefixOf name)]
  by_cases inside : location.isPrefixOf other <;> simp [inside]

/-- What is listed below a location, by the names that lead there from it. -/
def below (tree : FileTree) (location : Location) : List (Location × Entry) :=
  (tree.entries.filter fun entry =>
    location.isPrefixOf entry.1 && entry.1.length != location.length).map
      fun entry => (entry.1.drop location.length, entry.2)

/-! ## Walking along a path -/

/-- The location that a name leads to. -/
def step (location : Location) (name : String) : Location :=
  if isSelf name then location
  else if name == ".." then location.dropLast
  else location ++ [name]

/-- The location that names lead to. All on the way are directories; what the last name leads to
need not exist. -/
def walk (tree : FileTree) : Location → List String → Except FileError Location
  | location, [] => .ok location
  | location, name :: names =>
      match tree.get? location with
      | some .directory => tree.walk (step location name) names
      | some _ => .error .notDirectory
      | none => .error .notFound

/-- The location of a path. -/
def locate (tree : FileTree) (path : String) : Except FileError Location :=
  tree.walk [] (names path)

/-- What stands at a path. -/
def find (tree : FileTree) (path : String) : Except FileError Entry := do
  match tree.get? (← tree.locate path) with
  | some entry => return entry
  | none => throw .notFound

/-- Whether anything stands at a path. -/
def has (tree : FileTree) (path : String) : Bool :=
  match tree.find path with
  | .ok _ => true
  | .error _ => false

/-- Whether a directory stands at a path. -/
def hasDirectory (tree : FileTree) (path : String) : Bool :=
  match tree.find path with
  | .ok .directory => true
  | _ => false

/-- The text in a file. -/
def readText (tree : FileTree) (path : String) : Except FileError String := do
  match ← tree.find path with
  | .text content => return content
  | .binary _ => throw .notText
  | .directory => throw .isDirectory

/-- All that is below a directory. -/
def list (tree : FileTree) (path : String) : Except FileError (List (Location × Entry)) := do
  let location ← tree.locate path
  match tree.get? location with
  | some .directory => return tree.below location
  | some _ => throw .notDirectory
  | none => throw .notFound

end FileTree

/-! ## Changing a tree -/

/-- A change of a tree, which can fail half way. -/
abbrev Change := ExceptT FileError (StateM FileTree)

namespace Change

/-- A location in the tree as it is now. -/
def walk (names : List String) : Change Location := do
  match (← get).walk [] names with
  | .ok location => return location
  | .error error => throw error

/-- Makes one directory, in a directory that exists. -/
def createDirectory (names : List String) : Change Unit := do
  let location ← walk names
  match (← get).get? location with
  | some _ => throw .alreadyThere
  | none => modify (·.insert location .directory)

/-- Whether names lead to a directory now. -/
def leadsToDirectory (names : List String) : Change Bool := do
  let tree ← get
  match tree.walk [] names with
  | .ok location => return tree.get? location == some .directory
  | .error _ => return false

/-- Makes one directory, or leaves it if it is there. -/
def ensureDirectory (names : List String) : Change Unit := do
  try createDirectory names
  catch error =>
    if !(← leadsToDirectory names) then throw error

/-- Makes a directory and those above it that are missing; the names come last first. -/
def createUpward : List String → Change Unit
  | [] => pure ()
  | name :: above =>
      if isSelf name then createUpward above
      else do
        let names := (name :: above).reverse
        try ensureDirectory names
        catch error =>
          match error with
          | .notFound => do
              createUpward above
              ensureDirectory names
          | _ => throw error

/-- Makes a directory and those above it that are missing. -/
def createDirectories (path : String) : Change Unit := createUpward (names path).reverse

/-- Makes the directories above a path that are missing. -/
def createParents (path : String) : Change Unit :=
  createUpward ((names path).reverse.dropWhile isSelf).tail

/-- Writes a text to a file, in a directory that exists. -/
def writeText (path content : String) : Change Unit := do
  let location ← walk (names path)
  match (← get).get? location with
  | some .directory => throw .isDirectory
  | _ => modify (·.insert location (.text content))

/-- Removes a directory with all below it. -/
def removeDirectory (path : String) : Change Unit := do
  let location ← walk (names path)
  match (← get).get? location with
  | some .directory => modify (·.eraseBelow location)
  | some _ => throw .notDirectory
  | none => throw .notFound

end Change

end LoopTemplate.Files
