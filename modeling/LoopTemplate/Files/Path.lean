import LoopTemplate.Text.Split

/-!
# Paths

A path is a text of names with slashes between them. Paths are joined as texts and never made
shorter, so that messages show them as they were put together.
-/

namespace LoopTemplate.Files

/-- A path that starts at the root. -/
def isAbsolute (path : String) : Bool :=
  match path.toList with
  | '/' :: _ => true
  | _ => false

/-- A path that ends in a slash. -/
def endsInSlash (path : String) : Bool := path.toList.getLast? == some '/'

/-- A path below another one. An absolute path takes the place of the first; a path that ends in
a slash gets no second one. -/
def join (path below : String) : String :=
  if isAbsolute below then below
  else if path.isEmpty || endsInSlash path then path ++ below
  else path ++ "/" ++ below

/-- The names of a path. -/
def names (path : String) : List String :=
  (Text.pieces '/' path.toList).map String.ofList

/-- A name that stands for the directory itself. -/
def isSelf (name : String) : Bool := name == "" || name == "."

/-- Names as one path. -/
def ofNames (names : List String) : String := "/".intercalate names

/-- What follows the last dot of a name: the dot is not its first character. -/
def extension? (name : String) : Option String :=
  if name == ".." then none
  else
    let backwards := name.toList.reverse
    let ending := backwards.takeWhile (· != '.')
    match backwards.drop ending.length with
    | '.' :: stem => if stem.isEmpty then none else some (String.ofList ending.reverse)
    | _ => none

/-- A path with slashes in place of backslashes. -/
def withSlashes (path : String) : String :=
  String.ofList (path.toList.map fun c => if c = '\\' then '/' else c)

end LoopTemplate.Files
