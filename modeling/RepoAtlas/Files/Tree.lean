import RepoAtlas.Path.Basic

/-! # Trees of directories and files -/

namespace RepoAtlas.Files

open Text

inductive Tree where
  | file (bytes : ByteArray)
  | directory (entries : List (Text × Tree))

namespace Tree

def empty : Tree :=
  directory []

def entry? (t : Tree) (name : Text) : Option Tree :=
  match t with
  | file _ => none
  | directory entries => entries.lookup name

/-- The tree with something put under the segments of a path, in place of what was there; missing
directories are made. -/
def put (new : Tree) : List Text → Tree → Tree
  | [], _ => new
  | name :: segments, t =>
    let inner := put new segments ((t.entry? name).getD empty)
    match t with
    | file _ => directory [(name, inner)]
    | directory entries =>
      directory ((name, inner) :: entries.filter fun (n, _) => n != name)

def stays (segment : Text) : Bool :=
  segment == [] || segment == ['.']

def goesBack (segment : Text) : Bool :=
  segment == ['.', '.']

/-- What the segments lead to; `above` holds the directories gone through, the nearest first. -/
def follow (above : List Tree) : Tree → List Text → Option Tree
  | t, [] => some t
  | file _, _ :: _ => none
  | directory entries, s :: segments =>
    if stays s then follow above (directory entries) segments
    else if goesBack s then
      match above with
      | [] => none
      | t :: above => follow above t segments
    else (entries.lookup s).bind fun t => follow (directory entries :: above) t segments

/-- What a path leads to from the root; a path that begins with a slash does not begin there. -/
def find? (t : Tree) (path : Text) : Option Tree :=
  if path.head? = some '/' then none else follow [] t (splitOn '/' path)

inductive ReadError
  | unreadable
  | notUtf8
  deriving DecidableEq

def read (t : Tree) (path : Text) : Except ReadError Text :=
  match t.find? path with
  | some (file bytes) =>
    match String.fromUTF8? bytes with
    | some s => .ok s.toList
    | none => .error .notUtf8
  | _ => .error .unreadable

def read? (t : Tree) (path : Text) : Option Text :=
  (t.read path).toOption

/-- Goes along the segments from the directory with the names `above`, innermost first, and makes the
directories that are missing. The result is the tree and the names of the directory at the end. -/
def enter (above : List Text) (t : Tree) : List Text → Tree × List Text
  | [] => (t, above)
  | s :: segments =>
    if stays s then enter above t segments
    else if goesBack s then enter above.tail t segments
    else
      let names := (s :: above).reverse
      enter (s :: above) (put ((names.foldlM entry? t).getD empty) names t) segments

def makeDirectory (t : Tree) (path : Text) : Tree :=
  (enter [] t (splitOn '/' path)).1

def write (t : Tree) (path : Text) (bytes : ByteArray) : Tree :=
  let (parent, name) := Path.cutName path
  let (t, above) := enter [] t (splitOn '/' parent)
  put (file bytes) (name :: above).reverse t

end Tree

end RepoAtlas.Files
