import RepoAtlas.Text.Basic

/-! # Languages -/

namespace RepoAtlas.Code

open Text

inductive Language
  | script
  | python
  deriving DecidableEq

namespace Language

def scriptExtensions : List Text :=
  ["ts", "tsx", "js", "jsx", "mjs", "cjs", "mts", "cts"].map String.toList

/-- The language of a file by what follows the last dot of its path, in either case. -/
def ofPath? (path : Text) : Option Language :=
  (cutLast? '.' path).bind fun (_, extension) =>
    let extension := extension.map Char.toLower
    if scriptExtensions.contains extension then some script
    else if extension = "py".toList then some python
    else none

def commentMarks : Language → List Text
  | script => ["//", "/*", "*"].map String.toList
  | python => ["#"].map String.toList

/-- Whether the line is a comment, or goes on with one. -/
def isComment (l : Language) (line : Text) : Bool :=
  l.commentMarks.any (·.isPrefixOf (trimStart line))

end Language

end RepoAtlas.Code
