import RepoAtlas.Path.Basic
import RepoAtlas.Text.WordForm

/-! # Records of paths -/

namespace RepoAtlas

open Text

structure PathRecord where
  path : Text
  lower : Text
  wordForm : Text
  name : Text
  nameLower : Text
  nameWordForm : Text
  /-- The last segment but one, empty when there is none. -/
  parent : Text
  parentLower : Text
  parentWordForm : Text
  segments : List Text
  segmentWordForms : List Text
  /-- The word form run together, without spaces and slashes. -/
  solid : Text
  extension : Text
  depth : Nat
  deriving DecidableEq

namespace PathRecord

def ofPath (path : Text) : PathRecord :=
  let segments := Path.segments path
  let name := segments.getLast?.getD []
  let parent := segments.dropLast.getLast?.getD []
  let wordForm := Text.wordForm (join ['/'] segments)
  { path
    lower := Text.lower path
    wordForm
    name
    nameLower := Text.lower name
    nameWordForm := Text.wordForm name
    parent
    parentLower := Text.lower parent
    parentWordForm := Text.wordForm parent
    segments := segments.map Text.lower
    segmentWordForms := segments.map Text.wordForm
    solid := solidForm wordForm
    extension := Path.extension (Text.lower name)
    depth := segments.length }

def stemLower (r : PathRecord) : Text :=
  r.nameLower.take (r.nameLower.length - r.extension.length)

end PathRecord

end RepoAtlas
