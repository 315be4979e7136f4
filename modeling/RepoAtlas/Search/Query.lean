import RepoAtlas.Search.Kind

/-! # Queries -/

namespace RepoAtlas.Search

open Text

structure Query where
  lower : Text
  wordForm : Text
  terms : List Text
  /-- The terms cut at slashes: the words looked for along a path. -/
  steps : List Text
  hasSlash : Bool
  /-- The first known extension that a word of the query ends in. -/
  extension? : Option Text
  solid : Text
  deriving DecidableEq

namespace Query

def ofText (text : Text) : Query :=
  let unified := Path.key (trim text)
  let lower := Text.lower unified
  let wordForm := Text.wordForm unified
  let terms := words wordForm
  { lower
    wordForm
    terms
    steps := terms.flatMap (pieces (· == '/'))
    hasSlash := wordForm.contains '/'
    extension? := ((words lower).map Path.extension).find? isKnownExtension
    solid := solidForm wordForm }

def isEmpty (q : Query) : Bool :=
  q.terms.isEmpty

end Query

end RepoAtlas.Search
