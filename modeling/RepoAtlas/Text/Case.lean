import RepoAtlas.Text.Basic
import RepoAtlas.Unicode.Cased
import RepoAtlas.Unicode.CaseIgnorable
import RepoAtlas.Unicode.Lowering

/-! # Lower case -/

namespace RepoAtlas.Text

open Unicode

/-- Whether the first character that is not passed over is cased. -/
def meetsCased (t : Text) : Bool :=
  match t.dropWhile isCaseIgnorable with
  | [] => false
  | c :: _ => isCased c

/-- Whether a word ends between the text before, given from its end, and the text after. -/
def isWordEnd (before after : Text) : Bool :=
  meetsCased before && !meetsCased after

/-- The lower case of a text that follows `before`, which is given from its end. -/
def lowerAfter (before : Text) : Text → Text
  | [] => []
  | c :: t =>
    (if c = 'Σ' then [if isWordEnd before t then 'ς' else 'σ'] else lowered c)
      ++ lowerAfter (c :: before) t

def lower (t : Text) : Text :=
  lowerAfter [] t

end RepoAtlas.Text
