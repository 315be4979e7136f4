import RepoAtlas.Text.Basic
import RepoAtlas.Unicode.Uppercase
import RepoAtlas.Unicode.Lowercase
import RepoAtlas.Unicode.Lowering

/-! # Word forms -/

namespace RepoAtlas.Text

open Unicode

def isSeparator (c : Char) : Bool :=
  c == '-' || c == '_' || isBlank c

/-- The word form of the rest of a text: `previous` is the character before it, `pending` says that
separators stood since the last character kept, and `started` that one was kept at all. -/
def wordFormAfter (previous : Option Char) (pending started : Bool) : Text → Text
  | [] => []
  | c :: t =>
    if isSeparator c then wordFormAfter (some c) true started t
    else
      let parted := pending || (isUppercase c && previous.any isLowercase)
      (if parted && started then [' '] else []) ++ lowered c
        ++ wordFormAfter (some c) false true t

/-- The words of the text in lower case, with one space between neighbours. -/
def wordForm (t : Text) : Text :=
  wordFormAfter none false false t

/-- The text without blanks and path separators, so that neighbouring words run together. -/
def solidForm (t : Text) : Text :=
  t.filter fun c => !(isBlank c || c == '/' || c == '\\')

end RepoAtlas.Text
