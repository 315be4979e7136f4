import RepoAtlas.Text.Basic
import RepoAtlas.Unicode.Combining
import RepoAtlas.Unicode.Hidden

/-! # Quoted texts -/

namespace RepoAtlas.Text

open Unicode

def quotedChar (c : Char) : Text :=
  if c = '\x00' then ['\\', '0']
  else if c = '\t' then ['\\', 't']
  else if c = '\n' then ['\\', 'n']
  else if c = '\r' then ['\\', 'r']
  else if c = '"' || c = '\\' then ['\\', c]
  else if isCombining c || isHidden c then
    "\\u\x7b".toList ++ Nat.toDigits 16 c.toNat ++ "\x7d".toList
  else [c]

def quoted (t : Text) : Text :=
  '"' :: t.flatMap quotedChar ++ ['"']

end RepoAtlas.Text
