import RepoAtlas.Files.Tree
import RepoAtlas.Settings.Decode

/-! # Settings from a file -/

namespace RepoAtlas.Settings

def fileName : Text :=
  "blastscope.toml".toList

inductive LoadError
  | unreadable
  | refused (error : Error)
  deriving DecidableEq

def load (t : Files.Tree) (path : Text) : Except LoadError Settings :=
  match t.read path with
  | .error _ => .error .unreadable
  | .ok document => (ofToml document).mapError .refused

/-- The settings of the settings file, if there is one and it is good. -/
def discover (t : Files.Tree) : Option Settings :=
  (load t fileName).toOption

end RepoAtlas.Settings
