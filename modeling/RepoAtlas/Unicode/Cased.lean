import RepoAtlas.Unicode.Uppercase
import RepoAtlas.Unicode.Lowercase

/-! # Cased characters -/

namespace RepoAtlas.Unicode

/-- The title case digraphs and Greek letters with a subscript iota. -/
def titlecaseRuns : List Run :=
  [
   ⟨0x1C5, 0x1C5, 1⟩, ⟨0x1C8, 0x1C8, 1⟩, ⟨0x1CB, 0x1CB, 1⟩, ⟨0x1F2, 0x1F2, 1⟩,
   ⟨0x1F88, 0x1F8F, 1⟩, ⟨0x1F98, 0x1F9F, 1⟩, ⟨0x1FA8, 0x1FAF, 1⟩, ⟨0x1FBC, 0x1FBC, 1⟩,
   ⟨0x1FCC, 0x1FCC, 1⟩, ⟨0x1FFC, 0x1FFC, 1⟩]

def isCased (c : Char) : Bool :=
  isUppercase c || isLowercase c || Run.cover titlecaseRuns c.toNat

end RepoAtlas.Unicode
