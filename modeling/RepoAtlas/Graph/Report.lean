import RepoAtlas.Graph.Impact

/-! # Reports of an impact -/

namespace RepoAtlas.Impact

/-- The number of direct dependents that a report lists. -/
def listed : Nat := 10

def reportLines (i : Impact) : List Text :=
  ["Impact of ".toList ++ i.file,
    "Blast radius: ".toList ++ i.radius.name ++ " (score ".toList ++ Text.ofNat i.score
      ++ ")".toList,
    "Direct dependents: ".toList ++ Text.ofNat i.direct.length]
  ++ (i.direct.take listed).map ("  -> ".toList ++ ·)
  ++ (if listed < i.direct.length then
      ["  ... and ".toList ++ Text.ofNat (i.direct.length - listed) ++ " more".toList] else [])
  ++ ["Indirect dependents: ".toList ++ Text.ofNat i.indirect.length]
  ++ (if i.tests.isEmpty then [] else "Related tests:".toList :: i.tests.map ("  * ".toList ++ ·))
  ++ i.warnings.map ("warning: ".toList ++ ·)

def report (i : Impact) : Text :=
  i.reportLines.flatMap (· ++ ['\n'])

end RepoAtlas.Impact
