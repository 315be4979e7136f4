import RepoAtlas.Search.Query
import RepoAtlas.Search.Sequence

/-! # The score of a record for a query -/

namespace RepoAtlas.Search

open Text

def exactTier? (r : PathRecord) (q : Query) : Option Nat :=
  if r.nameLower = q.lower then some 10000
  else if r.nameWordForm = q.wordForm then some 9500
  else if r.stemLower ≠ [] ∧ r.stemLower = q.lower then some 9000
  else none

/-- Where a term is found in a record, from the most telling place to none. -/
inductive Place
  | name
  | parent
  | inParent
  | elsewhere
  | nowhere
  deriving DecidableEq

def Place.gain : Place → Nat
  | .name => 100
  | .parent => 70
  | .inParent => 40
  | .elsewhere => 10
  | .nowhere => 0

def Place.isNear : Place → Bool
  | .name | .parent | .inParent => true
  | .elsewhere | .nowhere => false

def leadsName (r : PathRecord) (term : Text) : Bool :=
  term.isPrefixOf r.nameLower || (alphanumericWords r.nameWordForm).any term.isPrefixOf

def place (r : PathRecord) (term : Text) : Place :=
  if leadsName r term then .name
  else if !r.parent.isEmpty && (r.parentLower == term || r.parentWordForm == term) then .parent
  else if !r.parent.isEmpty && occursIn term r.parentWordForm then .inParent
  else if occursIn term r.wordForm then .elsewhere
  else .nowhere

def placeBonus (r : PathRecord) (terms : List Text) : Nat :=
  let places := terms.map (place r)
  places.foldr (fun p n => p.gain + n) 0 + (if !terms.isEmpty && places.all Place.isNear then 60 else 0)

/-- What a term adds when the path holds it, and takes away when not. -/
def termGain (r : PathRecord) (term : Text) : Int :=
  if occursIn term r.wordForm then 200 else -300

/-- A single short term that is a segment, or a segment up to its last dot, gains much. -/
def shortTermBonus (r : PathRecord) (terms : List Text) : Nat :=
  match terms with
  | [term] =>
    if byteLength term ≤ 4 &&
        r.segments.any (fun s => s == term || (cutLast? '.' s).any (·.1 == term)) then 2000
    else 0
  | _ => 0

/-- What a path gains by holding the whole query run together. -/
def solidBonus (r : PathRecord) (q : Query) : Nat :=
  if !q.solid.isEmpty && occursIn q.solid r.solid then 40 else 0

/-- The bonus of the order of terms along the path; it counts for queries of at least three terms or with
a slash. -/
def orderBonus (r : PathRecord) (q : Query) : Nat :=
  if 3 ≤ q.terms.length || q.hasSlash then sequenceBonus (Segment.ofRecord r) q.steps else 0

def total (r : PathRecord) (q : Query) : Int :=
  150 + q.terms.foldr (fun term n => termGain r term + n) 0 + orderBonus r q
    + placeBonus r q.terms + shortTermBonus r q.terms + solidBonus r q
    + extensionWeight r.extension + wordWeight r

def isExcluded (r : PathRecord) (q : Query) : Bool :=
  q.extension?.any (· != r.extension)

/-- The score of a record; zero when it should not be listed. -/
def score (r : PathRecord) (q : Query) : Nat :=
  if q.isEmpty then 0
  else match exactTier? r q with
    | some tier => tier
    | none => if isExcluded r q then 0 else (total r q).toNat % UInt32.size

end RepoAtlas.Search
