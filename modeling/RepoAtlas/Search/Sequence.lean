import RepoAtlas.Path.Record
import RepoAtlas.Unicode.Word

/-! # Terms along a path -/

namespace RepoAtlas.Search

open Text Unicode

inductive Fit
  /-- The term is the segment, or the segment without its only extension. -/
  | whole
  /-- The segment or one of its words begins with the term. -/
  | leading
  | inner
  deriving DecidableEq

def Fit.gain : Fit → Nat
  | .whole => 40
  | .leading => 25
  | .inner => 10

structure Segment where
  lower : Text
  wordForm : Text
  deriving DecidableEq

def alphanumericWords (wordForm : Text) : List Text :=
  pieces (fun c => !isAlphanumeric c) wordForm

namespace Segment

def isTerm (s : Segment) (term : Text) : Bool :=
  match dropLead? term s.lower with
  | some [] => true
  | some ('.' :: rest) => !rest.contains '.'
  | _ => false

/-- How well the term fits the segment, if it does. Terms of fewer than four bytes fit no inner part. -/
def fit? (s : Segment) (term : Text) : Option Fit :=
  if s.isTerm term then some .whole
  else if term.isPrefixOf s.lower || (alphanumericWords s.wordForm).any term.isPrefixOf then
    some .leading
  else if 4 ≤ byteLength term && occursIn term s.lower then some .inner
  else none

def ofRecord (r : PathRecord) : List Segment :=
  r.segments.zipWith mk r.segmentWordForms

end Segment

/-- What the last of `length` neighbouring terms gains by its streak. -/
def streakGain (length : Nat) : Nat :=
  15 * length

def streakTotal (length : Nat) : Nat :=
  15 * length * (length + 1) / 2

/-- The best totals of the layings whose last term is on one segment: the entry at `k` is for those that
end in a streak of length `k + 1`. -/
abbrev Totals := List (Option Nat)

namespace Totals

def best (ts : Totals) : Nat :=
  (ts.filterMap id).foldl max 0

def better : Option Nat → Option Nat → Option Nat
  | none, b => b
  | a, none => a
  | some a, some b => some (max a b)

def merge : Totals → Totals → Totals
  | [], us => us
  | ts, [] => ts
  | t :: ts, u :: us => better t u :: merge ts us

end Totals

/-- The totals after one more term. For each segment, from the left, there is the fit of the term and the
totals so far; `reach` is the best total further left than the neighbour, `neighbour` the totals of the
neighbour. A laid term begins a streak or lengthens one of the neighbour's. -/
def layTerm (reach : Nat) (neighbour : Totals) : List (Option Fit × Totals) → List Totals
  | [] => []
  | (fit, totals) :: rest =>
    (match fit with
      | none => totals
      | some f =>
        let begun := some (reach + f.gain + streakGain 1)
        let lengthened := neighbour.mapIdx fun k t => t.map (· + f.gain + streakGain (k + 2))
        totals.merge (begun :: lengthened))
      :: layTerm (max reach neighbour.best) totals rest

def layTerms (segments : List Segment) (terms : List Text) : List Totals :=
  terms.foldl (fun totals term => layTerm 0 [] ((segments.map (·.fit? term)).zip totals))
    (segments.map fun _ => [])

/-- The gain by fit of laying every term on the segments in order, one each, from the first segment. -/
def runGain? : List Text → List Segment → Option Nat
  | [], _ => some 0
  | _ :: _, [] => none
  | term :: terms, s :: segments => do
    let fit ← s.fit? term
    let gain ← runGain? terms segments
    return fit.gain + gain

def runGains (terms : List Text) : List Segment → List Nat
  | [] => []
  | s :: segments => (runGain? terms (s :: segments)).toList ++ runGains terms segments

/-- The bonus of terms along the segments of a path: the best total of a laying, or that of a run of all
of at least three terms, which gains another hundred. -/
def sequenceBonus (segments : List Segment) (terms : List Text) : Nat :=
  let laid := ((layTerms segments terms).map Totals.best).foldl max 0
  if 3 ≤ terms.length then
    ((runGains terms segments).map (· + streakTotal terms.length + 100)).foldl max laid
  else laid

end RepoAtlas.Search
