import RepoAtlas.Toml.Number

/-! # Dates and times of TOML -/

namespace RepoAtlas.Toml

def fixedDigits (count : Nat) (t : Text) : Option (Nat × Text) :=
  let digits := t.take count
  if digits.length = count ∧ digits.all Char.isDigit then some (decimal digits, t.drop count)
  else none

def twoDigits (low high : Nat) (t : Text) : Option (Nat × Text) := do
  let (n, rest) ← fixedDigits 2 t
  if low ≤ n ∧ n ≤ high then some (n, rest) else none

def skip (c : Char) : Text → Option Text
  | d :: rest => if c = d then some rest else none
  | [] => none

def daysIn (year month : Nat) : Nat :=
  if month = 2 then
    if year % 4 = 0 ∧ (year % 100 ≠ 0 ∨ year % 400 = 0) then 29 else 28
  else if month = 4 ∨ month = 6 ∨ month = 9 ∨ month = 11 then 30
  else 31

/-- What follows a date. -/
def date (t : Text) : Option Text := do
  let (year, t) ← fixedDigits 4 t
  let t ← skip '-' t
  let (month, t) ← twoDigits 1 12 t
  let t ← skip '-' t
  let (_, t) ← twoDigits 1 (daysIn year month) t
  return t

def fraction : Text → Option Text
  | '.' :: rest =>
    if (rest.takeWhile Char.isDigit).isEmpty then none else some (rest.dropWhile Char.isDigit)
  | t => some t

def time (t : Text) : Option Text := do
  let (_, t) ← twoDigits 0 23 t
  let t ← skip ':' t
  let (_, t) ← twoDigits 0 59 t
  let t ← skip ':' t
  let (_, t) ← twoDigits 0 60 t
  fraction t

/-- What follows the distance from universal time that a time may have. -/
def offset : Text → Option Text
  | [] => some []
  | c :: t =>
    if c = 'Z' ∨ c = 'z' then some t
    else if c = '+' ∨ c = '-' then do
      let (_, t) ← twoDigits 0 23 t
      let t ← skip ':' t
      let (_, t) ← twoDigits 0 59 t
      return t
    else some (c :: t)

def startsDate (t : Text) : Bool :=
  ((fixedDigits 4 t).bind fun (_, t) => skip '-' t).isSome

def startsTime (t : Text) : Bool :=
  ((twoDigits 0 23 t).bind fun (_, t) => skip ':' t).isSome

/-- What follows a date or a time or both. -/
def moment (t : Text) : Option Text :=
  if startsDate t then do
    let t ← date t
    match t with
    | c :: rest =>
      if (c = 'T' ∨ c = 't' ∨ c = ' ') ∧ startsTime rest then (time rest).bind offset
      else return c :: rest
    | [] => return []
  else time t

end RepoAtlas.Toml
