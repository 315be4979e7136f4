import RepoAtlas.Toml.Strings

/-! # Numbers of TOML -/

namespace RepoAtlas.Toml

/-- Digits of a kind, with single underscores between them, and what follows. The result has no
underscores; an underscore without a digit after it is refused. -/
def digitRun (isDigit : Char → Bool) : Text → Option (Text × Text)
  | [] => none
  | [c] => if isDigit c then some ([c], []) else none
  | c :: '_' :: rest => if isDigit c then before c (digitRun isDigit rest) else none
  | c :: d :: rest =>
    if isDigit c then
      if isDigit d then before c (digitRun isDigit (d :: rest)) else some ([c], d :: rest)
    else none

def decimal (digits : Text) : Nat :=
  digits.foldl (fun n c => 10 * n + (c.toNat - '0'.toNat)) 0

def integer64? (n : Int) : Option Int :=
  if -9223372036854775808 ≤ n ∧ n < 9223372036854775808 then some n else none

/-- The digits of an integer in base ten: a zero, or digits that do not begin with one. -/
def wholeDigits : Text → Option (Text × Text)
  | '0' :: rest => some (['0'], rest)
  | t => digitRun Char.isDigit t

def isHexDigit (c : Char) : Bool :=
  (hexNumber? [c]).isSome

def inBase (base : Nat) (digits : Text) : Nat :=
  digits.foldl (fun n c => base * n + (hexNumber? [c]).getD 0) 0

def basedInteger (base : Nat) (isDigit : Char → Bool) (t : Text) : Option (Int × Text) := do
  let (digits, rest) ← digitRun isDigit t
  let n ← integer64? (inBase base digits)
  return (n, rest)

/-- Whether the decimal `mantissa · 10 ^ exponent` is rounded to infinity: it is no smaller than the
middle between the largest float and the next power of two. -/
def overflows (mantissa : Nat) (exponent : Int) : Bool :=
  let digits : Int := (Nat.repr mantissa).length
  if mantissa = 0 ∨ digits + exponent < 300 then false
  else if 400 < digits + exponent then true
  else
    let bound := Nat.pow 2 1024 - Nat.pow 2 970
    if 0 ≤ exponent then bound ≤ mantissa * Nat.pow 10 exponent.toNat
    else bound * Nat.pow 10 (-exponent).toNat ≤ mantissa

def exponent : Text → Option (Int × Text)
  | '-' :: rest => (digitRun Char.isDigit rest).map fun (ds, rest) => (-(decimal ds : Int), rest)
  | '+' :: rest => (digitRun Char.isDigit rest).map fun (ds, rest) => ((decimal ds : Int), rest)
  | t => (digitRun Char.isDigit t).map fun (ds, rest) => ((decimal ds : Int), rest)

def exponent? : Text → Option (Int × Text)
  | c :: rest => if c = 'e' ∨ c = 'E' then exponent rest else some (0, c :: rest)
  | [] => some (0, [])

inductive Magnitude
  | whole (n : Nat)
  | float (overflows : Bool)

def magnitude (t : Text) : Option (Magnitude × Text) := do
  let (whole, rest) ← wholeDigits t
  match rest with
  | '.' :: rest =>
    let (fraction, rest) ← digitRun Char.isDigit rest
    let (e, rest) ← exponent? rest
    return (.float (overflows (decimal (whole ++ fraction)) (e - fraction.length)), rest)
  | c :: _ =>
    if c = 'e' ∨ c = 'E' then
      let (e, rest) ← exponent? rest
      return (.float (overflows (decimal whole) e), rest)
    else return (.whole (decimal whole), rest)
  | [] => return (.whole (decimal whole), rest)

end RepoAtlas.Toml
