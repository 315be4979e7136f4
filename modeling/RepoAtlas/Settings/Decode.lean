import RepoAtlas.Settings.Basic
import RepoAtlas.Toml.Document

/-! # Settings from a TOML document -/

namespace RepoAtlas.Settings

open Toml

/-- The members of a group: by name, or by position. -/
inductive Members
  | named (entries : Entries)
  | listed (items : List Node)

/-- The members of a value. A date or time counts as a group with no known member. -/
def members? : Node → Option Members
  | .table _ entries => some (.named entries)
  | .array items => some (.listed items)
  | .tables elements => some (.listed (elements.map (.table .header)))
  | .moment => some (.named [])
  | .text _ | .integer _ | .float | .boolean _ => none

def Members.get? (m : Members) (name : String) (position : Nat) : Option Node :=
  match m with
  | .named entries => entries.get? name.toList
  | .listed items => items[position]?

/-- The member, or its default if it is missing; there is no result if the member cannot be decoded. -/
def Members.getD (m : Members) (name : String) (position : Nat) (decode : Node → Option α)
    (default : α) : Option α :=
  match m.get? name position with
  | none => some default
  | some v => decode v

def decodeNat : Node → Option Nat
  | .integer n => if 0 ≤ n then some n.toNat else none
  | _ => none

def decodeText : Node → Option Text
  | .text t => some t
  | _ => none

def decodeAlias (v : Node) : Option Alias := do
  let m ← members? v
  let lead ← decodeText (← m.get? "prefix" 0)
  let target ← decodeText (← m.get? "target" 1)
  return ⟨lead, target⟩

def decodeAliases (v : Node) : Option (List Alias) :=
  match v with
  | .array _ | .tables _ => do
    match ← members? v with
    | .listed items => items.mapM decodeAlias
    | .named _ => none
  | _ => none

def decodeSearch (v : Node) : Option SearchSettings := do
  let m ← members? v
  let default : SearchSettings := {}
  return {
    splitFrom := ← m.getD "parallel_threshold" 0 decodeNat default.splitFrom
    shards? := ← m.getD "shard_count" 1 (fun v => some <$> decodeNat v) default.shards? }

def decodeGraph (v : Node) : Option GraphSettings := do
  let m ← members? v
  let default : GraphSettings := {}
  return {
    readers := ← m.getD "read_concurrency" 0 decodeNat default.readers
    batch := ← m.getD "batch_size" 1 decodeNat default.batch
    aliases := ← m.getD "aliases" 2 decodeAliases default.aliases }

def decode (entries : Entries) : Option Settings := do
  let m := Members.named entries
  return {
    search := ← m.getD "search" 0 decodeSearch {}
    graph := ← m.getD "graph" 1 decodeGraph {} }

inductive Error
  | malformed
  | flawed (flaw : Flaw)
  deriving DecidableEq

def Error.message : Error → Text
  | .malformed => "Invalid engine configuration".toList
  | .flawed flaw => flaw.message

def ofToml (document : Text) : Except Error Settings :=
  match (Toml.document document).bind decode with
  | none => .error .malformed
  | some s =>
    match s.flaw? with
    | some flaw => .error (.flawed flaw)
    | none => .ok s

end RepoAtlas.Settings
