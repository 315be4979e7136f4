import RepoAtlas.Text.Case
import RepoAtlas.Text.WordForm
import RepoAtlas.Unicode.Alphabetic
import RepoAtlas.Unicode.Combining
import RepoAtlas.Unicode.Hidden
import RepoAtlas.Unicode.Numeric
import RepoAtlas.Unicode.Word
import RepoAtlas.Path.Basic
import RepoAtlas.Path.Record
import RepoAtlas.Search.Catalog
import RepoAtlas.Pool.Basic
import RepoAtlas.Pool.Call
import RepoAtlas.Pool.Launch
import RepoAtlas.Pool.Engine
import RepoAtlas.Code.Import
import RepoAtlas.Code.Language
import RepoAtlas.Code.Outline
import RepoAtlas.Graph.Resolve
import RepoAtlas.Graph.Basic
import RepoAtlas.Graph.Build
import RepoAtlas.Graph.Reading
import RepoAtlas.Graph.Impact
import RepoAtlas.Graph.Rank
import RepoAtlas.Graph.Reach
import RepoAtlas.Graph.Report
import RepoAtlas.Toml.Node
import RepoAtlas.Toml.Strings
import RepoAtlas.Settings.Decode
import RepoAtlas.Files.Memory
import RepoAtlas.Files.Tree
import RepoAtlas.Settings.Load
import RepoAtlas.Proofs.Lists
import RepoAtlas.Proofs.Runs
import RepoAtlas.Proofs.Search.Ranking
import RepoAtlas.Proofs.Pool.Fate
import RepoAtlas.Proofs.Pool.Tracks
import RepoAtlas.Proofs.Pool.Verdict
import RepoAtlas.Proofs.Pool.Progress
import RepoAtlas.Proofs.Pool.Reachable
import RepoAtlas.Proofs.Pool.AllOrNothing
import RepoAtlas.Proofs.Pool.Sharding
import RepoAtlas.Proofs.Pool.Faults
import RepoAtlas.Proofs.Pool.Moves
import RepoAtlas.Proofs.Pool.Start
import RepoAtlas.Proofs.Pool.Launch
import RepoAtlas.Proofs.Pool.History
import RepoAtlas.Proofs.Graph.Build
import RepoAtlas.Proofs.Graph.Views
import RepoAtlas.Proofs.Graph.Growth
import RepoAtlas.Proofs.Graph.Diagram
import RepoAtlas.Proofs.Graph.Reading
import RepoAtlas.Proofs.Graph.Constructed
import RepoAtlas.Proofs.Graph.Reach
import RepoAtlas.Proofs.Graph.Frame
import RepoAtlas.Proofs.Path.Collapse
import RepoAtlas.Proofs.Graph.Resolve
import RepoAtlas.Proofs.Graph.Impact
import RepoAtlas.Proofs.Search.Laying
import RepoAtlas.Proofs.Search.SequenceBonus
import RepoAtlas.Proofs.Search.Bounds
import RepoAtlas.Proofs.Search.Assignment
import RepoAtlas.Proofs.Text.Blanks
import RepoAtlas.Proofs.Search.QueryWords
import RepoAtlas.Proofs.Search.Insertion
import RepoAtlas.Proofs.Text.Occurrence
import RepoAtlas.Proofs.Search.Missing
import RepoAtlas.Proofs.Search.Listing
import RepoAtlas.Proofs.Search.Conjunction
import RepoAtlas.Proofs.Text.Slashes
import RepoAtlas.Proofs.Search.Tiers
import RepoAtlas.Proofs.Code.LineByLine
import RepoAtlas.Proofs.Code.RoundTrip
import RepoAtlas.Proofs.Text.Lines
import RepoAtlas.Proofs.Code.Readings
import RepoAtlas.Proofs.Code.ScriptParts
import RepoAtlas.Proofs.Code.NameLists
import RepoAtlas.Proofs.Code.Statements
import RepoAtlas.Proofs.Code.StaticImports
import RepoAtlas.Proofs.Code.Calls
import RepoAtlas.Proofs.Text.Lowering
import RepoAtlas.Proofs.Text.WordForm
import RepoAtlas.Proofs.Text.WordEnd
import RepoAtlas.Proofs.Path.Stem
import RepoAtlas.Proofs.Search.OwnName
import RepoAtlas.Proofs.Graph.Choices
import RepoAtlas.Proofs.Graph.Climbing
import RepoAtlas.Proofs.Path.Normal
import RepoAtlas.Proofs.Text.Spacing
import RepoAtlas.Proofs.Search.Spelling
import RepoAtlas.Proofs.Search.Respelling
import RepoAtlas.Proofs.Path.Forms
import RepoAtlas.Proofs.Code.Exports
import RepoAtlas.Proofs.Code.PythonParts
import RepoAtlas.Proofs.Code.Definitions
import RepoAtlas.Proofs.Code.PythonImports
import RepoAtlas.Proofs.Graph.Ranks
import RepoAtlas.Proofs.Graph.Tests
import RepoAtlas.Proofs.Graph.Extensions
import RepoAtlas.Proofs.Graph.Importers
import RepoAtlas.Proofs.Graph.Changes
