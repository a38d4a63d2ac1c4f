import Stencil.Command.Arguments
import Stencil.Command.Assignment
import Stencil.Command.Check
import Stencil.Command.Context
import Stencil.Command.Diagnostic
import Stencil.Command.Outcome
import Stencil.Command.Program
import Stencil.Command.Render
import Stencil.Command.Table
import Stencil.Fields
import Stencil.Json.Basic
import Stencil.Json.Fault
import Stencil.Json.Number
import Stencil.Json.Printer
import Stencil.Json.Pruning
import Stencil.Json.Quoted
import Stencil.Json.Reader
import Stencil.Main
import Stencil.Marker.Basic
import Stencil.Marker.Blocks
import Stencil.Marker.LoopTarget
import Stencil.Marker.Outline
import Stencil.Marker.Placeholders
import Stencil.Path
import Stencil.Proofs.Command.Assign
import Stencil.Proofs.Command.Assignments
import Stencil.Proofs.Command.FaultLabel
import Stencil.Proofs.Command.Rendering
import Stencil.Proofs.Command.TreeUpdate
import Stencil.Proofs.Json.Dropping
import Stencil.Proofs.Json.Printing
import Stencil.Proofs.Json.Reading
import Stencil.Proofs.Json.Spelling
import Stencil.Proofs.Marker.BlockScan
import Stencil.Proofs.Marker.Crossing
import Stencil.Proofs.Marker.Outline
import Stencil.Proofs.Marker.PlaceholderScan
import Stencil.Proofs.Marker.RangeGrammar
import Stencil.Proofs.Marker.RangeTarget
import Stencil.Proofs.Marker.Slicing
import Stencil.Proofs.Marker.Spans
import Stencil.Proofs.Render.BlockInText
import Stencil.Proofs.Render.InPlace
import Stencil.Proofs.Render.LeftInPlace
import Stencil.Proofs.Render.NotText
import Stencil.Proofs.Render.Openers
import Stencil.Proofs.Render.Passes
import Stencil.Proofs.Render.PlainText
import Stencil.Proofs.Render.RangeLoop
import Stencil.Proofs.Render.Recording
import Stencil.Proofs.Render.Reports
import Stencil.Proofs.Render.Slicing
import Stencil.Proofs.Render.Stretches
import Stencil.Proofs.Render.Unclosed
import Stencil.Proofs.Render.Unfolding
import Stencil.Proofs.Render.Unresolved
import Stencil.Proofs.Source.Caching
import Stencil.Proofs.Source.Fallback
import Stencil.Proofs.Source.Names
import Stencil.Proofs.Source.Paths
import Stencil.Proofs.Source.Requests
import Stencil.Proofs.Source.Runs
import Stencil.Proofs.Template.BraceFree
import Stencil.Proofs.Template.Meaning
import Stencil.Proofs.Template.Pieces
import Stencil.Proofs.Text.Edits
import Stencil.Proofs.Text.Numbering
import Stencil.Proofs.Text.Numeral
import Stencil.Proofs.Text.Place
import Stencil.Proofs.Text.Position
import Stencil.Proofs.Text.Skipping
import Stencil.Proofs.Text.Slice
import Stencil.Proofs.Value.Closest
import Stencil.Proofs.Value.Composition
import Stencil.Proofs.Value.Conversion
import Stencil.Proofs.Value.Lookup
import Stencil.Proofs.Value.RoundTrip
import Stencil.Proofs.Value.Suggestion
import Stencil.Render.Edit
import Stencil.Render.Expansion
import Stencil.Render.Interpolation
import Stencil.Render.Page
import Stencil.Render.Scope
import Stencil.Render.Suggestion
import Stencil.Render.Warning
import Stencil.Source.Directory
import Stencil.Source.Disk
import Stencil.Source.FilePath
import Stencil.Source.Load
import Stencil.Source.Session
import Stencil.Source.Views
import Stencil.Template
import Stencil.Text.Basic
import Stencil.Text.Blank
import Stencil.Text.EditDistance
import Stencil.Text.Integer
import Stencil.Text.Numeral
import Stencil.Text.Position
import Stencil.Text.Search
import Stencil.Value.Basic
import Stencil.Value.Document
import Stencil.Value.Reader
import Stencil.Width.Line
