import Stencil.Token.Scan
import Stencil.Template.Compile
import Stencil.Data.Context
import Stencil.Registry
import Stencil.Render.Basic
import Stencil.Proofs.Grammar.Reading
import Stencil.Proofs.Render.Flat
import Stencil.Proofs.Render.Comparison
import Stencil.Proofs.Render.Limits
import Stencil.Proofs.Scan.Partition
import Stencil.Proofs.Scan.Chains
import Stencil.Proofs.Print.Lines
import Stencil.Proofs.Print.Source
import Stencil.Proofs.Scan.Replacement
import Stencil.Proofs.Print.Canonical
import Stencil.Proofs.Print.RoundTrip
import Stencil.Proofs.Reading.Likeness
import Stencil.Proofs.Reading.Constructs
import Stencil.Proofs.Reading.Threshold
import Stencil.Proofs.Render.Nesting
import Stencil.Proofs.Render.Lists
import Stencil.Proofs.Render.Static
import Stencil.Proofs.Scan.LineEnds
import Stencil.Proofs.Reading.Append
import Stencil.Proofs.Compile.Append
import Stencil.Proofs.Render.Cycles
import Stencil.Proofs.Render.Inlining
import Stencil.Proofs.Render.Substitution
import Stencil.Proofs.Compile.NormalForm
import Stencil.Proofs.Render.Dependence
import Stencil.Proofs.Render.FixedPoint
import Stencil.Proofs.Scan.Writing
import Stencil.Proofs.Data.Json
import Stencil.Proofs.Render.Interpolation
import Stencil.Proofs.Render.Binders
import Stencil.Proofs.Scan.PlainText
import Stencil.Proofs.Render.PlainText
import Stencil.Proofs.Compile.ClosingTags
import Stencil.Proofs.Reading.Strictness
import Stencil.Proofs.Render.CallChains
import Stencil.Proofs.Scan.Problems
import Stencil.Proofs.Render.BareValues
import Stencil.Proofs.Scan.Longest
import Stencil.Proofs.Compile.Places
import Stencil.Proofs.Render.Rewriting
import Stencil.Proofs.Render.Sequence
import Stencil.Proofs.Data.Bindings
import Stencil.Proofs.Render.TextRuns
import Stencil.Proofs.Registry.Runs
import Stencil.Proofs.Text.OneLine
import Stencil.Proofs.Compile.Reports
import Stencil.Proofs.Cursor.Reader
import Stencil.Proofs.Cursor.Steps
import Stencil.Proofs.Cursor.Forms
import Stencil.Proofs.Cursor.Runs
import Stencil.Proofs.Scan.Step
import Stencil.Proofs.Render.Buffer
