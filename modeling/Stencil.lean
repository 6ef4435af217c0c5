import Stencil.Proofs.Filter.Address
import Stencil.Proofs.Filter.Capitalization
import Stencil.Proofs.Filter.Comment
import Stencil.Proofs.Filter.Distinct
import Stencil.Proofs.Filter.Division
import Stencil.Proofs.Filter.Exactness
import Stencil.Proofs.Filter.Splitting
import Stencil.Proofs.Filter.Truncation
import Stencil.Proofs.Node.Choice
import Stencil.Proofs.Node.Locals
import Stencil.Proofs.Segment.Termination
import Stencil.Proofs.Session
import Stencil.Proofs.Template.Alone
import Stencil.Proofs.Template.Capture
import Stencil.Proofs.Template.Chain
import Stencil.Proofs.Template.Closing
import Stencil.Proofs.Template.Comment
import Stencil.Proofs.Template.Comparison
import Stencil.Proofs.Template.Extension
import Stencil.Proofs.Template.Failure
import Stencil.Proofs.Template.Lookup
import Stencil.Proofs.Template.Noninterference
import Stencil.Proofs.Template.Numeral
import Stencil.Proofs.Template.Padding
import Stencil.Proofs.Template.Printing
import Stencil.Proofs.Template.Raw
import Stencil.Proofs.Template.Safety
import Stencil.Proofs.Template.Totality
import Stencil.Proofs.Template.WellFormed
import Stencil.Proofs.Text.Position
import Stencil.Proofs.Value.Containment
import Stencil.Proofs.Value.Reading
import Stencil.Proofs.Workspace

/-!
# Stencil

A template language: a source is cut into pieces, the insides of its outputs and
tags are read by a grammar, tags are nested into blocks, and the nodes that come
of it are rendered against data, with filters and tags that a configuration
registers.

`Stencil.Template` compiles and renders, `Stencil.Session` and `Stencil.Workspace`
are what a program does with configurations, templates and contexts over time,
and `Stencil.Platform` is what the built-in filters take from outside: sorting of
long lists, clusters of texts, and the calendar.

The theory follows the same path.  `Proofs.Segment` and `Proofs.Piece` are about
how a source is cut, `Proofs.Grammar` and `Proofs.Syntax` about what is read,
`Proofs.Block` about nesting, `Proofs.Node` about rendering, and `Proofs.Template`
about sources as a whole; `Proofs.Value`, `Proofs.Number` and `Proofs.Filter` are
about values and what filters make of them.
-/
