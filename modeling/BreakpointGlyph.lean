import BreakpointGlyph.Main
import BreakpointGlyph.Proofs.Location.Walk
import BreakpointGlyph.Proofs.Signature.Kept
import BreakpointGlyph.Proofs.Tooltip.Formatter
import BreakpointGlyph.Proofs.Tooltip.Heading
import BreakpointGlyph.Proofs.Tooltip.History
import BreakpointGlyph.Proofs.Tooltip.InsertionOrder
import BreakpointGlyph.Tooltip.Dispatch
import BreakpointGlyph.Proofs.Tooltip.Dispatch
import BreakpointGlyph.Tooltip.Pieces
import BreakpointGlyph.Proofs.Tooltip.Template
import BreakpointGlyph.Tooltip.Dump
import BreakpointGlyph.Proofs.Tooltip.Account
import BreakpointGlyph.Proofs.Signature.Unclosed
import BreakpointGlyph.CommandLine.Decoding
import BreakpointGlyph.Proofs.CommandLine.Decoding
import BreakpointGlyph.CommandLine.Description
import BreakpointGlyph.Proofs.CommandLine.Describe
import BreakpointGlyph.CommandLine.SegmentLines
import BreakpointGlyph.Proofs.Signature.Characters
import BreakpointGlyph.Proofs.CommandLine.SegmentLines
import BreakpointGlyph.CommandLine.Together
import BreakpointGlyph.Proofs.CommandLine.Together
import BreakpointGlyph.Proofs.Tooltip.Label
import BreakpointGlyph.Proofs.Signature.Flags
import BreakpointGlyph.Signature.Namespaces
import BreakpointGlyph.Proofs.Signature.NameParts
import BreakpointGlyph.Proofs.Signature.Namespaces
import BreakpointGlyph.Proofs.Signature.Keywords
import BreakpointGlyph.Proofs.Signature.Layout
import BreakpointGlyph.Signature.Layout
import BreakpointGlyph.Location.Lines
import BreakpointGlyph.Proofs.Location.Lines
import BreakpointGlyph.Proofs.Signature.KeptBrackets
import BreakpointGlyph.Proofs.Signature.Reprinted
import BreakpointGlyph.Proofs.Location.Order
import BreakpointGlyph.Numeral.Grammar
import BreakpointGlyph.Proofs.Numeral.Grammar
import BreakpointGlyph.Proofs.Numeral.Reader
import BreakpointGlyph.Proofs.Location.Shown
import BreakpointGlyph.Location.MappingText
import BreakpointGlyph.Proofs.Location.MappingText
import BreakpointGlyph.Signature.Counter
import BreakpointGlyph.Proofs.Signature.Counter
import BreakpointGlyph.Logging.Checks
import BreakpointGlyph.Proofs.Logging.File
import BreakpointGlyph.Setup
import BreakpointGlyph.Proofs.Setup
import BreakpointGlyph.Signature.ArgumentList
import BreakpointGlyph.Proofs.Signature.ArgumentList
import BreakpointGlyph.Signature.Calls
import BreakpointGlyph.Proofs.Signature.Calls
