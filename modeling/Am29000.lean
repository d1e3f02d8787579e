import Am29000.Catalog
import Am29000.Command.Grammar
import Am29000.Command.Image
import Am29000.Command.Outcome
import Am29000.Command.Words
import Am29000.Decode
import Am29000.Instruction
import Am29000.Instruction.Json
import Am29000.Instruction.Text
import Am29000.Json.Basic
import Am29000.Json.Library
import Am29000.Json.Printer
import Am29000.Json.Reader
import Am29000.Layout
import Am29000.Listing
import Am29000.Listing.Json
import Am29000.Main
import Am29000.Memory
import Am29000.Memory.Load
import Am29000.OpClass
import Am29000.Operand
import Am29000.Operand.Json
import Am29000.Operand.Script
import Am29000.Part
import Am29000.Part.Flags
import Am29000.Part.Json
import Am29000.Part.Label
import Am29000.Text.Address
import Am29000.Text.Blank
import Am29000.Text.Cut
import Am29000.Text.Numeral
import Am29000.Text.Printable
import Am29000.Text.Quoted
import Am29000.Word
import Am29000.Proofs.Fields
import Am29000.Proofs.Selection
import Am29000.Proofs.Encoding
import Am29000.Proofs.WellFormed
import Am29000.Proofs.Mapping
import Am29000.Proofs.Sweep
import Am29000.Proofs.Strictness
import Am29000.Proofs.Targets
import Am29000.Proofs.Loading
import Am29000.Proofs.Numerals
import Am29000.Proofs.Tokens
import Am29000.Proofs.Trimming
import Am29000.Proofs.Addresses
import Am29000.Proofs.Arguments
import Am29000.Proofs.Relocation
import Am29000.Proofs.Agreement
import Am29000.Proofs.Rearrangement
import Am29000.Proofs.Labels
import Am29000.Proofs.WordRuns
import Am29000.Proofs.Checks
import Am29000.Proofs.Sections
import Am29000.Proofs.Scripts
import Am29000.Proofs.Classification
import Am29000.Proofs.ControlFlow
import Am29000.Proofs.JsonText
import Am29000.Proofs.Formats
import Am29000.Proofs.Overlay
import Am29000.Proofs.Spelling
import Am29000.Proofs.Rendering
import Am29000.Proofs.Ambiguity
import Am29000.Proofs.Modes
import Am29000.Proofs.Returns
import Am29000.Proofs.Cutting
import Am29000.Proofs.AddressGrammar
import Am29000.Proofs.JsonLaws
import Am29000.Proofs.Respelling
