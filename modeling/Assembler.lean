import Assembler.Text.Blank
import Assembler.Text.Case
import Assembler.Text.Distance
import Assembler.Text.Lines
import Assembler.Text.Quoted
import Assembler.Text.Utf8
import Assembler.Decimal.Shortest
import Assembler.Json.Printer
import Assembler.Json.Reader
import Assembler.Program
import Assembler.Document
import Assembler.SymbolTable
import Assembler.Assembly
import Assembler.CommandLine.Run
import Assembler.Main
import Assembler.Proofs.Bits
import Assembler.Proofs.BitOperations
import Assembler.Proofs.Literal
import Assembler.Proofs.Fitting
import Assembler.Proofs.Layout
import Assembler.Proofs.Expansion
import Assembler.Proofs.Resolution
import Assembler.Proofs.Assembly
import Assembler.Proofs.Placement
import Assembler.Proofs.References
import Assembler.Proofs.Reading
import Assembler.Proofs.AddressSpace
import Assembler.Proofs.Checking
import Assembler.Proofs.Consistency
import Assembler.Proofs.Reported
import Assembler.Proofs.Acceptance
import Assembler.Proofs.Ranges
import Assembler.Proofs.Displacement
import Assembler.Proofs.Relocation
import Assembler.Proofs.Sessions
import Assembler.Proofs.Grammar
import Assembler.Proofs.Numeral
import Assembler.Proofs.Loading
import Assembler.Proofs.Refusal
import Assembler.Proofs.Agreement
import Assembler.Proofs.Names
import Assembler.Proofs.Renaming
import Assembler.Proofs.Spelling
import Assembler.Proofs.Faults
import Assembler.Proofs.FileTree
import Assembler.Proofs.Labels
import Assembler.Proofs.Quantities
import Assembler.Proofs.FirstError
import Assembler.Proofs.Warnings
import Assembler.Proofs.Runs
import Assembler.Proofs.NormalForm
import Assembler.Proofs.Uses
import Assembler.Proofs.Substitution
import Assembler.Proofs.Interpretation
import Assembler.Proofs.LiteralGrammar
import Assembler.Proofs.RoundTrip
import Assembler.Proofs.Validation
import Assembler.Proofs.EditDistance
import Assembler.Proofs.Histories
import Assembler.Proofs.InstructionText
import Assembler.Proofs.SymbolFile
