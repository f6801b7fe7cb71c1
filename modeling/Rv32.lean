import Rv32.Assembly
import Rv32.Decode
import Rv32.DecodeError
import Rv32.Encoding
import Rv32.Extension
import Rv32.Fields
import Rv32.Format
import Rv32.Immediate
import Rv32.Instruction
import Rv32.Isa
import Rv32.Layout
import Rv32.Mnemonic
import Rv32.Opcode
import Rv32.Operands
import Rv32.Operation.Compressed
import Rv32.Operation.Form
import Rv32.Operation.Integer
import Rv32.Operation.Multiply
import Rv32.Operation.Vector
import Rv32.Register
import Rv32.Stream
import Rv32.Text.Blank
import Rv32.Text.CodePoints
import Rv32.Text.ExtendingMark
import Rv32.Text.Numeral
import Rv32.Text.Quoted
import Rv32.Text.Unprintable
import Rv32.Word.Basic
import Rv32.Word.Text
import Rv32.Proofs.Layout
import Rv32.Proofs.SignExtension
import Rv32.Proofs.Immediate
import Rv32.Proofs.Decode
import Rv32.Proofs.Fields
import Rv32.Proofs.IntegerShapes
import Rv32.Proofs.IntegerWords
import Rv32.Proofs.Assembly
import Rv32.Proofs.Disassembly
import Rv32.Proofs.CompressedFields
import Rv32.Proofs.CompressedShapes
import Rv32.Proofs.CompressedWords
import Rv32.Proofs.CompressedDecode
import Rv32.Proofs.VectorShapes
import Rv32.Proofs.VectorFields
import Rv32.Proofs.VectorWords
import Rv32.Proofs.Tiling
import Rv32.Proofs.Concatenation
import Rv32.Proofs.Merging
import Rv32.Proofs.Numeral
import Rv32.Proofs.Trimming
import Rv32.Proofs.WordText
import Rv32.Proofs.EntryPoints
import Rv32.Proofs.Names
import Rv32.Proofs.DecodeErrors
import Rv32.Proofs.WellFormed
import Rv32.Proofs.Classification
import Rv32.Proofs.HexText
import Rv32.Proofs.RoundTrip
import Rv32.Proofs.IsaNames
import Rv32.Proofs.RegisterNames
import Rv32.Proofs.Segmentation
import Rv32.Proofs.ReportedWidth
import Rv32.Proofs.Underscores
import Rv32.Proofs.FieldBijections
import Rv32.Proofs.BitViews
import Rv32.Proofs.CompressedImmediates
import Rv32.Proofs.AssembledWords
