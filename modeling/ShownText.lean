import ShownText.Main
import ShownText.Extraction.Scripted
import ShownText.Registry
import ShownText.Proofs.Matching
import ShownText.Proofs.Grammar
import ShownText.Proofs.Printing
import ShownText.Proofs.Marks
import ShownText.Proofs.Utf16
import ShownText.Proofs.UnicodeForms
import ShownText.Proofs.Places
import ShownText.Proofs.Scanner
import ShownText.Proofs.ScannerAgreement
import ShownText.Proofs.Tiling
import ShownText.Proofs.Numerals
import ShownText.Proofs.Recovery
import ShownText.Proofs.Cutting
import ShownText.Proofs.Fallback
import ShownText.Proofs.Registration
import ShownText.Proofs.Closing
import ShownText.Proofs.Joining
import ShownText.Proofs.Layout
import ShownText.Proofs.Extraction
import ShownText.Proofs.StandardRegistry
import ShownText.Proofs.Files
import ShownText.Proofs.Buffering
import ShownText.Proofs.Reporting
import ShownText.Proofs.JsonText
import ShownText.Proofs.JsonLines
import ShownText.Proofs.Malformed
import ShownText.Proofs.RecordJson
import ShownText.Proofs.Delivery
import ShownText.Proofs.LiteralItems
import ShownText.Proofs.EntryPoints
import ShownText.Proofs.OutputFile
import ShownText.Proofs.NoText
import ShownText.Proofs.NumberScan
import ShownText.Proofs.HexPairs
import ShownText.Proofs.TextLines
import ShownText.Proofs.OpenStrings
import ShownText.Proofs.Spellings
import ShownText.Proofs.Puts
import ShownText.Proofs.RecordHistory
import ShownText.Proofs.Parameters
import ShownText.Proofs.RecordEquality
import ShownText.Proofs.MediaTypes
import ShownText.Proofs.ReadBounds
