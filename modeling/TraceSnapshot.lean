import TraceSnapshot.Ini.Document
import TraceSnapshot.Ini.Outline
import TraceSnapshot.Snapshot
import TraceSnapshot.Canonical
import TraceSnapshot.DumpText
import TraceSnapshot.Schema
import TraceSnapshot.Load
import TraceSnapshot.Run
import TraceSnapshot.CommandLine
import TraceSnapshot.Main
import TraceSnapshot.Proofs.TextParts
import TraceSnapshot.Proofs.DocumentReading
import TraceSnapshot.Proofs.LexicalForm
import TraceSnapshot.Proofs.ModelReading
import TraceSnapshot.Proofs.StableSorting
import TraceSnapshot.Proofs.Traversal
import TraceSnapshot.Proofs.Loading
import TraceSnapshot.Proofs.Legibility
import TraceSnapshot.Proofs.DumpReading
import TraceSnapshot.Proofs.DumpFidelity
import TraceSnapshot.Proofs.FirstFailure
import TraceSnapshot.Proofs.DiskWriting
import TraceSnapshot.Proofs.AllOrNothing
import TraceSnapshot.Proofs.Arrangement
import TraceSnapshot.Proofs.ReaderAgreement
import TraceSnapshot.Proofs.WellFormed
import TraceSnapshot.Proofs.DeviceListOrder
import TraceSnapshot.Proofs.Aborts
import TraceSnapshot.Proofs.Fitness
import TraceSnapshot.Proofs.SchemaMeaning
import TraceSnapshot.Proofs.ValidatedFiles
import TraceSnapshot.Proofs.DeclarationOrder
import TraceSnapshot.Proofs.Messages
import TraceSnapshot.Proofs.ConsoleLines
import TraceSnapshot.Proofs.Grammar
import TraceSnapshot.Proofs.CanonicalForm
import TraceSnapshot.Proofs.TraceArrangement
import TraceSnapshot.Proofs.CompleteDevices
import TraceSnapshot.Proofs.CompleteTraces
import TraceSnapshot.Proofs.Numerals
import TraceSnapshot.Proofs.FlagBlocks
import TraceSnapshot.Proofs.RegisterOrder
import TraceSnapshot.Proofs.Layout
import TraceSnapshot.Proofs.Concatenation
import TraceSnapshot.Proofs.Verdicts
import TraceSnapshot.Proofs.RegisterKeys
import TraceSnapshot.Proofs.PathJoining
import TraceSnapshot.Proofs.TrailingSlash
import TraceSnapshot.Proofs.DocumentPrinting
import TraceSnapshot.Proofs.CommaLists
