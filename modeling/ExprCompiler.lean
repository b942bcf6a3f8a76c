import ExprCompiler.Files.Folder
import ExprCompiler.Main
import ExprCompiler.Proofs.CompileCorrect
import ExprCompiler.Proofs.LayoutFree
import ExprCompiler.Proofs.Lossless
import ExprCompiler.Proofs.ParserSession
import ExprCompiler.Proofs.ScannerSession
import ExprCompiler.Proofs.SpanText
import ExprCompiler.Proofs.ReadBack
import ExprCompiler.Proofs.ScanFailure
import ExprCompiler.Proofs.SourceLine
import ExprCompiler.Proofs.CompileFailure
import ExprCompiler.Proofs.ErrorPlace
import ExprCompiler.Proofs.CommandSettings
import ExprCompiler.Proofs.CommandEffects
import ExprCompiler.Proofs.DepthLimit
import ExprCompiler.Proofs.IntegerCode
import ExprCompiler.Proofs.MinimalText
import ExprCompiler.Proofs.SpanNesting
import ExprCompiler.Proofs.Conservation
import ExprCompiler.Proofs.PlaceFree
import ExprCompiler.Proofs.ScanFront
import ExprCompiler.Proofs.Respaced
import ExprCompiler.Proofs.LineEndings
import ExprCompiler.Proofs.Excerpt
import ExprCompiler.Proofs.Immediates
import ExprCompiler.Proofs.Traversals
import ExprCompiler.Proofs.TokenDump
import ExprCompiler.Proofs.Printable
