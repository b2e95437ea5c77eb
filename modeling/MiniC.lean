import MiniC.Grammar
import MiniC.Main
import MiniC.Proofs.Derivation
import MiniC.Proofs.Prediction
import MiniC.Proofs.Residual
import MiniC.Proofs.Run
import MiniC.Proofs.Recognition
import MiniC.Proofs.Lexical
import MiniC.Proofs.Gap
import MiniC.Proofs.Tiling
import MiniC.Proofs.LongestMatch
import MiniC.Proofs.Effects
import MiniC.Proofs.Reporting
import MiniC.Proofs.Advice
import MiniC.Proofs.Spans
import MiniC.Proofs.Steps
import MiniC.Proofs.Passes
import MiniC.Proofs.Spelling
import MiniC.Proofs.Pieces
import MiniC.Proofs.Lookahead
import MiniC.Proofs.Verdict
import MiniC.Proofs.Blanking
import MiniC.Proofs.Concatenation
import MiniC.Proofs.EndOfInput
import MiniC.Proofs.Reprint
import MiniC.Proofs.Warnings
import MiniC.Proofs.Resumption
import MiniC.Proofs.Modes
import MiniC.Proofs.Session
import MiniC.Proofs.InRange
import MiniC.Proofs.Disclosure
import MiniC.Proofs.Progress
import MiniC.Proofs.Highlighting
import MiniC.Proofs.Fragments
import MiniC.Proofs.Scrolling
import MiniC.Proofs.LastPage
import MiniC.Proofs.Playing
import MiniC.Proofs.Devices
import MiniC.Proofs.LineEndings
import MiniC.Proofs.Alternation
import MiniC.Proofs.Expressions
import MiniC.Proofs.Logging
import MiniC.Proofs.Descent
import MiniC.Proofs.Head.Dangling
import MiniC.Proofs.Head.EndMark
