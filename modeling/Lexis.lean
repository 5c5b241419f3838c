import Lexis.Main
import Lexis.Scanner.Basic
import Lexis.Proofs.Spans
import Lexis.Proofs.Trivia
import Lexis.Proofs.Grammar
import Lexis.Proofs.Reading
import Lexis.Proofs.Walks
import Lexis.Proofs.LongestMatch
import Lexis.Proofs.Partition
import Lexis.Proofs.Composition
import Lexis.Proofs.Spacing
import Lexis.Proofs.Printing
import Lexis.Proofs.Positions
import Lexis.Proofs.Lookahead
import Lexis.Proofs.Splitting
import Lexis.Proofs.Rescanning
import Lexis.Proofs.Printed
import Lexis.Proofs.Excerpts
import Lexis.Proofs.Encoding
import Lexis.Proofs.Files
import Lexis.Proofs.Reports
import Lexis.Proofs.Runs
import Lexis.Proofs.Redirection
import Lexis.Proofs.Lines
import Lexis.Proofs.Verbosity
import Lexis.Proofs.Calls
import Lexis.Proofs.Listings
import Lexis.Proofs.Skipping
import Lexis.Proofs.Recovery
import Lexis.Proofs.Screen
import Lexis.Proofs.Rendering
import Lexis.Proofs.Alignment
import Lexis.Proofs.Gutters
import Lexis.Proofs.LineTable
import Lexis.Proofs.Decoding
import Lexis.Proofs.Stacks
