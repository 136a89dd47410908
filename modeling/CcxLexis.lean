import CcxLexis.Byte
import CcxLexis.ReservedWords
import CcxLexis.Text.Ranges
import CcxLexis.Text.Unassigned
import CcxLexis.Text.Hidden
import CcxLexis.Text.Numeral
import CcxLexis.Text.Alphanumeric
import CcxLexis.Text.Blank
import CcxLexis.Text.Quoted
import CcxLexis.Text.Guarded
import CcxLexis.Text.Plain
import CcxLexis.Token
import CcxLexis.Fault
import CcxLexis.ScanFailure
import CcxLexis.Settings
import CcxLexis.Event
import CcxLexis.Logged
import CcxLexis.Lexeme
import CcxLexis.Reader
import CcxLexis.Cursor
import CcxLexis.Scanner.Mode
import CcxLexis.Scanner.Basic
import CcxLexis.Scanner.Step
import CcxLexis.Scanner.Scanned
import CcxLexis.Scanner.Stream
import CcxLexis.Session
import CcxLexis.FileTree
import CcxLexis.FileTree.Scan
import CcxLexis.Pattern.Flags
import CcxLexis.Pattern.Symbol
import CcxLexis.Pattern.Depth
import CcxLexis.Pattern.Brackets
import CcxLexis.Pattern.Group
import CcxLexis.Pattern.Expression
import CcxLexis.LogFilter
import CcxLexis.LogFilter.Value
import CcxLexis.LogFilter.Written
import CcxLexis.CommandLine.Arguments
import CcxLexis.CommandLine.Help
import CcxLexis.CommandLine.Output
import CcxLexis.CommandLine.Dump
import CcxLexis.CommandLine.Program
import CcxLexis.CommandLine.Elapsed
import CcxLexis.Main
import CcxLexis.Proofs.Kept
import CcxLexis.Proofs.Piece
import CcxLexis.Proofs.Shown
import CcxLexis.Proofs.Reading
import CcxLexis.Proofs.Lossless
import CcxLexis.Proofs.Limits
import CcxLexis.Proofs.Schedule
import CcxLexis.Proofs.Spelling
import CcxLexis.Proofs.RoundTrip
import CcxLexis.Proofs.Passage
import CcxLexis.Proofs.Failure
import CcxLexis.Proofs.Continuation
import CcxLexis.Proofs.Separation
import CcxLexis.Proofs.Interleaving
import CcxLexis.Proofs.Restart
import CcxLexis.Proofs.Listing
import CcxLexis.Proofs.Records
import CcxLexis.Proofs.Agreement
import CcxLexis.Proofs.Arguments
import CcxLexis.Proofs.Acceptance
import CcxLexis.Proofs.Switches
import CcxLexis.Proofs.Verbosity
import CcxLexis.Proofs.Readback
import CcxLexis.Proofs.Ahead
import CcxLexis.Proofs.Closer
import CcxLexis.Proofs.LongestRun
import CcxLexis.Proofs.Reports
import CcxLexis.Proofs.Recovery
import CcxLexis.Proofs.Progress
import CcxLexis.Proofs.Words
import CcxLexis.Proofs.Actions
import CcxLexis.Proofs.Refusal
