import Monkey.Position
import Monkey.Text.RangeTable
import Monkey.Text.Letter
import Monkey.Text.Unprintable
import Monkey.Text.Quoted
import Monkey.Text.Utf8
import Monkey.Numeral
import Monkey.Source.Failure
import Monkey.Source.Bytes
import Monkey.Source.Lookahead
import Monkey.Token.Kind
import Monkey.Token.Basic
import Monkey.Token.Item
import Monkey.Token.Scanner
import Monkey.Token.Iterator
import Monkey.Token.Supply
import Monkey.Operator
import Monkey.Tree.Basic
import Monkey.Tree.Display
import Monkey.Diagnosis
import Monkey.Program.Window
import Monkey.Program.Climb
import Monkey.Program.Statements
import Monkey.Program.Reading
import Monkey.Proofs.Numeral
import Monkey.Proofs.Program.Acceptance
import Monkey.Proofs.Program.Accounting
import Monkey.Proofs.Program.Breaking
import Monkey.Proofs.Program.Buffering
import Monkey.Proofs.Program.Climbing
import Monkey.Proofs.Program.Confinement
import Monkey.Proofs.Program.Decoding
import Monkey.Proofs.Program.Descent
import Monkey.Proofs.Program.Earliest
import Monkey.Proofs.Program.Expression
import Monkey.Proofs.Program.Grouping
import Monkey.Proofs.Program.Integers
import Monkey.Proofs.Program.Justified
import Monkey.Proofs.Program.Keeping
import Monkey.Proofs.Program.Meaning
import Monkey.Proofs.Program.Order
import Monkey.Proofs.Program.Placement
import Monkey.Proofs.Program.Rendering
import Monkey.Proofs.Program.Report
import Monkey.Proofs.Program.Resuming
import Monkey.Proofs.Program.RoundTrip
import Monkey.Proofs.Program.Streaming
import Monkey.Proofs.Source.Coupling
import Monkey.Proofs.Source.Decoding
import Monkey.Proofs.Source.Passed
import Monkey.Proofs.Source.Peeking
import Monkey.Proofs.Source.Reads
import Monkey.Proofs.Source.Taking
import Monkey.Proofs.Token.Classes
import Monkey.Proofs.Token.Coupled
import Monkey.Proofs.Token.Drawing
import Monkey.Proofs.Token.Ending
import Monkey.Proofs.Token.Failing
import Monkey.Proofs.Token.Finality
import Monkey.Proofs.Token.Layout
import Monkey.Proofs.Token.Passing
import Monkey.Proofs.Token.Places
import Monkey.Proofs.Token.Spelled
import Monkey.Proofs.Token.Taken
import Monkey.Proofs.Tree.Unambiguous
