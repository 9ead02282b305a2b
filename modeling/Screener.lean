import Screener.Bar
import Screener.Calendar.Date
import Screener.Calendar.Timestamp
import Screener.CommandLine.Arguments
import Screener.CommandLine.Command
import Screener.CommandLine.Console
import Screener.CommandLine.Run
import Screener.Configuration.Basic
import Screener.Configuration.File
import Screener.Configuration.Scan
import Screener.Configuration.Service
import Screener.Configuration.Strategy
import Screener.Database.Address
import Screener.Database.Catalogue
import Screener.Database.Encoding
import Screener.Database.Error
import Screener.Database.Image
import Screener.Database.Node
import Screener.Database.Number
import Screener.Database.Tree
import Screener.Database.Value
import Screener.Decimal.Binary
import Screener.Decimal.Layout
import Screener.Decimal.Reader
import Screener.Decimal.Shortest
import Screener.Failure
import Screener.File.Access
import Screener.File.Path
import Screener.File.SystemError
import Screener.File.Tree
import Screener.Formula.Basic
import Screener.Formula.Bindings
import Screener.Formula.Combine
import Screener.Formula.Error
import Screener.Formula.Lexeme
import Screener.Formula.Meaning
import Screener.Formula.Operator
import Screener.Formula.Postfix
import Screener.Formula.Reduce
import Screener.Formula.Session
import Screener.Formula.Token
import Screener.Frame
import Screener.Indicator.Average
import Screener.Indicator.Momentum
import Screener.Indicator.Registry
import Screener.Indicator.Rows
import Screener.Indicator.Spread
import Screener.Indicator.Standard
import Screener.Indicator.Summary
import Screener.Indicator.Volume
import Screener.KeyFile
import Screener.Main
import Screener.Market
import Screener.Proofs.Formula.Compilation
import Screener.Proofs.Formula.Grammar
import Screener.Proofs.Formula.Pending
import Screener.Proofs.Formula.Tree
import Screener.Proofs.Formula.Words
import Screener.Proofs.Formula.Written
import Screener.Quantity
import Screener.Records.Directory
import Screener.Records.File
import Screener.Records.History
import Screener.Records.Table
import Screener.Records.Writer
import Screener.Scan.Condition
import Screener.Scan.Report
import Screener.Scan.Service
import Screener.Series
import Screener.Strategy
import Screener.Text.Blank
import Screener.Text.Invisible
import Screener.Text.Pieces
import Screener.Text.Quoted
import Screener.Text.Upper
import Screener.Text.Upper.Table
import Screener.Tickers
import Screener.Timeframe
import Screener.Watchlist.Archive
import Screener.Watchlist.Basic
import Screener.Watchlist.Layout
import Screener.Watchlist.Tables
import Screener.Proofs.Formula.Memory
import Screener.Proofs.Formula.Acceptance
import Screener.Proofs.Formula.Agreement
import Screener.Proofs.Formula.Kinds
import Screener.Proofs.Indicator.Causal
import Screener.Proofs.Indicator.Loops
import Screener.Proofs.Indicator.Warmup
import Screener.Proofs.Indicator.Standard
import Screener.Proofs.Scan.Mask
import Screener.Proofs.Scan.Validation
import Screener.Proofs.Formula.FirstRows
import Screener.Proofs.Formula.Sessions
import Screener.Proofs.Scan.LookAhead
import Screener.Proofs.Formula.Dialogue
import Screener.Proofs.Formula.Isolation
import Screener.Proofs.Formula.Places
import Screener.Proofs.Formula.Replacement
import Screener.Proofs.Formula.Definitions
import Screener.Proofs.Formula.Substitution
import Screener.Proofs.Scan.FirstScan
import Screener.Proofs.Scan.SecondScan
import Screener.Proofs.Watchlist.Journal
import Screener.Proofs.Watchlist.Tables
import Screener.Proofs.Scan.Handoff
import Screener.Proofs.Formula.Registries
import Screener.Proofs.Formula.Missing
import Screener.Proofs.Scan.Missing
import Screener.Proofs.Scan.Phases
import Screener.Proofs.Configuration.Strategy
import Screener.Proofs.CommandLine.Outcome
import Screener.Proofs.CommandLine.Validation
import Screener.Proofs.Decimal.Reader
import Screener.Proofs.Decimal.Value
import Screener.Proofs.Configuration.Scan
import Screener.Proofs.Formula.Readings
import Screener.Proofs.Formula.Names
import Screener.Proofs.Scan.Declarations
import Screener.Proofs.Formula.Faults
import Screener.Proofs.Formula.Arity
import Screener.Proofs.Formula.Availability
import Screener.Proofs.Formula.Evaluable
import Screener.Proofs.Formula.Recall
import Screener.Proofs.Formula.Calls
import Screener.Proofs.Indicator.Positions
import Screener.Proofs.Indicator.Arguments
import Screener.Proofs.Indicator.Totality
import Screener.Proofs.Indicator.Exact
import Screener.Proofs.Indicator.WindowSums
import Screener.Proofs.Indicator.Guarded
import Screener.Proofs.Indicator.Ranges
import Screener.Proofs.Decimal.NonFinite
import Screener.Proofs.Indicator.Containment
import Screener.Proofs.Decimal.Order
import Screener.Proofs.Formula.Lags
import Screener.Proofs.Formula.Interchange
import Screener.Proofs.Formula.Contraries
import Screener.Proofs.Records.History
import Screener.Proofs.Configuration.Limits
import Screener.Proofs.Text.Pieces
import Screener.Proofs.Text.Upper
import Screener.Proofs.Text.Blank
import Screener.Proofs.Tickers.NormalForm
import Screener.Proofs.Text.Bytes
import Screener.Proofs.File.Path
import Screener.Proofs.File.Tree
import Screener.Proofs.Records.Naming
import Screener.Proofs.Configuration.Universe
import Screener.Proofs.Decimal.Layout
import Screener.Proofs.Decimal.Rounding
import Screener.Proofs.Decimal.Packed
import Screener.Proofs.Decimal.Scientific
import Screener.Proofs.Decimal.Shortest
import Screener.Proofs.Formula.Printed
import Screener.Proofs.Formula.Runs
import Screener.Proofs.Formula.Carets
import Screener.Proofs.Formula.Standing
import Screener.Proofs.Scan.Rearrangement
