import PocketCalc.Main
import PocketCalc.Decimal.Shortest
import PocketCalc.Proofs.Decimal.Value
import PocketCalc.Proofs.Expression.FixedPoint
import PocketCalc.Proofs.Typing.Completion
import PocketCalc.Proofs.Typing.Negation
import PocketCalc.Proofs.Typing.Written
import PocketCalc.Proofs.Storage.Atomicity
import PocketCalc.Proofs.Calculator.Parentheses
import PocketCalc.Proofs.Calculator.Replay
import PocketCalc.Proofs.Calculator.Saving
import PocketCalc.Proofs.Panel.Purging
import PocketCalc.Proofs.Binary64.Interval
import PocketCalc.Proofs.Decimal.Shortest
import PocketCalc.Proofs.Expression.Postorder
import PocketCalc.Proofs.Expression.Reordering
import PocketCalc.Proofs.Typing.Restoration
import PocketCalc.Proofs.Expression.Printing
import PocketCalc.Proofs.Decimal.Form
import PocketCalc.Proofs.Decimal.Canonical
import PocketCalc.Proofs.Expression.Conservation
import PocketCalc.Proofs.Expression.Lexeme
import PocketCalc.Proofs.Expression.Checks
import PocketCalc.Proofs.Typing.Matching
import PocketCalc.Proofs.Expression.Restyling
import PocketCalc.Proofs.History.Numbering
import PocketCalc.Proofs.Journal.Showing
import PocketCalc.Proofs.Journal.Reading
import PocketCalc.Proofs.Journal.Pattern.Writing
import PocketCalc.Proofs.Session
