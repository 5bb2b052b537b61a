import Calculator.Expr.Draft
import Calculator.Formula
import Calculator.Main
import Calculator.Number.Reading
import Calculator.Service
import Calculator.Token.Spelling
import Calculator.CommandLine.Run
import Calculator.Proofs.CommandLine.Agreement
import Calculator.Proofs.CommandLine.Arguments
import Calculator.Proofs.CommandLine.Dialogue
import Calculator.Proofs.Expr.Drafts
import Calculator.Proofs.Expr.Faults
import Calculator.Proofs.Expr.Scans
import Calculator.Proofs.Expr.Splitting
import Calculator.Proofs.Expression.Account
import Calculator.Proofs.Expression.Agreement
import Calculator.Proofs.Expression.Canonical
import Calculator.Proofs.Expression.Evaluation
import Calculator.Proofs.Expression.Groups
import Calculator.Proofs.Expression.NormalForm
import Calculator.Proofs.Expression.Rendering
import Calculator.Proofs.Expression.Reports
import Calculator.Proofs.Expression.Steps
import Calculator.Proofs.Expression.Values
import Calculator.Proofs.Grammar.Groups
import Calculator.Proofs.Grammar.Meaning
import Calculator.Proofs.Grammar.Progress
import Calculator.Proofs.Grammar.Shape
import Calculator.Proofs.Number.Brief
import Calculator.Proofs.Number.Display
import Calculator.Proofs.Number.Division
import Calculator.Proofs.Number.Figures
import Calculator.Proofs.Number.Negation
import Calculator.Proofs.Number.Rounding
import Calculator.Proofs.Number.Shortest
import Calculator.Proofs.Result
import Calculator.Proofs.Rules.Acceptance
import Calculator.Proofs.Rules.Diagnosis
import Calculator.Proofs.Rules.Reports
import Calculator.Proofs.Rules.Stability
import Calculator.Proofs.Rules.Violations
import Calculator.Proofs.Service.Endpoints
import Calculator.Proofs.Text.Quotation
import Calculator.Proofs.Text.Words
import Calculator.Proofs.Token.Composition
import Calculator.Proofs.Token.Cutting
import Calculator.Proofs.Token.Lexing
import Calculator.Proofs.Token.Merging
import Calculator.Proofs.Token.Pieces
import Calculator.Proofs.Token.Places
import Calculator.Proofs.Token.Reading
import Calculator.Proofs.Token.Recognition
import Calculator.Proofs.Token.Runs
import Calculator.Proofs.Token.Spacing
import Calculator.Proofs.Token.Texts
