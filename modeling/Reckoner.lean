import Reckoner.Main
import Reckoner.Proofs.Expr.Notation
import Reckoner.Proofs.Expr.PrintOrder
import Reckoner.Proofs.Expr.SignedTerms
import Reckoner.Proofs.Expr.Sweep
import Reckoner.Proofs.Expr.TermTexts
import Reckoner.Proofs.Marks
import Reckoner.Proofs.Munch
import Reckoner.Proofs.Options
import Reckoner.Proofs.Output
import Reckoner.Proofs.Report
import Reckoner.Proofs.Spacing
import Reckoner.Proofs.Template
