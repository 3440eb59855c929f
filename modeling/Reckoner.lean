import Reckoner.Expression.Dismantling
import Reckoner.Main
import Reckoner.Proofs.Expression.Phrase
import Reckoner.Proofs.Outcome
import Reckoner.Proofs.Expression.Descent
import Reckoner.Proofs.Expression.Prospect
import Reckoner.Proofs.Expression.Diagnosis
import Reckoner.Proofs.Startup
import Reckoner.Proofs.Binary64.Rounding
import Reckoner.Proofs.Decimal.ReadBack
import Reckoner.Proofs.Expression.Scanning
import Reckoner.Proofs.Expression.Evaluation
import Reckoner.Proofs.Expression.Respelling
import Reckoner.Proofs.Counted
import Reckoner.Proofs.Expression.CallDepth
import Reckoner.Proofs.Expression.Finiteness
import Reckoner.Proofs.Http.Payload
import Reckoner.Proofs.Json.Numeral
import Reckoner.Proofs.Json.Text
import Reckoner.Proofs.Http.Evaluation
import Reckoner.Proofs.Http.CrossOrigin
import Reckoner.Proofs.Expression.Positions
import Reckoner.Proofs.CommandLine.Checking
import Reckoner.Proofs.Settings.Layers
import Reckoner.Proofs.Binary64.Exactness
import Reckoner.Proofs.Expression.Formula
import Reckoner.Proofs.Expression.Exactness
import Reckoner.Proofs.Http.Fields
import Reckoner.Proofs.Http.RequestId
import Reckoner.Proofs.Http.Origins
import Reckoner.Proofs.Expression.Postorder
import Reckoner.Proofs.Expression.Splitting
import Reckoner.Proofs.Expression.OpenDepth
import Reckoner.Proofs.Expression.Spacing
import Reckoner.Proofs.Expression.Sameness
import Reckoner.Proofs.Expression.Dismantling
import Reckoner.Proofs.Expression.Counters
import Reckoner.Proofs.Expression.Messages
import Reckoner.Proofs.Settings.Partial
import Reckoner.Proofs.Text.Utf8
