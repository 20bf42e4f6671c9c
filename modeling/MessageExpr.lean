import MessageExpr.Main
import MessageExpr.Proofs.Cache.Recency
import MessageExpr.Proofs.Code.Truth
import MessageExpr.Proofs.Compile.Chained
import MessageExpr.Proofs.Compile.Late
import MessageExpr.Proofs.Condition.Faults
import MessageExpr.Proofs.Condition.InOrder
import MessageExpr.Proofs.Condition.Pruned
import MessageExpr.Proofs.Condition.Signed
import MessageExpr.Proofs.Condition.Spacing
import MessageExpr.Proofs.Cursor.Matching
import MessageExpr.Proofs.Cursor.Tiling
import MessageExpr.Proofs.Exchange.Arranged
import MessageExpr.Proofs.Exchange.Stored
import MessageExpr.Proofs.Expr.Entails
import MessageExpr.Proofs.Language.Agreement
import MessageExpr.Proofs.Language.Escaped
import MessageExpr.Proofs.Language.Joined
import MessageExpr.Proofs.Language.Juxtaposed
import MessageExpr.Proofs.Language.Kept
import MessageExpr.Proofs.Language.Names
import MessageExpr.Proofs.Language.Positions
import MessageExpr.Proofs.Library.Whole
import MessageExpr.Proofs.Node.Complete
import MessageExpr.Proofs.Node.Flattened
import MessageExpr.Proofs.Node.Grouped
import MessageExpr.Proofs.Template.Errors
import MessageExpr.Proofs.Template.InOrder
import MessageExpr.Proofs.Value.Exact
import MessageExpr.Proofs.Value.Order
import MessageExpr.Proofs.Value.Shift
