import PathQuery.Main
import PathQuery.Path.Same
import PathQuery.Uri.Check
import PathQuery.Scalar.Order
import PathQuery.Proofs.Select.Place
import PathQuery.Proofs.Select.Lenient
import PathQuery.Proofs.Select.Pointwise
import PathQuery.Proofs.Document.Descend
import PathQuery.Proofs.Document.Growth
import PathQuery.Proofs.Document.Copy
import PathQuery.Proofs.Document.Twin
import PathQuery.Proofs.Document.Isomorphic
import PathQuery.Proofs.Document.Build
import PathQuery.Proofs.Select.Twin
import PathQuery.Proofs.Select.Enlarged
import PathQuery.Proofs.Select.Slice
import PathQuery.Proofs.Select.Passage
import PathQuery.Proofs.Decimal.Monotone
import PathQuery.Proofs.Scalar.Order
import PathQuery.Proofs.Path.Guarded
import PathQuery.Proofs.Path.Forward
import PathQuery.Proofs.Path.Steady
import PathQuery.Proofs.Path.Total
import PathQuery.Proofs.Select.Meaning
import PathQuery.Proofs.Select.Turned
import PathQuery.Proofs.Path.Chain
import PathQuery.Proofs.Select.Scan
import PathQuery.Proofs.Select.Union
import PathQuery.Proofs.Select.Definite
import PathQuery.Proofs.Path.Positions
import PathQuery.Proofs.Path.Padding
import PathQuery.Proofs.Path.Pattern
import PathQuery.Proofs.Scalar.TimeSpan
import PathQuery.Proofs.Select.Way
