import UriRouting.Proofs.Command.Building
import UriRouting.Proofs.Command.Listing
import UriRouting.Proofs.Percent.Decoding
import UriRouting.Proofs.Percent.Shrinking
import UriRouting.Proofs.Query.Overlay
import UriRouting.Proofs.Route.Captures
import UriRouting.Proofs.Route.Named
import UriRouting.Proofs.Route.Rebuilding
import UriRouting.Proofs.Route.Segmentwise
import UriRouting.Proofs.Router.Delivery
import UriRouting.Proofs.Router.Indifference
import UriRouting.Proofs.Router.Resolution
import UriRouting.Proofs.Router.StrictRuns
import UriRouting.Proofs.Strict.Conformance
