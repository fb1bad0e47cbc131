import BidFleet.Main
import BidFleet.Pool.Timeline
import BidFleet.Proofs.Auction.Notice
import BidFleet.Proofs.Auction.Selection
import BidFleet.Proofs.Command.Departure
import BidFleet.Proofs.Command.Enrolment
import BidFleet.Proofs.Membership.Rejections
import BidFleet.Proofs.Membership.Removal
import BidFleet.Proofs.Pool.Conservation
import BidFleet.Proofs.Pool.Freshness
import BidFleet.Proofs.Pool.Leaving
import BidFleet.Proofs.Pool.Reference
import BidFleet.Proofs.Pool.Survival
import BidFleet.Proofs.Pool.Sweeping
import BidFleet.Proofs.Serving.Barrier
import BidFleet.Proofs.Serving.Containment
import BidFleet.Proofs.Serving.Correlation
import BidFleet.Proofs.Serving.Sampling
import BidFleet.Proofs.Serving.Targets
