/-!
What can go wrong while bids are answered and the pool is kept. Every error has
one line of text, which begins with the part of the program that refused.
-/

namespace BidFleet

inductive Error where
  | transport (detail : String)
  | malformedJson (detail : String)
  | invalidRequest (detail : String)
  | malformedBid (detail : String)
  | selection (detail : String)
  | invalidThrottle (percent : UInt8)
  | storeUnavailable (detail : String)
  | malformedStoreReply (detail : String)
  | nodeTerminated (detail : String)
  | file (detail : String)
  deriving DecidableEq, Repr

namespace Error

def message : Error → String
  | transport detail => "Transport error: " ++ detail
  | malformedJson detail => "JSON serialization error: " ++ detail
  | invalidRequest detail => "Invalid request: " ++ detail
  | malformedBid detail => "Malformed bid request: " ++ detail
  | selection detail => "Campaign selection failed: " ++ detail
  | invalidThrottle percent =>
    "Throttle percentage must be within 0..=100, got " ++ toString percent.toNat
  | storeUnavailable detail => "Membership store unavailable: " ++ detail
  | malformedStoreReply detail => "Malformed membership store response: " ++ detail
  | nodeTerminated detail => "Pool node terminated: " ++ detail
  | file detail => "IO error: " ++ detail

/-- The error from outside the program that an error passes on, if it does. -/
def cause? : Error → Option String
  | malformedJson detail | file detail => some detail
  | _ => none

end Error

end BidFleet
