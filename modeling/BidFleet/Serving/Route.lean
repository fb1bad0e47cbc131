import BidFleet.Auction.WinNotice

/-!
Routes. The path of a target, which ends at the first `?`, decides what a
request is for. Pages and scripts are recognised by a word anywhere in the path,
then come win notices, the knobs and the bids. Whatever is left has no route.
-/

namespace BidFleet.Serving

inductive Route where
  | favicon
  | simulator
  /-- A script, by its path below the web root. -/
  | webAsset (path : String)
  | win (notice : Auction.WinNotice)
  | status
  | pool
  /-- The throttle value as it stands in the path. -/
  | throttle (value : String)
  | stop
  | start
  | bid (exchange : String)
  | wrongTarget

namespace Route

def faviconWord : List Char := "favicon".toList

def simulatorWord : List Char := "/xrtb/simulator/exchange".toList

def webWord : List Char := "web/".toList

def throttleRoot : List Char := "/rtb/admin/throttle/".toList

def bidRoot : List Char := "/rtb/bids/".toList

/-- The exchange of a bid path: one segment, whatever slashes follow it. -/
def exchange? (path : List Char) : Option (List Char) :=
  match Text.stripStart? bidRoot path with
  | some rest =>
    let exchange := Text.trimEnd '/' rest
    if exchange.isEmpty || exchange.contains '/' then none else some exchange
  | none => none

/-- The routes behind those of pages and win notices. -/
def ofPath (method : String) (path : List Char) : Route :=
  if path = "/rtb/status".toList ∧ method = "GET" then status
  else if path = "/rtb/pool".toList ∧ method = "GET" then pool
  else if path = "/rtb/admin/stop".toList then stop
  else if path = "/rtb/admin/start".toList then start
  else
    match Text.stripStart? throttleRoot path with
    | some value => throttle (String.ofList (Text.trimEnd '/' value))
    | none =>
      match exchange? path with
      | some exchange => bid (String.ofList exchange)
      | none => wrongTarget

def classify (method : String) (target : List Char) : Route :=
  let path := Text.before '?' target
  if Text.occurs faviconWord path then favicon
  else if Text.occurs simulatorWord path then simulator
  else
    match Text.afterWord? webWord path with
    | some rest => webAsset (String.ofList rest)
    | none =>
      match Auction.WinNotice.ofTarget? path with
      | some notice => win notice
      | none => ofPath method path

end Route

end BidFleet.Serving
