import ClusterBootstrap.Net.Status

/-!
# Exchanges over the network

A request meets a network.  If no connection can be made, nothing is sent.  Otherwise the request is
sent, and the next reply of the peer decides what comes back: nothing, or a status with a body that may
break off.  No reply has headers, so that none redirects the request.
-/

namespace ClusterBootstrap.Net

/-- The two ways of asking. -/
inductive Method where
  | get
  | post
  deriving DecidableEq, Repr

/-- The name of a method. -/
def Method.name : Method → String
  | get => "GET"
  | post => "POST"

/-- A request as the peer sees it. -/
structure Request where
  method : Method
  url : String
  contentType : Option String
  userAgent : String
  body : String
  deriving DecidableEq, Repr

/-- How the body of an answer ends. -/
inductive Completion where
  /-- All of it arrives. -/
  | whole
  /-- The connection closes before all announced bytes have come. -/
  | cutShort
  /-- The missing bytes never come. -/
  | stalled
  deriving DecidableEq, Repr

/-- What the peer does with a request.  A reply is the last word on it: an answer of an interim status,
below 200, goes before a reply and is none itself, and no reply sends the client elsewhere. -/
inductive Reply where
  /-- It closes the connection without an answer. -/
  | dropped
  /-- It never answers. -/
  | silent
  /-- It answers with a final status and a body, as they arrive: whatever was sent behind a status that has
  no content (204, 304), its body arrives empty. -/
  | answered (status : Status) (body : List UInt8) (completion : Completion)
  deriving DecidableEq, Repr

/-- The network around a client: whether connections can be made, the replies that the peer has in
store, and the requests that it has received. -/
structure Network where
  /-- Why no connection can be made, if so. -/
  obstacle : Option String := none
  replies : List Reply := []
  requests : List Request := []
  deriving DecidableEq, Repr

/-- What came of a request. -/
inductive Exchange where
  /-- No connection was made. -/
  | notConnected (reason : String)
  /-- The request was sent, and this was the reply. -/
  | sent (reply : Reply)
  deriving DecidableEq, Repr

namespace Network

/-- A network with a peer that has these replies in store. -/
def ofReplies (replies : List Reply) : Network := { replies }

/-- A network in which no connection can be made. -/
def cutOff (reason : String) : Network := { obstacle := some reason }

/-- Sends a request.  A peer without a further reply closes the connection. -/
def exchange (request : Request) (network : Network) : Exchange × Network :=
  match network.obstacle with
  | some reason => (.notConnected reason, network)
  | none =>
    let received := network.requests ++ [request]
    match network.replies with
    | [] => (.sent .dropped, { network with requests := received })
    | reply :: rest => (.sent reply, { network with replies := rest, requests := received })

end Network

end ClusterBootstrap.Net
