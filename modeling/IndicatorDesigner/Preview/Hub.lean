import IndicatorDesigner.Log.Logger

/-! The clients of the live preview: which are connected, and what has been delivered to them. -/
namespace IndicatorDesigner

/-- A client, with how often it was accepted and how many messages reached it. -/
structure Client where
  id : String
  connected : Bool
  accepted : Nat
  delivered : Nat
  deriving DecidableEq, Repr

/-- All clients ever seen. -/
abbrev Hub := List Client

namespace Hub

/-- A client; one never seen has not done anything. -/
def client (h : Hub) (id : String) : Client :=
  (h.find? fun c => c.id == id).getD ⟨id, false, 0, 0⟩

def put (h : Hub) (client : Client) : Hub :=
  if h.any fun c => c.id == client.id then h.map fun c => if c.id == client.id then client else c
  else h ++ [client]

def connected (h : Hub) : List String := (h.filter Client.connected).map Client.id

def count (h : Hub) : Nat := h.connected.length

/-- Accepts a client. A client that is already connected is accepted once more. -/
def connect (h : Hub) (id : String) : Hub :=
  let c := h.client id
  h.put { c with connected := true, accepted := c.accepted + 1 }

def disconnect (h : Hub) (id : String) : Hub := h.put { h.client id with connected := false }

def deliver (h : Hub) (id : String) : Hub :=
  let c := h.client id
  h.put { c with delivered := c.delivered + 1 }

def connectEntry (h : Hub) : Log.Entry := .info s!"[WebSocket] Client connected. Total: {h.count}"

def disconnectEntry (h : Hub) : Log.Entry :=
  .info s!"[WebSocket] Client disconnected. Total: {h.count}"

def sendFailedEntry (message : String) : Log.Entry :=
  .warning ("[WebSocket] Error sending to client: " ++ message)

/-- Sends a message, unless sending fails. A failure is only logged. -/
def send (h : Hub) (id : String) (failure : Option String) : Bool × Hub × List Log.Entry :=
  match failure with
  | none => (true, h.deliver id, [])
  | some message => (false, h, [sendFailedEntry message])

end Hub
end IndicatorDesigner
