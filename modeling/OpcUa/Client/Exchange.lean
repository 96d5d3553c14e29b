import OpcUa.Service.Message

/-!
# Exchanges

A request that was sent opens an exchange, which ends with the reply. The client may stop waiting
before that; a reply that comes later is dropped.
-/

namespace OpcUa

/-- Exchanges are numbered in the order in which they were opened. -/
abbrev ExchangeId := Nat

/-- What the server sent back, or the failure of the transport. -/
abbrev Reply := Except Error Response

/-- A request on its way to the server. -/
structure Posted where
  exchange : ExchangeId
  request : Request

structure Exchanges where
  /-- The exchanges that somebody waits for, with the reply if it is there. -/
  pending : List (ExchangeId × Option Reply)
  next : ExchangeId

namespace Exchanges

def empty : Exchanges := ⟨[], 0⟩

instance : Inhabited Exchanges := ⟨empty⟩

/-- Opens an exchange. -/
def start (x : Exchanges) : ExchangeId × Exchanges :=
  (x.next, ⟨x.pending ++ [(x.next, none)], x.next + 1⟩)

def reply? (x : Exchanges) (id : ExchangeId) : Option Reply := (x.pending.lookup id).join

/-- Whether somebody waits for the reply. -/
def isOpen (id : ExchangeId) (x : Exchanges) : Bool := x.pending.any (·.1 == id)

/-- The reply to an exchange has come. -/
def deliver (id : ExchangeId) (reply : Reply) (x : Exchanges) : Exchanges :=
  { x with pending := x.pending.map fun p => if p.1 = id then (id, some reply) else p }

/-- Nobody waits for the exchange any more. -/
def forget (id : ExchangeId) (x : Exchanges) : Exchanges :=
  { x with pending := x.pending.filter (·.1 != id) }

end Exchanges

end OpcUa
