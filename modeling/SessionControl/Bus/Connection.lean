import SessionControl.Bus.Message

set_option autoImplicit false

/-! # Connections

A connection to the bus as its client sees it: calls are answered one by one by a peer with a state
of its own, signals wait in a queue until they are processed, and each processed signal goes to the
first subscription that accepts it. The peer is any function from its state and a call to a reply; a
script of replies is the simplest one. -/

namespace SessionControl.Bus

/-! ## Peers -/

/-- The other side of a connection, with states in `σ`. -/
structure Peer (σ : Type) where
  reply : σ → Call → Reply × σ

/-- A peer that gives the replies of a list in turn, whatever the calls are, and refuses every call
    once the list is used up. -/
def Peer.scripted (exhausted : Failure) : Peer (List Reply) where
  reply
    | [], _ => (⟨[], .refused exhausted, [], false⟩, [])
    | r :: rest, _ => (r, rest)

/-! ## Subscriptions -/

/-- A registered callback: what it listens to, what argument it expects, and the tag under which it
    reports. -/
structure Subscription where
  rule : MatchRule
  shape : Shape
  tag : String
  deriving DecidableEq, Repr

/-- One run of a callback. -/
structure Delivery where
  tag : String
  payload : Payload
  deriving DecidableEq, Repr

/-- What a signal makes happen: the first subscription that accepts it runs, if the signal's body
    fits, and no other does. -/
def dispatch (subscriptions : List Subscription) (s : Signal) : Option Delivery :=
  match subscriptions.find? fun sub => sub.rule.accepts s with
  | some sub => (sub.shape.read? s.body).map fun payload => ⟨sub.tag, payload⟩
  | none => none

/-! ## Arrivals -/

/-- What comes from the other side without having been asked for. -/
inductive Arrival
  /-- Signals come at once. -/
  | signals (batch : List Signal)
  /-- The other side closes the connection. -/
  | closing

/-! ## The connection -/

/-- Whether the connection is usable. -/
inductive Phase
  | active
  /-- The peer closes as soon as the waiting signals have been processed. -/
  | closing
  | closed
  deriving DecidableEq, Repr

/-- The client's end of a connection. -/
structure Connection (σ : Type) where
  peer : Peer σ
  state : σ
  phase : Phase := .active
  /-- Signals that have arrived and are not yet processed. -/
  inbox : List Signal := []
  /-- In the order of their registration. -/
  subscriptions : List Subscription := []

namespace Connection

variable {σ : Type}

/-- A fresh connection to a peer. -/
def fresh (peer : Peer σ) (state : σ) : Connection σ := { peer, state }

/-- Signals arrive. On a closed connection nothing does. -/
def receive (c : Connection σ) (signals : List Signal) : Connection σ :=
  if c.phase = .closed then c else { c with inbox := c.inbox ++ signals }

/-- Something comes. A connection that is closed stays so. -/
def arrive (c : Connection σ) : Arrival → Connection σ
  | .signals batch => c.receive batch
  | .closing => if c.phase = .closed then c else { c with phase := .closing }

/-- Adds a subscription behind all others. -/
def subscribe (c : Connection σ) (s : Subscription) : Connection σ :=
  { c with subscriptions := c.subscriptions ++ [s] }

/-- The result of an answer as the caller sees it, who had these signals waiting. -/
def outcome (waiting : List Signal) : Answer → Except Failure Body
  | .returned body => .ok body
  | .refused failure => .error failure
  | .silence => .error .noReply
  | .dropped => .error (if waiting = [] then .noReply else .cutOff)

/-- The phase that a reply leaves the connection in. -/
def phaseAfter (phase : Phase) (r : Reply) : Phase :=
  match r.answer with
  | .dropped => .closed
  | _ => if r.thenCloses then .closing else phase

/-- Makes a call on a connection that is not closed. -/
def exchange (c : Connection σ) (call : Call) : Except Failure Body × Connection σ :=
  let (r, state) := c.peer.reply c.state call
  let arrived :=
    match r.answer with
    | .dropped => r.before
    | _ => r.before ++ r.after
  (outcome (c.inbox ++ r.before) r.answer,
    { c with state, phase := phaseAfter c.phase r, inbox := c.inbox ++ arrived })

/-- Processes every waiting signal and returns the callbacks that ran, in order. -/
def process (c : Connection σ) : List Delivery × Connection σ :=
  (c.inbox.filterMap (dispatch c.subscriptions),
    { c with inbox := [], phase := if c.phase = .closing then .closed else c.phase })

end Connection
end SessionControl.Bus
