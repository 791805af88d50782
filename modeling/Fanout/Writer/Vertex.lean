import Fanout.Writer.Basic

/-!
# Vertices

During a superstep a vertex either reads its outgoing edges or messages every neighbour along them,
but not both: the edges are handed out once. Messages to single vertices need no edges.
-/

namespace Fanout

/-- An outgoing edge of a vertex. -/
structure Edge (κ ν : Type) where
  target : κ
  value : ν
  deriving DecidableEq

/-- An edge that carries no value. -/
def Edge.to {κ : Type} (target : κ) : Edge κ Unit := ⟨target, ()⟩

/-- A vertex at work in one superstep. -/
structure MessagingContext (σ κ ν : Type) where
  writer : Writer σ
  superstep : Option Superstep
  /-- The outgoing edges, until they are used. -/
  edges : Option (List (Edge κ ν))

namespace MessagingContext

variable {σ κ ν : Type} {k m : Schema}

def start (writer : Writer σ) (superstep : Option Superstep) (edges : List (Edge κ ν)) :
    MessagingContext σ κ ν :=
  ⟨writer, superstep, some edges⟩

def edgesUsed (v : MessagingContext σ κ ν) : Bool := v.edges.isNone

/-- Sends a message to one vertex. -/
def send [ChannelSelector σ (Schema.message k m).Value] (v : MessagingContext σ k.Value ν)
    (target : k.Value) (payload : m.Value) :
    Except WriterError Unit × MessagingContext σ k.Value ν :=
  let (r, writer) := v.writer.emit (.message k m) (⟨target, payload⟩ : Message k.Value m.Value)
    v.superstep
  (r, { v with writer := writer })

def takeEdges (v : MessagingContext σ κ ν) :
    Except WriterError (List (Edge κ ν)) × MessagingContext σ κ ν :=
  match v.edges with
  | none => (.error .edgesAlreadyUsed, v)
  | some edges => (.ok edges, { v with edges := none })

/-- Sends a message along each of some edges, up to the first failure. -/
def sendEach [ChannelSelector σ (Schema.message k m).Value] (v : MessagingContext σ k.Value ν)
    (payload : m.Value) :
    List (Edge k.Value ν) → Except WriterError Unit × MessagingContext σ k.Value ν
  | [] => (.ok (), v)
  | edge :: rest =>
    match v.send edge.target payload with
    | (.error e, v) => (.error e, v)
    | (.ok (), v) => v.sendEach payload rest

/-- Sends a message along every edge, which uses the edges: how many there were. -/
def sendAll [ChannelSelector σ (Schema.message k m).Value] (v : MessagingContext σ k.Value ν)
    (payload : m.Value) : Except WriterError Nat × MessagingContext σ k.Value ν :=
  match v.takeEdges with
  | (.error e, v) => (.error e, v)
  | (.ok edges, v) =>
    match v.sendEach payload edges with
    | (.error e, v) => (.error e, v)
    | (.ok (), v) => (.ok edges.length, v)

end MessagingContext

/-- A vertex whose edges carry no values. -/
abbrev Vertex (σ κ : Type) := MessagingContext σ κ Unit

namespace Vertex

variable {σ κ : Type}

def start (writer : Writer σ) (superstep : Option Superstep) (targets : List κ) : Vertex σ κ :=
  MessagingContext.start writer superstep (targets.map Edge.to)

/-- Takes the edges, which are no more than their targets. -/
def takeEdges (v : Vertex σ κ) : Except WriterError (List κ) × Vertex σ κ :=
  let (edges, v) := MessagingContext.takeEdges v
  (edges.map (·.map Edge.target), v)

end Vertex

end Fanout
