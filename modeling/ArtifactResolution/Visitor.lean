import ArtifactResolution.ArtifactSet
import ArtifactResolution.Graph

namespace ArtifactResolution
set_option autoImplicit false

inductive CollectorError where
  | alreadyStarted
  | notStarted
  | unsortedNode (id : NodeId)
  | graph (e : GraphError)
deriving DecidableEq

def CollectorError.message : CollectorError → String
  | alreadyStarted => "artifact collection already started"
  | notStarted => "artifact collection has not been started"
  | unsortedNode id => s!"node {id} is not part of the sorted node order"
  | graph e => e.message

/-- What a visitor is told while a graph is walked from a root: the set of a node that an edge
leads to, or the set of files that a node declares. -/
inductive Callback where
  | start (graph : Graph) (root : NodeId)
  | visitNode (source target : Node) (set : ArtifactSet)
  | visitFile (source : Node) (dependency : FileDependency) (set : ArtifactSet)
  | finish

abbrev Answer := Except CollectorError Unit

/-- A visitor answers each callback and goes on in a new state, also after a refusal. -/
class Visitor (σ : Type) where
  receive : σ → Callback → σ × Answer

namespace Visitor
variable {σ τ : Type} [Visitor σ] [Visitor τ]

/-- The final state and the answers after a sequence of callbacks. -/
def run (v : σ) : List Callback → σ × List Answer
  | [] => (v, [])
  | c :: cs =>
    let (v', answer) := receive v c
    let (last, answers) := run v' cs
    (last, answer :: answers)

instance : Visitor (σ ⊕ τ) where
  receive
    | .inl v, c => (receive v c).map .inl id
    | .inr v, c => (receive v c).map .inr id

/-- Tells visitors in turn; those behind one that refuses are left as they are. -/
def receiveAll : List σ → Callback → List σ × Answer
  | [], _ => ([], .ok ())
  | v :: vs, c =>
    match receive v c with
    | (v', .ok ()) => (receiveAll vs c).map (v' :: ·) id
    | (v', .error e) => (v' :: vs, .error e)

instance : Visitor (List σ) := ⟨receiveAll⟩

end Visitor

/-- Visitors that are told together, in groups of any depth. -/
inductive Fanout (σ : Type) where
  | visitor (v : σ)
  | members (ms : List (Fanout σ))

namespace Fanout
variable {σ : Type}

mutual

def leaves : Fanout σ → List σ
  | visitor v => [v]
  | members ms => leavesAll ms

def leavesAll : List (Fanout σ) → List σ
  | [] => []
  | m :: ms => leaves m ++ leavesAll ms

end

variable [Visitor σ]

mutual

/-- Tells the members of each group in turn until one refuses. -/
def receive : Fanout σ → Callback → Fanout σ × Answer
  | visitor v, c => (Visitor.receive v c).map visitor id
  | members ms, c => (receiveAll ms c).map members id

def receiveAll : List (Fanout σ) → Callback → List (Fanout σ) × Answer
  | [], _ => ([], .ok ())
  | m :: ms, c =>
    match receive m c with
    | (m', .ok ()) => (receiveAll ms c).map (m' :: ·) id
    | (m', .error e) => (m' :: ms, .error e)

end

instance : Visitor (Fanout σ) := ⟨receive⟩

end Fanout

end ArtifactResolution
