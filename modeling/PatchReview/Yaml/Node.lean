import PatchReview.Yaml.Implicit
import PatchReview.Yaml.Token

/-!
# Nodes of YAML documents

A document is a graph of nodes. Nodes have numbers, and a collection holds the numbers of its items,
so that an alias is nothing but the number of the node that it stands for.
-/

namespace PatchReview
namespace Yaml

/-- What a node holds. -/
inductive Content where
  | scalar (text : String)
  | sequence (items : List Nat)
  | mapping (entries : List (Nat × Nat))
  deriving DecidableEq, Repr

/-- A node with its tag. -/
structure Node where
  tag : Tag
  content : Content
  deriving DecidableEq, Repr

abbrev Graph := Array Node

namespace Graph

/-- The node of a number; numbers without a node stand for an empty text. -/
def node (g : Graph) (id : Nat) : Node := (g[id]?).getD ⟨.unknown, .scalar ""⟩

def setContent (g : Graph) (id : Nat) (content : Content) : Graph :=
  g.modify id fun n => { n with content }

def setTag (g : Graph) (id : Nat) (tag : Tag) : Graph := g.modify id fun n => { n with tag }

def entries? (g : Graph) (id : Nat) : Option (List (Nat × Nat)) :=
  match (g.node id).content with
  | .mapping entries => some entries
  | _ => none

end Graph

/-- A document: its nodes and the number of the outermost one. -/
structure Document where
  graph : Graph
  root : Nat

end Yaml
end PatchReview
