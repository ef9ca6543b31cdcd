/-!
Depth-first search in a directed graph whose vertices are numbers. The search tells which vertices
it has come to and in which order it was done with them.
-/

namespace LightingDesk.Graph

/-- `visited` holds the vertices the search has come to, `finished` those whose successors are all
dealt with, in that order. -/
structure Search where
  visited : List Nat
  finished : List Nat
deriving DecidableEq, Repr

namespace Search

def start : Search := ⟨[], []⟩

/-- Visits vertices in order, each with everything that is reached from it first. The first number
bounds how deep the search goes; as many levels as there are vertices are enough. -/
def visit (successors : Nat → List Nat) : Nat → List Nat → Search → Search
  | 0, _, search => search
  | _ + 1, [], search => search
  | depth + 1, vertex :: rest, search =>
      if search.visited.contains vertex then visit successors (depth + 1) rest search
      else
        let inner := visit successors depth (successors vertex)
          { search with visited := vertex :: search.visited }
        visit successors (depth + 1) rest
          { inner with finished := inner.finished ++ [vertex] }
termination_by depth vertices => (depth, vertices.length)

end Search

/-- Directed edges in the order in which they were added, among the vertices below `size`. -/
structure Digraph where
  size : Nat
  edges : List (Nat × Nat)
deriving DecidableEq, Repr

namespace Digraph

def addEdge (graph : Digraph) (source target : Nat) : Digraph :=
  { graph with edges := graph.edges ++ [(source, target)] }

/-- The ends of the edges that leave a vertex, the edge that was added last first. -/
def successors (graph : Digraph) (vertex : Nat) : List Nat :=
  ((graph.edges.filter fun edge => edge.1 == vertex).map Prod.snd).reverse

def hasEdge (graph : Digraph) (source target : Nat) : Bool := graph.edges.contains (source, target)

/-- The vertices that paths from a vertex lead to, and the vertex itself. -/
def reached (graph : Digraph) (vertex : Nat) : List Nat :=
  (Search.visit graph.successors (graph.size + 1) [vertex] .start).visited

/-- All vertices, in the order in which a search from each in turn is done with them. -/
def finishing (graph : Digraph) : List Nat :=
  (Search.visit graph.successors (graph.size + 1) (List.range graph.size) .start).finished

/-- The vertices that can be reached from a vertex and from which it can be reached. -/
def component (graph : Digraph) (vertex : Nat) : List Nat :=
  (List.range graph.size).filter fun other =>
    (graph.reached vertex).contains other && (graph.reached other).contains vertex

/-- Every strongly connected component once, in the order in which a search is done with the last
of its vertices. -/
def components (graph : Digraph) : List (List Nat) :=
  collect graph.finishing
where
  collect : List Nat → List (List Nat)
    | [] => []
    | vertex :: later =>
        if (graph.component vertex).any later.contains then collect later
        else graph.component vertex :: collect later

/-- Whether the vertices of a component can be left and come to again. -/
def isLoop (graph : Digraph) (component : List Nat) : Bool :=
  match component with
  | [] => false
  | [vertex] => graph.hasEdge vertex vertex
  | _ => true

end Digraph

end LightingDesk.Graph
