/-!
# Breadth-first search

`explore` walks a graph level by level from a frontier of vertices.  Every vertex carries a tag,
which it passes on to the vertices found through it; a vertex is listed once, with the tag of the
first way that leads to it.  Each round that finds anything finds a new vertex, so a graph of `n`
vertices is searched completely in `n` rounds.
-/

namespace SyntaxForge

/-- Keeps the first element of each key, and none whose key is already `seen`. -/
def keepFirst {α : Type} (key : α → String) (seen : List String) : List α → List α
  | [] => []
  | a :: rest =>
    if key a ∈ seen then keepFirst key seen rest else a :: keepFirst key (key a :: seen) rest

/-- The vertices found from a frontier in at most `rounds` levels, nearest first. -/
def explore {τ : Type} (next : String → List String) :
    (rounds : Nat) → (frontier : List (String × τ)) → (seen : List String) → List (String × τ)
  | 0, _, _ => []
  | rounds + 1, frontier, seen =>
    let fresh := keepFirst Prod.fst seen frontier
    fresh ++ explore next rounds
      (fresh.flatMap fun (vertex, tag) => (next vertex).map fun found => (found, tag))
      (fresh.map Prod.fst ++ seen)

end SyntaxForge
