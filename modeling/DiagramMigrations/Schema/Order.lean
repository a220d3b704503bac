import DiagramMigrations.Failure
import DiagramMigrations.Schema.Basic

/-!
The order in which tables are created: a table comes after every other table that it refers to. Of
the tables that are ready, the first on the diagram is placed next, and each placement is counted
off for the tables that waited for it. Tables that wait for each other are never ready.
-/

set_option autoImplicit false
set_option relaxedAutoImplicit false

namespace DiagramMigrations.Order

/-- An edge from a referenced table to a referencing one, by position. -/
abbrev Edge := Nat × Nat

/-- The last position of a table id. -/
def position? (tables : List Table) (id : String) : Option Nat :=
  (tables.zipIdx.reverse.find? fun entry ↦ entry.1.id = id).map Prod.snd

/-- The edge of an association between two tables of the list, unless they are the same. -/
def edge? (tables : List Table) (a : Association) : Option Edge := do
  let source ← position? tables a.referencedTable
  let target ← position? tables a.referencingTable
  if source = target then none else some (source, target)

/-- The edges of the associations, each once, in the order of their first occurrence. -/
def edges (tables : List Table) (associations : List Association) : List Edge :=
  (associations.filterMap (edge? tables)).foldl
    (fun kept e ↦ if e ∈ kept then kept else kept ++ [e]) []

/-- The targets of the edges that leave a position. -/
def successors (es : List Edge) (node : Nat) : List Nat :=
  (es.filter fun e ↦ e.1 = node).map Prod.snd

/-- The number of edges that enter a position. -/
def inDegree (es : List Edge) (node : Nat) : Nat :=
  (es.filter fun e ↦ e.2 = node).length

/-- The state of the placement: for each position the number of tables it still waits for, the
positions that wait for none in ascending order, and those that have been placed. -/
structure Sweep where
  waiting : List Nat
  ready : List Nat
  placed : List Nat
  deriving DecidableEq, Repr

namespace Sweep

/-- Before the first placement. -/
def start (n : Nat) (es : List Edge) : Sweep where
  waiting := (List.range n).map (inDegree es)
  ready := (List.range n).filter fun i ↦ inDegree es i = 0
  placed := []

/-- Puts a position into an ascending list that does not hold it. -/
def insertReady (node : Nat) : List Nat → List Nat
  | [] => [node]
  | m :: rest =>
    if node < m then node :: m :: rest
    else if node = m then m :: rest
    else m :: insertReady node rest

/-- Counts off one of the tables that a position waits for. -/
def release (s : Sweep) (node : Nat) : Sweep :=
  let left := s.waiting.getD node 0 - 1
  { s with
    waiting := s.waiting.set node left
    ready := if left = 0 then insertReady node s.ready else s.ready }

/-- Places the first ready position, if there is one. -/
def round (es : List Edge) (s : Sweep) : Sweep :=
  match s.ready with
  | [] => s
  | node :: rest =>
    (successors es node).foldl release { s with ready := rest, placed := s.placed ++ [node] }

/-- A number of rounds. -/
def rounds (es : List Edge) : Nat → Sweep → Sweep
  | 0, s => s
  | k + 1, s => rounds es k (s.round es)

end Sweep

/-- The positions that can be placed, in order; there are as many rounds as tables. -/
def placement (tables : List Table) (associations : List Association) : List Nat :=
  let es := edges tables associations
  (Sweep.rounds es tables.length (.start tables.length es)).placed

end DiagramMigrations.Order

namespace DiagramMigrations

/-- The order of creation, by position; or the names of the tables that have none. -/
def dependencyOrder (tables : List Table) (associations : List Association) :
    Except Failure (List Nat) :=
  let placed := Order.placement tables associations
  if placed.length < tables.length then
    let blocked := tables.zipIdx.filter fun entry ↦ entry.2 ∉ placed
    .error (.dependencyCycle (blocked.map fun entry ↦ entry.1.name))
  else .ok placed

end DiagramMigrations
