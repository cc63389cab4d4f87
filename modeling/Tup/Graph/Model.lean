import Tup.Db

/-! `tup graph`: graph_cb and the worklist loop of graph(), over the parts of
`struct graph` they touch. graph.c is not among the sources; its helpers are written
from their use here. -/
namespace Tup

structure Node where
  tent : TupEntry
  expanded : Bool
  deriving DecidableEq, Repr

structure Graph where
  tree : List Node
  nodeList : List TupEntry
  plist : List TupEntry
  edges : List (Int × Int)
  cur : Option TupEntry
  deriving Repr

def Graph.tents (g : Graph) : List TupEntry := g.tree.map Node.tent

def Graph.ids (g : Graph) : List Int := g.tents.map TupEntry.tupid

def createGraph (cur : Option TupEntry) : Graph := ⟨[], [], [], [], cur⟩

def findNode (g : Graph) (tupid : Int) : Option Node :=
  g.tree.find? fun n => n.tent.tupid == tupid

def createNode (g : Graph) (tent : TupEntry) : Graph × Node :=
  ({ g with tree := g.tree ++ [⟨tent, false⟩], nodeList := g.nodeList ++ [tent] },
    ⟨tent, false⟩)

def expandNode (g : Graph) (n : Node) : Graph :=
  { g with
    tree := g.tree.map fun m =>
      if m.tent.tupid = n.tent.tupid then { m with expanded := true } else m
    nodeList := g.nodeList.erase n.tent
    plist := n.tent :: g.plist }

def createEdge (g : Graph) (a b : TupEntry) : Graph :=
  { g with edges := g.edges ++ [(a.tupid, b.tupid)] }

def edgeFromCur (g : Graph) (tent : TupEntry) : Graph :=
  match g.cur with
  | some c => createEdge g c tent
  | none => g

structure GraphOptions where
  showDirs : Bool
  showGhosts : Bool
  showEnv : Bool
  combine : Bool
  deriving DecidableEq, Repr

/-- The three `return 0`s at the top of graph_cb: whether it goes on with `tent`. -/
def graphCbAdmits (db : Db) (o : GraphOptions) (cur : Option TupEntry)
    (tent : TupEntry) : Bool :=
  !(!o.showGhosts && tent.type == .ghost) &&
  !(!o.showEnv && (tent.tupid == db.envDt || tent.dt == db.envDt)) &&
  !(!o.showDirs && cur.isSome && (tent.type == .dir || tent.type == .generatedDir))

def graphCbNode (g : Graph) (tent : TupEntry) : Graph :=
  let (g, n) := match findNode g tent.tupid with
    | some n => (g, n)
    | none => createNode g tent
  let g := if n.expanded then g else expandNode g n
  edgeFromCur g n.tent

def graphCb (db : Db) (o : GraphOptions) (g : Graph) (tent : TupEntry) : Graph :=
  if graphCbAdmits db o g.cur tent then graphCbNode g tent else g

/-- Modelled from the spec: build_graph_group_cb, which adds "edges to each producing
command" of a group; graph_cb's body without its filter. -/
def buildGraphGroupCb (g : Graph) (tent : TupEntry) : Graph := graphCbNode g tent

def addTarget (g : Graph) (tent : TupEntry) : Graph :=
  match findNode g tent.tupid with
  | some _ => g
  | none => expandNode (createNode g tent).1 (createNode g tent).2

def graphStep (db : Db) (o : GraphOptions) (g : Graph) (cur : TupEntry) : Graph :=
  let g := (db.selectNodeByLink cur.tupid).foldl (graphCb db o) { g with cur := some cur }
  let g := if cur.type = .group then
      (db.selectNodeByDistinctGroupLink cur.tupid).foldl buildGraphGroupCb g
    else g
  let g := { g with plist := g.plist.erase cur, nodeList := cur :: g.nodeList }
  if cur.name ≠ tupConfig then
    (db.selectNodeDir cur.tupid).foldl (graphCb db o) { g with cur := none }
  else g

/-- `while(!TAILQ_EMPTY(&g.plist))` for at most `fuel` rounds. -/
def graphLoop (db : Db) (o : GraphOptions) : Nat → Graph → Graph
  | 0, g => g
  | fuel + 1, g =>
    match g.plist with
    | [] => g
    | cur :: _ => graphLoop db o fuel (graphStep db o g cur)

structure GraphArgs where
  opts : GraphOptions
  stickies : Bool
  pruned : Option Nat
  defaultGraph : Bool
  deriving DecidableEq, Repr

def graphArgs (db : Db) : Nat → List String → GraphArgs × Graph →
    Except String (GraphArgs × Graph)
  | _, [], s => .ok s
  | x, arg :: rest, (a, g) =>
    if arg = "--dirs" then
      graphArgs db (x + 1) rest ({ a with opts := { a.opts with showDirs := true } }, g)
    else if arg = "--ghosts" then
      graphArgs db (x + 1) rest ({ a with opts := { a.opts with showGhosts := true } }, g)
    else if arg = "--env" then
      graphArgs db (x + 1) rest ({ a with opts := { a.opts with showEnv := true } }, g)
    else if arg = "--combine" then
      graphArgs db (x + 1) rest ({ a with opts := { a.opts with combine := true } }, g)
    else if arg = "--stickies" then
      graphArgs db (x + 1) rest ({ a with stickies := true }, g)
    else if arg = "--prune" then .ok ({ a with pruned := some x }, g)
    else match db.getTentDt arg with
      | none => .error s!"Unable to find tupid for: '{arg}'"
      | some tent => graphArgs db (x + 1) rest ({ a with defaultGraph := false }, addTarget g tent)

def graphSeed (db : Db) (o : GraphOptions) (cur : Option TupEntry) (argv : List String) :
    Except String (GraphArgs × Graph) := do
  let (a, g) ← graphArgs db 0 argv (⟨o, false, none, true⟩, createGraph cur)
  if a.defaultGraph then
    let g := (db.selectNodeByFlags .create).foldl (graphCb db a.opts) g
    pure (a, (db.selectNodeByFlags .modify).foldl (graphCb db a.opts) g)
  else pure (a, g)

/-- graph() up to add_graph_stickies, prune_graph and dump_graph: the parsed arguments
and the graph the loop builds, given a round for each node of the store. -/
def graph (db : Db) (o : GraphOptions) (cur : Option TupEntry) (argv : List String) :
    Except String (GraphArgs × Graph) := do
  let (a, g) ← graphSeed db o cur argv
  pure (a, graphLoop db a.opts db.nodes.length g)

end Tup
