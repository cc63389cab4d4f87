import Tup.Graph.Loop
import Mathlib.Order.Bounds.Basic

/-! The graph graph() builds. Its seeds are the targets named on the command line or,
without one, the flagged nodes graph_cb admits; its node set is the least set that holds
the seeds and is closed under `Successor`, whatever order the store enumerates in. -/
namespace Tup

def targetArgs : List String → List String
  | [] => []
  | arg :: rest =>
    if arg = "--prune" then []
    else if arg ∈ ["--dirs", "--ghosts", "--env", "--combine", "--stickies"] then
      targetArgs rest
    else arg :: targetArgs rest

/-- The seeds of the graph: the resolved targets or, when there is none, the create- and
modify-flagged entries graph_cb admits with the `cur` the graph starts with. -/
def graphSeeds (db : Db) (o : GraphOptions) (cur : Option TupEntry) (argv : List String) :
    List TupEntry :=
  match (targetArgs argv).filterMap db.getTentDt with
  | [] => (db.selectNodeByFlags .create ++ db.selectNodeByFlags .modify).filter
      (graphCbAdmits db o cur)
  | targets => targets

structure ArgsDone (db : Db) (argv : List String) (a a' : GraphArgs) (g g' : Graph) :
    Prop where
  inv : GraphInv db g'
  nodeList : g'.nodeList = g.nodeList
  cur : g'.cur = g.cur
  tents : ∀ e, e ∈ g'.tents ↔ e ∈ g.tents ∨ e ∈ (targetArgs argv).filterMap db.getTentDt
  defaultGraph : a'.defaultGraph =
    (a.defaultGraph && ((targetArgs argv).filterMap db.getTentDt).isEmpty)
  edges : g'.edges = g.edges

structure Seeded (db : Db) (cur : Option TupEntry) (argv : List String) (a : GraphArgs)
    (g₀ : Graph) : Prop where
  inv : GraphInv db g₀
  nodeList : g₀.nodeList = []
  tents : ∀ e, e ∈ g₀.tents ↔ e ∈ graphSeeds db a.opts cur argv
  edges : g₀.edges = if a.defaultGraph then curEdges cur (graphSeeds db a.opts cur argv) else []

section Seed

variable {db : Db} {o : GraphOptions} {cur : Option TupEntry} {argv : List String}
  {a a' : GraphArgs} {g g' : Graph}

theorem createGraph_inv : GraphInv db (createGraph cur) :=
  ⟨by simp [createGraph], by simp [createGraph, Graph.ids, Graph.tents],
    by simp [createGraph, Graph.tents], by simp [createGraph, Graph.tents]⟩

theorem ArgsDone.switch {arg : String} {rest : List String} {b : GraphArgs}
    (h : ArgsDone db rest b a' g g')
    (hs : arg ∈ ["--dirs", "--ghosts", "--env", "--combine", "--stickies"])
    (hd : b.defaultGraph = a.defaultGraph) :
    ArgsDone db (arg :: rest) a a' g g' := by
  have hp : arg ≠ "--prune" := by rintro rfl; simp at hs
  refine ⟨h.inv, h.nodeList, h.cur, fun e => ?_, ?_, h.edges⟩ <;>
    simp only [targetArgs, hp, hs, if_true, if_false, h.tents, h.defaultGraph, hd]

theorem graphArgs_done {x : Nat} {argv : List String} {a a' : GraphArgs} {g g' : Graph}
    (h : graphArgs db x argv (a, g) = .ok (a', g')) (hg : GraphInv db g) :
    ArgsDone db argv a a' g g' := by
  induction argv generalizing x a g with
  | nil =>
    cases h
    exact ⟨hg, rfl, rfl, by simp [targetArgs], by simp [targetArgs], rfl⟩
  | cons arg rest ih =>
    have hsw : ∀ b : GraphArgs, graphArgs db (x + 1) rest (b, g) = .ok (a', g') →
        b.defaultGraph = a.defaultGraph →
        arg ∈ ["--dirs", "--ghosts", "--env", "--combine", "--stickies"] →
        ArgsDone db (arg :: rest) a a' g g' :=
      fun _ h hb hs => (ih h hg).switch hs hb
    unfold graphArgs at h
    by_cases h₁ : arg = "--dirs"
    · rw [if_pos h₁] at h; exact hsw _ h rfl (by simp [h₁])
    rw [if_neg h₁] at h
    by_cases h₂ : arg = "--ghosts"
    · rw [if_pos h₂] at h; exact hsw _ h rfl (by simp [h₂])
    rw [if_neg h₂] at h
    by_cases h₃ : arg = "--env"
    · rw [if_pos h₃] at h; exact hsw _ h rfl (by simp [h₃])
    rw [if_neg h₃] at h
    by_cases h₄ : arg = "--combine"
    · rw [if_pos h₄] at h; exact hsw _ h rfl (by simp [h₄])
    rw [if_neg h₄] at h
    by_cases h₅ : arg = "--stickies"
    · rw [if_pos h₅] at h; exact hsw _ h rfl (by simp [h₅])
    rw [if_neg h₅] at h
    by_cases h₆ : arg = "--prune"
    · rw [if_pos h₆] at h
      cases h
      exact ⟨hg, rfl, rfl, by simp [targetArgs, h₆], by simp [targetArgs, h₆], rfl⟩
    · rw [if_neg h₆] at h
      have hs : arg ∉ ["--dirs", "--ghosts", "--env", "--combine", "--stickies"] := by
        simp [h₁, h₂, h₃, h₄, h₅]
      cases ht : db.getTentDt arg with
      | none => simp [ht] at h
      | some tent =>
        simp only [ht] at h
        have hadd := addTarget_spec hg (db.tent_mem _ _ ht)
        have hr := ih h hadd.1
        refine ⟨hr.inv, hr.nodeList.trans hadd.2.1, hr.cur.trans hadd.2.2.1, fun e => ?_, ?_,
          hr.edges.trans hadd.2.2.2.1⟩
        · simp only [hr.tents, hadd.2.2.2.2, targetArgs, h₆, hs, if_false,
            List.filterMap_cons, ht]
          simp only [List.mem_cons, or_assoc]
        · simp [hr.defaultGraph, targetArgs, h₆, hs, ht]

theorem flagsFold_grows (o : GraphOptions) (h : GraphInv db g) :
    Grows db (graphCbAdmits db o g.cur)
      (db.selectNodeByFlags .create ++ db.selectNodeByFlags .modify) g
      ((db.selectNodeByFlags .modify).foldl (graphCb db o)
        ((db.selectNodeByFlags .create).foldl (graphCb db o) g)) := by
  have hc : Grows db (graphCbAdmits db o g.cur) (db.selectNodeByFlags .create) g
      ((db.selectNodeByFlags .create).foldl (graphCb db o) g) :=
    foldl_grows (fun g' e hc => by rw [graphCb, hc]) h (db.flags_mem .create)
  exact hc.trans (foldl_grows (fun g' e hc' => by rw [graphCb, hc', hc.cur]) hc.inv
    (db.flags_mem .modify))

theorem graphSeed_spec {g₀ : Graph} (h : graphSeed db o cur argv = .ok (a, g₀)) :
    Seeded db cur argv a g₀ := by
  unfold graphSeed at h
  cases hx : graphArgs db 0 argv (⟨o, false, none, true⟩, createGraph cur) with
  | error => simp only [hx, bind, Except.bind] at h; cases h
  | ok p =>
    obtain ⟨a₁, g₁⟩ := p
    have hd := graphArgs_done hx createGraph_inv
    simp only [hx, bind, Except.bind, pure, Except.pure] at h
    split at h
    · rename_i hdef
      cases h
      have hnone : (targetArgs argv).filterMap db.getTentDt = [] := by
        simpa [hdef] using hd.defaultGraph
      have hempty : ∀ e, e ∉ g₁.tents := fun e he => by
        simpa [hnone, createGraph, Graph.tents] using (hd.tents e).mp he
      have hcm := flagsFold_grows a.opts hd.inv
      have hcur : g₁.cur = cur := hd.cur
      rw [hcur] at hcm
      refine ⟨hcm.inv, hcm.nodeList.trans hd.nodeList, fun e => ?_, ?_⟩
      · simp only [graphSeeds, hnone, List.mem_filter]
        exact ⟨fun he => (hcm.only e he).resolve_left (hempty e), fun ⟨hl, hq⟩ =>
          hcm.inv.mem_tents_of_ids ((List.mem_append.mp hl).elim (db.flags_mem _ _)
            (db.flags_mem _ _)) (hcm.adds e hl hq)⟩
      · rw [hcm.edges, hd.edges, hcur, if_pos hdef]
        simp [graphSeeds, hnone, createGraph]
    · rename_i hdef
      cases h
      have hsome : (targetArgs argv).filterMap db.getTentDt ≠ [] := by
        simpa [hdef] using hd.defaultGraph
      refine ⟨hd.inv, hd.nodeList, fun e => ?_, by simp [hd.edges, hdef, createGraph]⟩
      rw [hd.tents]
      cases hr : (targetArgs argv).filterMap db.getTentDt with
      | nil => exact absurd hr hsome
      | cons t ts => simp [graphSeeds, hr, createGraph, Graph.tents]

end Seed

section Build

variable {db : Db} {o : GraphOptions} {g g₀ : Graph}

theorem graphLoop_inv (h : GraphInv db g) (fuel : Nat) : GraphInv db (graphLoop db o fuel g) :=
  (graphLoop_induction (fun _ => True) (fun _ _ _ _ _ _ _ => trivial) fuel h trivial).1

theorem graphLoop_mono (h : GraphInv db g₀) (fuel : Nat) :
    ∀ e ∈ g₀.tents, e ∈ (graphLoop db o fuel g₀).tents :=
  (graphLoop_induction (fun g => ∀ e ∈ g₀.tents, e ∈ g.tents)
    (fun _ _ _ _ _ hr hp e he => hr.mono e (hp e he)) fuel h fun _ he => he).2

theorem graphLoop_closed (h : GraphInv db g₀) (h₀ : g₀.nodeList = []) (fuel : Nat) :
    ∀ m ∈ (graphLoop db o fuel g₀).nodeList, ∀ e, Successor db o m e →
      e.tupid ∈ (graphLoop db o fuel g₀).ids := by
  refine (graphLoop_induction (fun g => ∀ m ∈ g.nodeList, ∀ e, Successor db o m e →
    e.tupid ∈ g.ids) (fun g g' cur _ _ hr hp m hm e he => ?_) fuel h (by simp [h₀])).2
  rw [hr.nodeList] at hm
  rcases List.mem_cons.mp hm with rfl | hm
  · exact hr.expands e he
  · exact ids_subset hr.mono _ (hp m hm e he)

theorem graphLoop_sound {S : Set TupEntry} (hS : ∀ m ∈ S, ∀ e, Successor db o m e → e ∈ S)
    (h : GraphInv db g₀) (h₀ : ∀ e ∈ g₀.tents, e ∈ S) (fuel : Nat) :
    ∀ e ∈ (graphLoop db o fuel g₀).tents, e ∈ S := by
  refine (graphLoop_induction (fun g => ∀ e ∈ g.tents, e ∈ S)
    (fun g g' cur hg hc hr hp e he => ?_) fuel h h₀).2
  rcases hr.only e he with he | he
  · exact hp e he
  · exact hS cur (hp cur (hg.mem_tents (List.mem_append_left _ hc))) e he

theorem graphLoop_edges (h : GraphInv db g₀) (h₀ : g₀.nodeList = []) (fuel : Nat) :
    (graphLoop db o fuel g₀).edges =
      g₀.edges ++ (graphLoop db o fuel g₀).nodeList.reverse.flatMap (roundEdges db o) := by
  refine (graphLoop_induction (fun g => g.edges =
    g₀.edges ++ g.nodeList.reverse.flatMap (roundEdges db o))
    (fun g g' cur _ _ hr hp => ?_) fuel h (by simp [h₀])).2
  show g'.edges = _
  rw [hr.edges, hr.nodeList, hp, List.reverse_cons, List.flatMap_append, List.append_assoc]
  simp

theorem graphLoop_done {argv : List String} {cur : Option TupEntry} {a : GraphArgs}
    (h : graphSeed db o cur argv = .ok (a, g₀)) :
    (graphLoop db a.opts db.nodes.length g₀).plist = [] :=
  graphLoop_plist_nil (graphSeed_spec h).inv (by simp [(graphSeed_spec h).nodeList])

theorem graph_eq_ok {argv : List String} {cur : Option TupEntry} {a : GraphArgs}
    (h : graph db o cur argv = .ok (a, g)) :
    ∃ g₀, graphSeed db o cur argv = .ok (a, g₀) ∧
      g = graphLoop db a.opts db.nodes.length g₀ := by
  unfold graph at h
  cases hs : graphSeed db o cur argv with
  | error => simp only [hs, bind, Except.bind] at h; cases h
  | ok p =>
    simp only [hs, bind, Except.bind, pure, Except.pure, Except.ok.injEq] at h
    cases h
    exact ⟨p.2, rfl, rfl⟩

def cycleDb : Db where
  nodes := [⟨1, 0, .dir, "."⟩, ⟨2, 1, .file, "a.c"⟩, ⟨3, 1, .cmd, "gcc a.c"⟩,
    ⟨4, 1, .generated, "a.o"⟩]
  envDt := 5
  selectNodeByLink t :=
    if t = 2 then [⟨3, 1, .cmd, "gcc a.c"⟩]
    else if t = 3 then [⟨4, 1, .generated, "a.o"⟩, ⟨2, 1, .file, "a.c"⟩] else []
  selectNodeByDistinctGroupLink _ := []
  selectNodeDir t :=
    if t = 1 then
      [⟨2, 1, .file, "a.c"⟩, ⟨3, 1, .cmd, "gcc a.c"⟩, ⟨4, 1, .generated, "a.o"⟩]
    else []
  selectNodeByFlags f := if f = .modify then [⟨2, 1, .file, "a.c"⟩] else []
  getTentDt s := [⟨2, 1, .file, "a.c"⟩, ⟨4, 1, .generated, "a.o"⟩].find? fun e => e.name = s
  nodes_nodup := by decide
  link_mem t := by dsimp only; split_ifs <;> decide
  group_mem _ := by simp
  dir_mem t := by dsimp only; split_ifs <;> decide
  flags_mem f := by dsimp only; split_ifs <;> decide
  tent_mem s e h := by
    have := List.mem_of_find?_eq_some h
    simp only [List.mem_cons, List.mem_singleton, List.not_mem_nil, or_false] at this
    rcases this with rfl | rfl <;> decide

def noSwitches : GraphOptions := ⟨false, false, false, false⟩

def cycleSeed : Graph :=
  ⟨[⟨⟨2, 1, .file, "a.c"⟩, true⟩], [], [⟨2, 1, .file, "a.c"⟩], [], none⟩

def groupDb : Db where
  nodes := [⟨1, 0, .dir, "."⟩, ⟨2, 1, .file, "a.c"⟩, ⟨3, 1, .cmd, "gcc a.c"⟩,
    ⟨4, 1, .generated, "a.o"⟩, ⟨5, 1, .group, "<objs>"⟩, ⟨6, 1, .dir, "sub"⟩,
    ⟨7, 6, .file, "b.c"⟩, ⟨8, 1, .ghost, "gone.h"⟩]
  envDt := 9
  selectNodeByLink t :=
    if t = 2 then [⟨3, 1, .cmd, "gcc a.c"⟩]
    else if t = 3 then [⟨4, 1, .generated, "a.o"⟩, ⟨8, 1, .ghost, "gone.h"⟩,
      ⟨6, 1, .dir, "sub"⟩, ⟨5, 1, .group, "<objs>"⟩]
    else []
  selectNodeByDistinctGroupLink t := if t = 5 then [⟨3, 1, .cmd, "gcc a.c"⟩] else []
  selectNodeDir t := if t = 6 then [⟨7, 6, .file, "b.c"⟩] else []
  selectNodeByFlags f :=
    if f = .modify then [⟨2, 1, .file, "a.c"⟩, ⟨6, 1, .dir, "sub"⟩] else []
  getTentDt s := [⟨2, 1, .file, "a.c"⟩, ⟨6, 1, .dir, "sub"⟩].find? fun e => e.name = s
  nodes_nodup := by decide
  link_mem t := by dsimp only; split_ifs <;> decide
  group_mem t := by dsimp only; split_ifs <;> decide
  dir_mem t := by dsimp only; split_ifs <;> decide
  flags_mem f := by dsimp only; split_ifs <;> decide
  tent_mem s e h := by
    have := List.mem_of_find?_eq_some h
    simp only [List.mem_cons, List.mem_singleton, List.not_mem_nil, or_false] at this
    rcases this with rfl | rfl <;> decide

def groupSeed : Graph :=
  ⟨[⟨⟨2, 1, .file, "a.c"⟩, true⟩, ⟨⟨6, 1, .dir, "sub"⟩, true⟩], [],
    [⟨6, 1, .dir, "sub"⟩, ⟨2, 1, .file, "a.c"⟩], [], none⟩

/-- The worklist loop of graph() stops, on every store (cyclic links included) and every
target list: within as many rounds as the store has nodes plist is empty, more rounds
change nothing, and node_list, where each round puts the node it expanded, holds every
node of the graph exactly once. -/
theorem graph_loop_terminates {argv : List String} {cur : Option TupEntry} {a : GraphArgs}
    (h : graphSeed db o cur argv = .ok (a, g₀)) :
    (graphLoop db a.opts db.nodes.length g₀).plist = [] ∧
    (∀ fuel, db.nodes.length ≤ fuel →
      graphLoop db a.opts fuel g₀ = graphLoop db a.opts db.nodes.length g₀) ∧
    (graphLoop db a.opts db.nodes.length g₀).nodeList.Nodup ∧
    (graphLoop db a.opts db.nodes.length g₀).nodeList.Perm
      (graphLoop db a.opts db.nodes.length g₀).tents := by
  have hfin := graphLoop_done h
  have hinv : GraphInv db (graphLoop db a.opts db.nodes.length g₀) :=
    graphLoop_inv (graphSeed_spec h).inv _
  have hperm := hinv.lists_perm
  rw [hfin, List.nil_append] at hperm
  refine ⟨hfin, fun fuel hf => ?_, hperm.nodup_iff.mpr hinv.tents_nodup, hperm⟩
  obtain ⟨k, rfl⟩ := Nat.exists_eq_add_of_le hf
  exact graphLoop_add hfin k

theorem samples_loop_terminates :
    (graphSeed cycleDb noSwitches none [] = .ok (⟨noSwitches, false, none, true⟩, cycleSeed) ∧
      (graphLoop cycleDb noSwitches cycleDb.nodes.length cycleSeed).plist = [] ∧
      (∀ fuel, cycleDb.nodes.length ≤ fuel → graphLoop cycleDb noSwitches fuel cycleSeed =
        graphLoop cycleDb noSwitches cycleDb.nodes.length cycleSeed) ∧
      (graphLoop cycleDb noSwitches cycleDb.nodes.length cycleSeed).nodeList.Nodup ∧
      (graphLoop cycleDb noSwitches cycleDb.nodes.length cycleSeed).nodeList.Perm
        (graphLoop cycleDb noSwitches cycleDb.nodes.length cycleSeed).tents) ∧
    (graphSeed groupDb noSwitches none [] = .ok (⟨noSwitches, false, none, true⟩, groupSeed) ∧
      (graphLoop groupDb noSwitches groupDb.nodes.length groupSeed).plist = [] ∧
      (∀ fuel, groupDb.nodes.length ≤ fuel → graphLoop groupDb noSwitches fuel groupSeed =
        graphLoop groupDb noSwitches groupDb.nodes.length groupSeed) ∧
      (graphLoop groupDb noSwitches groupDb.nodes.length groupSeed).nodeList.Nodup ∧
      (graphLoop groupDb noSwitches groupDb.nodes.length groupSeed).nodeList.Perm
        (graphLoop groupDb noSwitches groupDb.nodes.length groupSeed).tents) :=
  have hc : graphSeed cycleDb noSwitches none [] =
      .ok (⟨noSwitches, false, none, true⟩, cycleSeed) := rfl
  have hg : graphSeed groupDb noSwitches none [] =
      .ok (⟨noSwitches, false, none, true⟩, groupSeed) := rfl
  have hc' := graph_loop_terminates hc
  have hg' := graph_loop_terminates hg
  ⟨⟨hc, hc'⟩, ⟨hg, hg'⟩⟩

/-- The node set of the graph graph() builds is the least set that holds the seeds and
is closed under `Successor`. -/
theorem graph_nodes_least {argv : List String} {cur : Option TupEntry} {a : GraphArgs}
    (h : graph db o cur argv = .ok (a, g)) :
    IsLeast {S : Set TupEntry | (∀ e ∈ graphSeeds db a.opts cur argv, e ∈ S) ∧
      ∀ m ∈ S, ∀ e, Successor db a.opts m e → e ∈ S} {e | e ∈ g.tents} := by
  obtain ⟨g₀, hs, rfl⟩ := graph_eq_ok h
  obtain ⟨hinv, hnil, hseeds, -⟩ := graphSeed_spec hs
  have hend : GraphInv db (graphLoop db a.opts db.nodes.length g₀) := graphLoop_inv hinv _
  refine ⟨⟨fun e he => graphLoop_mono hinv _ e ((hseeds e).mpr he), fun m hm e he => ?_⟩,
    fun S ⟨hS₀, hS⟩ => graphLoop_sound hS hinv (fun e he => hS₀ e ((hseeds e).mp he)) _⟩
  have hm' : m ∈ (graphLoop db a.opts db.nodes.length g₀).nodeList := by
    simpa [graphLoop_done hs] using hend.lists_perm.symm.subset hm
  exact hend.mem_tents_of_ids he.mem_nodes (graphLoop_closed hinv hnil _ m hm' e he)

def cycleGraph : Graph :=
  ⟨[⟨⟨2, 1, .file, "a.c"⟩, true⟩, ⟨⟨3, 1, .cmd, "gcc a.c"⟩, true⟩,
      ⟨⟨4, 1, .generated, "a.o"⟩, true⟩],
    [⟨4, 1, .generated, "a.o"⟩, ⟨3, 1, .cmd, "gcc a.c"⟩, ⟨2, 1, .file, "a.c"⟩], [],
    [(2, 3), (3, 4), (3, 2)], none⟩

def groupGraph : Graph :=
  ⟨[⟨⟨2, 1, .file, "a.c"⟩, true⟩, ⟨⟨6, 1, .dir, "sub"⟩, true⟩, ⟨⟨7, 6, .file, "b.c"⟩, true⟩,
      ⟨⟨3, 1, .cmd, "gcc a.c"⟩, true⟩, ⟨⟨4, 1, .generated, "a.o"⟩, true⟩,
      ⟨⟨5, 1, .group, "<objs>"⟩, true⟩],
    [⟨4, 1, .generated, "a.o"⟩, ⟨5, 1, .group, "<objs>"⟩, ⟨3, 1, .cmd, "gcc a.c"⟩,
      ⟨2, 1, .file, "a.c"⟩, ⟨7, 6, .file, "b.c"⟩, ⟨6, 1, .dir, "sub"⟩], [],
    [(2, 3), (3, 4), (3, 5), (5, 3)], none⟩

theorem samples_nodes_least :
    (graph cycleDb noSwitches none [] = .ok (⟨noSwitches, false, none, true⟩, cycleGraph) ∧
      IsLeast {S : Set TupEntry | (∀ e ∈ graphSeeds cycleDb noSwitches none [], e ∈ S) ∧
        ∀ m ∈ S, ∀ e, Successor cycleDb noSwitches m e → e ∈ S}
        {e | e ∈ cycleGraph.tents}) ∧
    (graph groupDb noSwitches none [] = .ok (⟨noSwitches, false, none, true⟩, groupGraph) ∧
      IsLeast {S : Set TupEntry | (∀ e ∈ graphSeeds groupDb noSwitches none [], e ∈ S) ∧
        ∀ m ∈ S, ∀ e, Successor groupDb noSwitches m e → e ∈ S}
        {e | e ∈ groupGraph.tents}) :=
  have hc : graph cycleDb noSwitches none [] =
      .ok (⟨noSwitches, false, none, true⟩, cycleGraph) := rfl
  have hg : graph groupDb noSwitches none [] =
      .ok (⟨noSwitches, false, none, true⟩, groupGraph) := rfl
  have hc' := graph_nodes_least hc
  have hg' := graph_nodes_least hg
  ⟨⟨hc, hc'⟩, ⟨hg, hg'⟩⟩

theorem graph_edges_eq {argv : List String} {cur : Option TupEntry} {a : GraphArgs}
    (h : graph db o cur argv = .ok (a, g)) :
    g.nodeList.Perm g.tents ∧
      g.edges = (if a.defaultGraph then curEdges cur (graphSeeds db a.opts cur argv) else []) ++
        g.nodeList.reverse.flatMap (roundEdges db a.opts) := by
  obtain ⟨g₀, hs, rfl⟩ := graph_eq_ok h
  have hseed := graphSeed_spec hs
  have hend : GraphInv db (graphLoop db a.opts db.nodes.length g₀) := graphLoop_inv hseed.inv _
  have hperm := hend.lists_perm
  rw [graphLoop_done hs, List.nil_append] at hperm
  exact ⟨hperm, by rw [graphLoop_edges hseed.inv hseed.nodeList, hseed.edges]⟩

/-- The edges of the graph graph() builds, in the order it records them: when no target is
named, one from the `cur` it starts with to each seed; then, for each node in the order
the loop expands it, one to each link successor graph_cb lets through and, for a group,
one to each of its distinct producers. Each node of the graph is expanded once. This is
the graph prune_graph and dump_graph get when `--stickies` does not add to it. -/
theorem graph_edges {argv : List String} {cur : Option TupEntry} {a : GraphArgs}
    (h : graph db o cur argv = .ok (a, g)) :
    g.nodeList.Perm g.tents ∧ (a.stickies = false →
      g.edges = (if a.defaultGraph then curEdges cur (graphSeeds db a.opts cur argv) else []) ++
        g.nodeList.reverse.flatMap (roundEdges db a.opts)) :=
  ⟨(graph_edges_eq h).1, fun _ => (graph_edges_eq h).2⟩

/-- graph() hands on no dangling edge: every edge ends at a node of the graph, and starts
at one or at the `cur` the graph started with. -/
theorem graph_edges_closed {argv : List String} {cur : Option TupEntry} {a : GraphArgs}
    (h : graph db o cur argv = .ok (a, g)) {p : Int × Int} (hp : p ∈ g.edges) :
    (p.1 ∈ g.ids ∨ ∃ c, cur = some c ∧ p.1 = c.tupid) ∧ p.2 ∈ g.ids := by
  obtain ⟨hperm, hedges⟩ := graph_edges_eq h
  obtain ⟨g₀, hs, rfl⟩ := graph_eq_ok h
  have hseed := graphSeed_spec hs
  have hid : ∀ {e}, e ∈ (graphLoop db a.opts db.nodes.length g₀).tents →
      e.tupid ∈ (graphLoop db a.opts db.nodes.length g₀).ids := List.mem_map_of_mem _
  rw [hedges, List.mem_append, List.mem_flatMap] at hp
  rcases hp with hp | ⟨m, hm, hp⟩
  · split_ifs at hp
    · rcases cur with _ | c
      · cases hp
      · obtain ⟨s, hs', rfl⟩ := List.mem_map.mp hp
        exact ⟨.inr ⟨c, rfl, rfl⟩,
          hid (graphLoop_mono hseed.inv _ s ((hseed.tents s).mpr hs'))⟩
    · cases hp
  · obtain ⟨e, he, rfl⟩ := mem_roundEdges.mp hp
    have hm' := List.mem_reverse.mp hm
    exact ⟨.inl (hid (hperm.subset hm')),
      graphLoop_closed hseed.inv hseed.nodeList _ m hm' e he.successor⟩

def rootGraph : Graph :=
  ⟨[⟨⟨2, 1, .file, "a.c"⟩, true⟩, ⟨⟨3, 1, .cmd, "gcc a.c"⟩, true⟩,
      ⟨⟨4, 1, .generated, "a.o"⟩, true⟩, ⟨⟨5, 1, .group, "<objs>"⟩, true⟩],
    [⟨4, 1, .generated, "a.o"⟩, ⟨5, 1, .group, "<objs>"⟩, ⟨3, 1, .cmd, "gcc a.c"⟩,
      ⟨2, 1, .file, "a.c"⟩], [],
    [(0, 2), (2, 3), (3, 4), (3, 5), (5, 3)], none⟩

theorem samples_edges :
    graph groupDb noSwitches (some ⟨0, 0, .dir, "."⟩) [] =
      .ok (⟨noSwitches, false, none, true⟩, rootGraph) ∧
    rootGraph.nodeList.Perm rootGraph.tents ∧
    ((⟨noSwitches, false, none, true⟩ : GraphArgs).stickies = false →
      rootGraph.edges = (if (⟨noSwitches, false, none, true⟩ : GraphArgs).defaultGraph then
          curEdges (some ⟨0, 0, .dir, "."⟩) (graphSeeds groupDb noSwitches
            (some ⟨0, 0, .dir, "."⟩) [])
        else []) ++ rootGraph.nodeList.reverse.flatMap (roundEdges groupDb noSwitches)) :=
  have h : graph groupDb noSwitches (some ⟨0, 0, .dir, "."⟩) [] =
      .ok (⟨noSwitches, false, none, true⟩, rootGraph) := rfl
  have h' := graph_edges h
  ⟨h, h'⟩

theorem samples_edges_closed :
    graph groupDb noSwitches (some ⟨0, 0, .dir, "."⟩) [] =
      .ok (⟨noSwitches, false, none, true⟩, rootGraph) ∧ (0, 2) ∈ rootGraph.edges ∧
    (((0, 2) : Int × Int).1 ∈ rootGraph.ids ∨
      ∃ c, some (⟨0, 0, .dir, "."⟩ : TupEntry) = some c ∧ ((0, 2) : Int × Int).1 = c.tupid) ∧
    ((0, 2) : Int × Int).2 ∈ rootGraph.ids :=
  have h : graph groupDb noSwitches (some ⟨0, 0, .dir, "."⟩) [] =
      .ok (⟨noSwitches, false, none, true⟩, rootGraph) := rfl
  have hp : (0, 2) ∈ rootGraph.edges := by decide
  have h' := graph_edges_closed h hp
  ⟨h, hp, h'⟩

end Build

end Tup
