import Tup.Graph.Invariant

/-! A round of graph()'s worklist loop, and the loop as a whole. A round moves its node
from plist to node_list and adds exactly the successors of that node the graph did not
have; node_list only grows, so the loop runs out of work within as many rounds as the
store has nodes. -/
namespace Tup

/-- How a round on `m` reaches `e`: (a) a link successor graph_cb admits with `cur`
set, (b) a distinct producer of a group, (c) a directory child graph_cb admits with
`cur` NULL, unless `m` is a tup.config. -/
inductive Successor (db : Db) (o : GraphOptions) (m : TupEntry) : TupEntry → Prop
  | link {e} : e ∈ db.selectNodeByLink m.tupid → graphCbAdmits db o (some m) e = true →
      Successor db o m e
  | group {e} : m.type = .group → e ∈ db.selectNodeByDistinctGroupLink m.tupid →
      Successor db o m e
  | dir {e} : m.name ≠ tupConfig → e ∈ db.selectNodeDir m.tupid →
      graphCbAdmits db o none e = true → Successor db o m e

theorem Successor.mem_nodes {db : Db} {o : GraphOptions} {m e : TupEntry}
    (h : Successor db o m e) : e ∈ db.nodes := by
  cases h with
  | link he _ => exact db.link_mem _ _ he
  | group _ he => exact db.group_mem _ _ he
  | dir _ he _ => exact db.dir_mem _ _ he

/-- The edges out of `m` in graph()'s graph: (a) to a link successor graph_cb admits,
(b) to a distinct producer of a group. Directory children get none: `cur` is NULL then. -/
inductive Linked (db : Db) (o : GraphOptions) (m : TupEntry) : TupEntry → Prop
  | link {e} : e ∈ db.selectNodeByLink m.tupid → graphCbAdmits db o (some m) e = true →
      Linked db o m e
  | group {e} : m.type = .group → e ∈ db.selectNodeByDistinctGroupLink m.tupid →
      Linked db o m e

theorem Linked.successor {db : Db} {o : GraphOptions} {m e : TupEntry} (h : Linked db o m e) :
    Successor db o m e := by
  cases h with
  | link hl ha => exact .link hl ha
  | group hg he => exact .group hg he

def roundEdges (db : Db) (o : GraphOptions) (cur : TupEntry) : List (Int × Int) :=
  ((db.selectNodeByLink cur.tupid).filter (graphCbAdmits db o (some cur)) ++
    if cur.type = .group then db.selectNodeByDistinctGroupLink cur.tupid else []).map
    fun e => (cur.tupid, e.tupid)

theorem mem_roundEdges {db : Db} {o : GraphOptions} {cur : TupEntry} {p : Int × Int} :
    p ∈ roundEdges db o cur ↔ ∃ e, Linked db o cur e ∧ p = (cur.tupid, e.tupid) := by
  constructor
  · intro hp
    obtain ⟨e, he, rfl⟩ := List.mem_map.mp hp
    rcases List.mem_append.mp he with he | he
    · obtain ⟨hl, ha⟩ := List.mem_filter.mp he
      exact ⟨e, .link hl ha, rfl⟩
    · split_ifs at he with hg
      exacts [⟨e, .group hg he, rfl⟩, absurd he (List.not_mem_nil e)]
  · rintro ⟨e, he, rfl⟩
    refine List.mem_map_of_mem _ ?_
    cases he with
    | link hl ha => exact List.mem_append_left _ (List.mem_filter.mpr ⟨hl, ha⟩)
    | group hg hl => exact List.mem_append_right _ (by simpa [hg] using hl)

structure Round (db : Db) (o : GraphOptions) (cur : TupEntry) (g g' : Graph) : Prop where
  inv : GraphInv db g'
  nodeList : g'.nodeList = cur :: g.nodeList
  mono : ∀ e ∈ g.tents, e ∈ g'.tents
  expands : ∀ e, Successor db o cur e → e.tupid ∈ g'.ids
  only : ∀ e ∈ g'.tents, e ∈ g.tents ∨ Successor db o cur e
  edges : g'.edges = g.edges ++ roundEdges db o cur

section Round

variable {db : Db} {o : GraphOptions} {q : TupEntry → Bool} {g : Graph}
  {l : List TupEntry} {cur : TupEntry}

theorem Grows.refl_of (h : GraphInv db g) (hq : ∀ e ∈ l, q e = false) :
    Grows db q l g g := by
  have hnil : l.filter q = [] := List.filter_eq_nil_iff.mpr fun e he => by simp [hq e he]
  exact ⟨h, rfl, rfl, fun _ he => he, fun e he hqe => by simp [hq e he] at hqe,
    fun _ he => .inl he, by simp [hnil]⟩

theorem GraphInv.move (h : GraphInv db g) (hc : cur ∈ g.plist) :
    GraphInv db { g with plist := g.plist.erase cur, nodeList := cur :: g.nodeList } where
  expanded := h.expanded
  ids_nodup := h.ids_nodup
  tents_mem := h.tents_mem
  lists_perm := List.perm_middle.trans
    (((List.perm_cons_erase hc).symm.append_right _).trans h.lists_perm)

theorem with_cur_of_eq {c : Option TupEntry} (h : g.cur = c) : { g with cur := c } = g := by
  cases g; cases h; rfl

theorem linkFold_grows (o : GraphOptions) (h : GraphInv db g) (cur : TupEntry) :
    Grows db (graphCbAdmits db o (some cur)) (db.selectNodeByLink cur.tupid)
      { g with cur := some cur }
      ((db.selectNodeByLink cur.tupid).foldl (graphCb db o) { g with cur := some cur }) :=
  foldl_grows (fun g' e hc => by rw [graphCb, hc]) (h.of_lists rfl rfl rfl) (db.link_mem _)

theorem groupFold_grows (h : GraphInv db g) (cur : TupEntry) :
    Grows db (fun _ => decide (cur.type = .group)) (db.selectNodeByDistinctGroupLink cur.tupid)
      g (if cur.type = .group then
        (db.selectNodeByDistinctGroupLink cur.tupid).foldl buildGraphGroupCb g else g) := by
  by_cases hg : cur.type = .group
  · rw [if_pos hg]
    exact foldl_grows (fun g' e _ => by simp [buildGraphGroupCb, hg]) h (db.group_mem _)
  · rw [if_neg hg]
    exact Grows.refl_of h (by simp [hg])

theorem dirFold_grows (o : GraphOptions) (h : GraphInv db g) (cur : TupEntry) :
    Grows db (fun e => decide (cur.name ≠ tupConfig) && graphCbAdmits db o none e)
      (db.selectNodeDir cur.tupid) { g with cur := none }
      { (if cur.name ≠ tupConfig then
          (db.selectNodeDir cur.tupid).foldl (graphCb db o) { g with cur := none } else g) with
        cur := none } := by
  by_cases hn : cur.name = tupConfig
  · rw [if_neg (not_not.mpr hn)]
    exact Grows.refl_of (h.of_lists rfl rfl rfl) (by simp [hn])
  · rw [if_pos hn]
    have hf : Grows db (fun e => decide (cur.name ≠ tupConfig) && graphCbAdmits db o none e)
        (db.selectNodeDir cur.tupid) { g with cur := none }
        ((db.selectNodeDir cur.tupid).foldl (graphCb db o) { g with cur := none }) :=
      foldl_grows (fun g' e hc => by simp [graphCb, hc, hn]) (h.of_lists rfl rfl rfl)
        (db.dir_mem cur.tupid)
    rwa [with_cur_of_eq hf.cur]

theorem graphStep_round (h : GraphInv db g) (hcur : cur ∈ g.plist) :
    Round db o cur g (graphStep db o g cur) := by
  have h₁ := linkFold_grows o h cur
  have h₂ := groupFold_grows h₁.inv cur
  have hc₂ := h₂.mem_plist h₁.inv (h₁.mem_plist (h.of_lists rfl rfl rfl) hcur)
  have h₄ : Grows db _ _ _ { graphStep db o g cur with cur := none } :=
    dirFold_grows o (h₂.inv.move hc₂) cur
  refine ⟨h₄.inv.of_lists rfl rfl rfl, ?_,
    fun e he => h₄.mono e (h₂.mono e (h₁.mono e he)), fun e he => ?_, fun e he => ?_, ?_⟩
  · exact h₄.nodeList.trans (congrArg _ (h₂.nodeList.trans h₁.nodeList))
  · cases he with
    | link hl ha => exact ids_subset h₄.mono _ (ids_subset h₂.mono _ (h₁.adds _ hl ha))
    | group hg hl => exact ids_subset h₄.mono _ (h₂.adds _ hl (by simp [hg]))
    | dir hn hl ha => exact h₄.adds _ hl (by simp [hn, ha])
  · rcases h₄.only e he with he | ⟨hl, hq⟩
    · rcases h₂.only e he with he | ⟨hl, hq⟩
      · exact (h₁.only e he).imp_right fun ⟨hl, ha⟩ => .link hl ha
      · exact .inr (.group (by simpa using hq) hl)
    · simp only [Bool.and_eq_true, decide_eq_true_eq] at hq
      exact .inr (.dir hq.1 hl hq.2)
  · have h₄e := h₄.edges
    simp only [curEdges, List.append_nil] at h₄e
    rw [h₄e, h₂.edges, h₁.cur, h₁.edges]
    by_cases hg : cur.type = .group <;> simp [roundEdges, curEdges, hg]

end Round

section Loop

variable {db : Db} {o : GraphOptions} {g : Graph}

theorem graphLoop_induction (P : Graph → Prop)
    (step : ∀ g g' cur, GraphInv db g → cur ∈ g.plist → Round db o cur g g' →
      P g → P g')
    (fuel : Nat) (h : GraphInv db g) (hp : P g) :
    GraphInv db (graphLoop db o fuel g) ∧ P (graphLoop db o fuel g) := by
  induction fuel generalizing g with
  | zero => exact ⟨h, hp⟩
  | succ fuel ih =>
    rw [graphLoop]
    split
    · exact ⟨h, hp⟩
    · rename_i cur rest hpl
      have hc : cur ∈ g.plist := hpl ▸ List.mem_cons_self cur rest
      have hr : Round db o cur g (graphStep db o g cur) := graphStep_round h hc
      exact ih hr.inv (step _ _ _ h hc hr hp)

theorem graphLoop_of_plist_nil (hp : g.plist = []) (fuel : Nat) :
    graphLoop db o fuel g = g := by
  cases fuel <;> simp [graphLoop, hp]

theorem GraphInv.nodeList_length_lt {cur : TupEntry} (h : GraphInv db g)
    (hc : cur ∈ g.plist) : g.nodeList.length < db.nodes.length := by
  have hnd : (cur :: g.nodeList).Nodup := List.nodup_cons.mpr
    ⟨h.not_mem_nodeList hc, (h.lists_perm.nodup_iff.mpr h.tents_nodup).of_append_right⟩
  have hsub : cur :: g.nodeList ⊆ db.nodes := by
    rintro e (_ | ⟨_, he⟩)
    · exact h.tents_mem _ (h.mem_tents (List.mem_append_left _ hc))
    · exact h.tents_mem _ (h.mem_tents (List.mem_append_right _ he))
  exact (hnd.subperm hsub).length_le

theorem graphLoop_plist_nil {fuel : Nat} (h : GraphInv db g)
    (hfuel : db.nodes.length ≤ g.nodeList.length + fuel) :
    (graphLoop db o fuel g).plist = [] := by
  induction fuel generalizing g with
  | zero =>
    cases hp : g.plist with
    | nil => exact hp
    | cons cur _ =>
      have := h.nodeList_length_lt (hp ▸ List.mem_cons_self cur _)
      omega
  | succ fuel ih =>
    rw [graphLoop]
    split
    · assumption
    · rename_i cur rest hpl
      have hr : Round db o cur g (graphStep db o g cur) :=
        graphStep_round h (hpl ▸ List.mem_cons_self cur rest)
      exact ih hr.inv (by rw [hr.nodeList, List.length_cons]; omega)

theorem graphLoop_add {n : Nat} (hfin : (graphLoop db o n g).plist = []) (k : Nat) :
    graphLoop db o (n + k) g = graphLoop db o n g := by
  induction n generalizing g with
  | zero => rw [Nat.zero_add]; exact graphLoop_of_plist_nil hfin k
  | succ n ih =>
    rw [Nat.add_right_comm, graphLoop, graphLoop]
    split
    · rfl
    · exact ih (by rwa [graphLoop, ‹g.plist = _›] at hfin)

end Loop

end Tup
