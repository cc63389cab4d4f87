import Tup.Graph.Model
import Mathlib.Data.List.Perm.Subperm

/-! What every graph() state keeps, and what one graph_cb call does to a graph that
keeps it. A call either leaves the node set alone or adds one new, expanded node on top
of plist; the fold lemma `foldl_grows` carries this over a whole enumeration. -/
namespace Tup

/-- Every node is expanded, has an id of its own, comes from the store, and sits on
exactly one of plist and node_list. -/
structure GraphInv (db : Db) (g : Graph) : Prop where
  expanded : ∀ n ∈ g.tree, n.expanded = true
  ids_nodup : g.ids.Nodup
  tents_mem : ∀ e ∈ g.tents, e ∈ db.nodes
  lists_perm : (g.plist ++ g.nodeList).Perm g.tents

def pushNode (g : Graph) (tent : TupEntry) : Graph :=
  { g with tree := g.tree ++ [⟨tent, true⟩], plist := tent :: g.plist }

def curEdges : Option TupEntry → List TupEntry → List (Int × Int)
  | some c, l => l.map fun e => (c.tupid, e.tupid)
  | none, _ => []

section Lemmas

variable {db : Db} {g g' : Graph} {tent e : TupEntry}

@[simp] theorem curEdges_nil (c : Option TupEntry) : curEdges c [] = [] := by
  cases c <;> rfl

@[simp] theorem curEdges_append (c : Option TupEntry) (l₁ l₂ : List TupEntry) :
    curEdges c (l₁ ++ l₂) = curEdges c l₁ ++ curEdges c l₂ := by
  cases c <;> simp [curEdges]

theorem mem_curEdges {c : Option TupEntry} {l : List TupEntry} {p : Int × Int} :
    p ∈ curEdges c l ↔ ∃ c' e, c = some c' ∧ e ∈ l ∧ p = (c'.tupid, e.tupid) := by
  cases c <;> simp [curEdges, eq_comm]

@[simp] theorem pushNode_tents : (pushNode g tent).tents = g.tents ++ [tent] := by
  simp [pushNode, Graph.tents]

@[simp] theorem pushNode_ids : (pushNode g tent).ids = g.ids ++ [tent.tupid] := by
  simp [Graph.ids]

@[simp] theorem pushNode_plist : (pushNode g tent).plist = tent :: g.plist := rfl
@[simp] theorem pushNode_nodeList : (pushNode g tent).nodeList = g.nodeList := rfl
@[simp] theorem pushNode_cur : (pushNode g tent).cur = g.cur := rfl
@[simp] theorem pushNode_edges : (pushNode g tent).edges = g.edges := rfl

@[simp] theorem edgeFromCur_tree : (edgeFromCur g tent).tree = g.tree := by
  unfold edgeFromCur; split <;> rfl

@[simp] theorem edgeFromCur_plist : (edgeFromCur g tent).plist = g.plist := by
  unfold edgeFromCur; split <;> rfl

@[simp] theorem edgeFromCur_nodeList : (edgeFromCur g tent).nodeList = g.nodeList := by
  unfold edgeFromCur; split <;> rfl

@[simp] theorem edgeFromCur_cur : (edgeFromCur g tent).cur = g.cur := by
  unfold edgeFromCur; split <;> rfl

@[simp] theorem edgeFromCur_edges :
    (edgeFromCur g tent).edges = g.edges ++ curEdges g.cur [tent] := by
  unfold edgeFromCur; split <;> simp [createEdge, curEdges, *]

@[simp] theorem edgeFromCur_tents : (edgeFromCur g tent).tents = g.tents := by
  simp [Graph.tents]

@[simp] theorem edgeFromCur_ids : (edgeFromCur g tent).ids = g.ids := by
  simp [Graph.ids]

theorem createNode_snd : (createNode g tent).2 = ⟨tent, false⟩ := rfl

theorem edgeFromCur_congr (h : e.tupid = tent.tupid) : edgeFromCur g e = edgeFromCur g tent := by
  unfold edgeFromCur createEdge; rw [h]

theorem mem_ids_iff : tent.tupid ∈ g.ids ↔ ∃ e ∈ g.tents, e.tupid = tent.tupid := by
  simp [Graph.ids]

theorem findNode_some {n : Node} {t : Int} (h : findNode g t = some n) :
    n ∈ g.tree ∧ n.tent.tupid = t :=
  ⟨List.mem_of_find?_eq_some h, by simpa using List.find?_some h⟩

theorem findNode_some_mem {n : Node} {t : Int} (h : findNode g t = some n) : t ∈ g.ids :=
  (findNode_some h).2 ▸ List.mem_map_of_mem _ (List.mem_map_of_mem _ (findNode_some h).1)

theorem findNode_none {t : Int} : findNode g t = none ↔ t ∉ g.ids := by
  simp [findNode, Graph.ids, Graph.tents, List.find?_eq_none]

theorem GraphInv.of_lists (h : GraphInv db g) (htree : g'.tree = g.tree)
    (hp : g'.plist = g.plist) (hn : g'.nodeList = g.nodeList) : GraphInv db g' where
  expanded := htree ▸ h.expanded
  ids_nodup := by simpa [Graph.ids, Graph.tents, htree] using h.ids_nodup
  tents_mem := by simpa [Graph.tents, htree] using h.tents_mem
  lists_perm := by simpa [Graph.tents, htree, hp, hn] using h.lists_perm

theorem GraphInv.tents_nodup (h : GraphInv db g) : g.tents.Nodup :=
  List.Nodup.of_map _ h.ids_nodup

theorem GraphInv.mem_tents (h : GraphInv db g) (he : e ∈ g.plist ++ g.nodeList) :
    e ∈ g.tents :=
  h.lists_perm.subset he

theorem GraphInv.not_mem_nodeList (h : GraphInv db g) (he : e ∈ g.plist) :
    e ∉ g.nodeList :=
  List.disjoint_of_nodup_append (h.lists_perm.nodup_iff.mpr h.tents_nodup) he

theorem GraphInv.mem_tents_of_ids (h : GraphInv db g) (he : e ∈ db.nodes)
    (hid : e.tupid ∈ g.ids) : e ∈ g.tents := by
  obtain ⟨e', he', hid'⟩ := mem_ids_iff.mp hid
  rwa [← db.eq_of_tupid_eq (h.tents_mem e' he') he hid']

theorem GraphInv.pushNode (h : GraphInv db g) (hid : tent.tupid ∉ g.ids)
    (hdb : tent ∈ db.nodes) : GraphInv db (pushNode g tent) where
  expanded := by
    simp only [Tup.pushNode, List.mem_append, List.mem_singleton]
    rintro n (hn | rfl)
    exacts [h.expanded n hn, rfl]
  ids_nodup := by simpa [List.nodup_append, hid] using h.ids_nodup
  tents_mem := by
    simp only [pushNode_tents, List.mem_append, List.mem_singleton]
    rintro e (he | rfl)
    exacts [h.tents_mem e he, hdb]
  lists_perm := by
    simpa using (h.lists_perm.cons tent).trans (List.perm_append_singleton tent g.tents).symm

theorem expandNode_createNode (h : GraphInv db g) (hid : tent.tupid ∉ g.ids) :
    expandNode (createNode g tent).1 (createNode g tent).2 = pushNode g tent := by
  have htree : ∀ n ∈ g.tree, n.tent.tupid ≠ tent.tupid := fun n hn heq =>
    hid (mem_ids_iff.mpr ⟨n.tent, List.mem_map_of_mem _ hn, heq⟩)
  have hlist : tent ∉ g.nodeList := fun hl =>
    hid (List.mem_map_of_mem _ (h.mem_tents (List.mem_append_right _ hl)))
  have hmap : g.tree.map (fun m =>
      if m.tent.tupid = tent.tupid then { m with expanded := true } else m) = g.tree :=
    (List.map_congr_left fun n hn => if_neg (htree n hn)).trans (List.map_id' _)
  simp only [expandNode, createNode, Tup.pushNode, List.map_append, List.map_cons,
    List.map_nil, if_true, hmap, List.erase_append_right _ hlist, List.erase_cons_head,
    List.append_nil]

theorem graphCbNode_eq (h : GraphInv db g) (tent : TupEntry) :
    graphCbNode g tent =
      edgeFromCur (if tent.tupid ∈ g.ids then g else pushNode g tent) tent := by
  unfold graphCbNode
  cases hf : findNode g tent.tupid with
  | some n =>
    obtain ⟨hn, hid⟩ := findNode_some hf
    simp only [h.expanded n hn, if_true, findNode_some_mem hf, edgeFromCur_congr hid]
  | none =>
    have hid := findNode_none.mp hf
    simp only [createNode_snd, Bool.false_eq_true, if_false, hid, ← expandNode_createNode h hid]

theorem addTarget_eq (h : GraphInv db g) (tent : TupEntry) :
    addTarget g tent = if tent.tupid ∈ g.ids then g else pushNode g tent := by
  unfold addTarget
  cases hf : findNode g tent.tupid with
  | some n => simp only [findNode_some_mem hf, if_true]
  | none => simp [findNode_none.mp hf, expandNode_createNode h (findNode_none.mp hf)]

theorem addTarget_spec (hg : GraphInv db g) (hdb : tent ∈ db.nodes) :
    GraphInv db (addTarget g tent) ∧ (addTarget g tent).nodeList = g.nodeList ∧
    (addTarget g tent).cur = g.cur ∧ (addTarget g tent).edges = g.edges ∧
    ∀ e, e ∈ (addTarget g tent).tents ↔ e ∈ g.tents ∨ e = tent := by
  rw [addTarget_eq hg]
  by_cases hid : tent.tupid ∈ g.ids
  · rw [if_pos hid]
    exact ⟨hg, rfl, rfl, rfl, fun e => ⟨.inl, fun he => he.elim id fun he =>
      he ▸ hg.mem_tents_of_ids hdb hid⟩⟩
  · rw [if_neg hid]
    exact ⟨hg.pushNode hid hdb, rfl, rfl, rfl, by simp⟩

theorem ids_subset (h : ∀ e ∈ g.tents, e ∈ g'.tents) : ∀ t ∈ g.ids, t ∈ g'.ids :=
  List.map_subset _ h

end Lemmas

/-- What a callback run over the entries `l` did to `g`, for the filter `q` it applies:
the node set grew by the admitted entries of `l`, and by nothing else, and an edge from
`cur` went to each admitted entry. -/
structure Grows (db : Db) (q : TupEntry → Bool) (l : List TupEntry) (g g' : Graph) :
    Prop where
  inv : GraphInv db g'
  cur : g'.cur = g.cur
  nodeList : g'.nodeList = g.nodeList
  mono : ∀ e ∈ g.tents, e ∈ g'.tents
  adds : ∀ e ∈ l, q e = true → e.tupid ∈ g'.ids
  only : ∀ e ∈ g'.tents, e ∈ g.tents ∨ (e ∈ l ∧ q e = true)
  edges : g'.edges = g.edges ++ curEdges g.cur (l.filter q)

section Folds

variable {db : Db} {q : TupEntry → Bool} {g g₁ g₂ : Graph} {l l₁ l₂ : List TupEntry}

theorem Grows.nil (h : GraphInv db g) : Grows db q [] g g :=
  ⟨h, rfl, rfl, fun _ he => he, by simp, fun _ he => .inl he, by simp⟩

theorem Grows.single {e : TupEntry} (h : GraphInv db g) (he : e ∈ db.nodes) :
    Grows db q [e] g (if q e then graphCbNode g e else g) := by
  cases hq : q e with
  | false =>
    simp only [Bool.false_eq_true, if_false]
    exact ⟨h, rfl, rfl, fun _ he => he, by simp [hq], fun _ he => .inl he, by simp [hq]⟩
  | true =>
    rw [if_pos rfl, graphCbNode_eq h]
    by_cases hid : e.tupid ∈ g.ids
    · simp only [hid, if_true]
      exact ⟨h.of_lists (by simp) (by simp) (by simp), by simp, by simp, by simp,
        by simp [hid], fun e' he' => .inl (by simpa using he'), by simp [hq]⟩
    · simp only [hid, if_false]
      refine ⟨(h.pushNode hid he).of_lists (by simp) (by simp) (by simp), by simp, by simp,
        by simp +contextual, by simp [hq], fun e' he' => ?_, by simp [hq]⟩
      rcases (by simpa using he' : e' ∈ g.tents ∨ e' = e) with he' | rfl
      · exact .inl he'
      · exact .inr ⟨List.mem_singleton_self _, hq⟩

theorem Grows.trans (h₁ : Grows db q l₁ g g₁) (h₂ : Grows db q l₂ g₁ g₂) :
    Grows db q (l₁ ++ l₂) g g₂ where
  inv := h₂.inv
  cur := h₂.cur.trans h₁.cur
  nodeList := h₂.nodeList.trans h₁.nodeList
  mono e he := h₂.mono e (h₁.mono e he)
  adds e he hq := (List.mem_append.mp he).elim
    (fun he => ids_subset h₂.mono _ (h₁.adds e he hq)) (fun he => h₂.adds e he hq)
  only e he := (h₂.only e he).elim
    (fun he => (h₁.only e he).imp_right fun ⟨hl, hq⟩ => ⟨List.mem_append_left _ hl, hq⟩)
    (fun ⟨hl, hq⟩ => .inr ⟨List.mem_append_right _ hl, hq⟩)
  edges := by rw [h₂.edges, h₁.edges, h₁.cur, List.filter_append, curEdges_append,
    List.append_assoc]

theorem Grows.mem_plist {e : TupEntry} (hg : Grows db q l g g₁) (h : GraphInv db g)
    (he : e ∈ g.plist) : e ∈ g₁.plist := by
  have hin := hg.inv.lists_perm.symm.subset
    (hg.mono _ (h.mem_tents (List.mem_append_left _ he)))
  rw [hg.nodeList] at hin
  exact (List.mem_append.mp hin).resolve_right (h.not_mem_nodeList he)

theorem foldl_grows {cb : Graph → TupEntry → Graph}
    (hcb : ∀ g' e, g'.cur = g.cur → cb g' e = if q e then graphCbNode g' e else g')
    (h : GraphInv db g) (hl : ∀ e ∈ l, e ∈ db.nodes) : Grows db q l g (l.foldl cb g) := by
  induction l generalizing g with
  | nil => exact Grows.nil h
  | cons e l ih =>
    have h₁ : Grows db q [e] g (cb g e) :=
      hcb g e rfl ▸ Grows.single h (hl e (List.mem_cons_self _ _))
    exact h₁.trans (ih (fun g' e hc => hcb g' e (hc.trans h₁.cur)) h₁.inv
      fun e he => hl e (List.mem_cons_of_mem _ he))

end Folds

end Tup
