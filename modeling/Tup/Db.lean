import Mathlib.Data.List.Nodup

/-! The slice of tup's database that the secondary commands read: node entries, the
queries that enumerate them, and the invariants a store keeps. Each query returns
entries of the node table, so a store is finite and an entry is named by its id. The
commands' output is a list of lines on stdout and stderr. -/
namespace Tup

/-- Modelled from the spec: the node types of section 3.1 (`enum TUP_NODE_TYPE` of
db_types.h is not among the sources; only the names it compares are used). -/
inductive NodeType
  | file | dir | cmd | generated | generatedDir | ghost | var | group
  deriving DecidableEq, Repr

/-- Modelled from the spec: the five flag sets of section 3.3 (`TUP_FLAGS_*`). -/
inductive Flag
  | create | modify | config | variant | transient
  deriving DecidableEq, Repr

/-- The fields of `struct tup_entry` the commands read: `tnode.tupid`, `dt`, `type`
and `name.s`. -/
structure TupEntry where
  tupid : Int
  dt : Int
  type : NodeType
  name : String
  deriving DecidableEq, Repr

inductive Line
  | out (s : String)
  | err (s : String)
  deriving DecidableEq, Repr

/-- `TUP_CONFIG` of db.h. -/
def tupConfig : String := "tup.config"

/-- The store as graph() sees it. Each query is the enumeration its callback is run
over, in whatever order the store yields it; `getTentDt` is `get_tent_dt` from the
invocation directory. -/
structure Db where
  nodes : List TupEntry
  envDt : Int
  selectNodeByLink : Int → List TupEntry
  selectNodeByDistinctGroupLink : Int → List TupEntry
  selectNodeDir : Int → List TupEntry
  selectNodeByFlags : Flag → List TupEntry
  getTentDt : String → Option TupEntry
  nodes_nodup : (nodes.map TupEntry.tupid).Nodup
  link_mem : ∀ t, ∀ e ∈ selectNodeByLink t, e ∈ nodes
  group_mem : ∀ t, ∀ e ∈ selectNodeByDistinctGroupLink t, e ∈ nodes
  dir_mem : ∀ t, ∀ e ∈ selectNodeDir t, e ∈ nodes
  flags_mem : ∀ f, ∀ e ∈ selectNodeByFlags f, e ∈ nodes
  tent_mem : ∀ s e, getTentDt s = some e → e ∈ nodes

theorem Db.eq_of_tupid_eq (db : Db) {e e' : TupEntry} (he : e ∈ db.nodes)
    (he' : e' ∈ db.nodes) (h : e.tupid = e'.tupid) : e = e' :=
  List.inj_on_of_nodup_map db.nodes_nodup he he' h

end Tup
