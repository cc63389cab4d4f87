import Tup.Db
import Mathlib.Data.List.Basic

/-! `tup varshow`: the variables of the top-level tup.config variant, either the whole
vardb or the variables named on the command line. -/
namespace Tup

structure VarEntry where
  var : String
  value : String
  type : NodeType
  deriving DecidableEq, Repr

/-- What varshow gets back from the store, call by call; `none` is a failed call.
`typeCode` is the value of `enum TUP_NODE_TYPE` (db_types.h is not among the sources). -/
structure VarStore where
  begin : Bool
  rootTent : Bool
  vartent : Option (Option TupEntry)
  variantAdd : Bool
  vdb : Option (List VarEntry)
  getVar : String → Option TupEntry
  vardbGet : String → Option VarEntry
  commit : Bool
  typeCode : NodeType → Int

/-- varshow_vdb: a line per entry, in the order of the vardb. `color1` and `color2` are
set at a ghost and never set back. -/
def varshowVdb (vdb : List VarEntry) : List Line :=
  go "" "" vdb
where
  go (color1 color2 : String) : List VarEntry → List Line
    | [] => []
    | ve :: rest =>
      let color1 := if ve.type = .ghost then "\x1b[47;30m" else color1
      let color2 := if ve.type = .ghost then "\x1b[0m" else color2
      .out s!" - Var[{color1}{ve.var}{color2}] = '{ve.value}'" :: go color1 color2 rest

def varshowVar (st : VarStore) (name : String) : Line :=
  match st.getVar name with
  | none => .err s!"Unable to find tupid for variable '{name}'"
  | some tent =>
    if tent.type = .var then
      match st.vardbGet name with
      | none => .err s!"Unable to find vdb entry for variable '{name}'"
      | some ve => .out s!" - Var[{name}] = '{ve.value}'"
    else if tent.type = .ghost then .out s!" - Var[\x1b[47;30m{name}\x1b[0m] is a ghost"
    else .err ("Variable '" ++ name ++ "' has unknown type " ++ toString (st.typeCode tent.type))

def varshow (st : VarStore) (argv : List String) : Int × List Line :=
  if !st.begin || !st.rootTent then (-1, []) else
  match st.vartent with
  | none => (-1, [])
  | some vartent =>
    if !st.variantAdd then (-1, []) else
    let body : Option (List Line) := match vartent with
      | none => some []
      | some _ => if argv.length = 1 then st.vdb.map varshowVdb
          else some (argv.map (varshowVar st))
    match body with
    | none => (-1, [])
    | some lines => (if st.commit then 0 else -1, lines)

def ghostColor1 (highlight : Bool) : String := if highlight then "\x1b[47;30m" else ""

def ghostColor2 (highlight : Bool) : String := if highlight then "\x1b[0m" else ""

def varLine (highlight : Bool) (ve : VarEntry) : Line :=
  .out s!" - Var[{ghostColor1 highlight}{ve.var}{ghostColor2 highlight}] = '{ve.value}'"

theorem varshowVdb_go_eq (highlight : Bool) (vdb : List VarEntry) :
    varshowVdb.go (ghostColor1 highlight) (ghostColor2 highlight) vdb =
      vdb.mapIdx fun i ve =>
        varLine (highlight || (vdb.take (i + 1)).any fun e => e.type = .ghost) ve := by
  induction vdb generalizing highlight with
  | nil => rfl
  | cons ve rest ih =>
    have h1 : (if ve.type = .ghost then "\x1b[47;30m" else ghostColor1 highlight) =
        ghostColor1 (highlight || decide (ve.type = .ghost)) := by
      by_cases hg : ve.type = .ghost <;> simp [hg, ghostColor1]
    have h2 : (if ve.type = .ghost then "\x1b[0m" else ghostColor2 highlight) =
        ghostColor2 (highlight || decide (ve.type = .ghost)) := by
      by_cases hg : ve.type = .ghost <;> simp [hg, ghostColor2]
    simp only [varshowVdb.go, h1, h2, ih, List.mapIdx_cons, List.take_succ_cons,
      List.any_cons, List.take_zero, List.any_nil, Bool.or_false, Bool.or_assoc]
    rfl

/-- varshow_vdb prints a line per entry, and the `i`th is highlighted exactly when one of
the first `i + 1` entries is a ghost. -/
theorem varshowVdb_eq (vdb : List VarEntry) :
    varshowVdb vdb = vdb.mapIdx fun i ve =>
      varLine ((vdb.take (i + 1)).any fun e => e.type = .ghost) ve := by
  simpa using varshowVdb_go_eq false vdb

theorem varshow_ok {st : VarStore} {vartent : TupEntry} {vdb : List VarEntry}
    (hb : st.begin = true) (hr : st.rootTent = true) (ht : st.vartent = some (some vartent))
    (hv : st.variantAdd = true) (hd : st.vdb = some vdb) (hc : st.commit = true)
    (argv : List String) :
    varshow st argv =
      (0, if argv.length = 1 then varshowVdb vdb else argv.map (varshowVar st)) := by
  by_cases h1 : argv.length = 1 <;> simp [varshow, hb, hr, ht, hv, hd, hc, h1]

def ghostFirstStore : VarStore where
  begin := true
  rootTent := true
  vartent := some (some ⟨7, 1, .file, "tup.config"⟩)
  variantAdd := true
  vdb := some [⟨"A", "", .ghost⟩, ⟨"B", "1", .var⟩]
  getVar name := if name = "A" then some ⟨8, 7, .ghost, "A"⟩
    else if name = "B" then some ⟨9, 7, .var, "B"⟩ else none
  vardbGet name := if name = "B" then some ⟨"B", "1", .var⟩ else none
  commit := true
  typeCode _ := 0

/-- `tup varshow` prints nothing, and `tup varshow B` prints the whole vardb, with `B`
highlighted as a ghost after the ghost `A`. -/
theorem varshow_ghostFirst :
    varshow ghostFirstStore [] = (0, []) ∧
    varshow ghostFirstStore ["B"] = (0, [.out " - Var[\x1b[47;30mA\x1b[0m] = ''",
      .out " - Var[\x1b[47;30mB\x1b[0m] = '1'"]) := by
  decide

end Tup
