import Tup.Main

/-! The commands that make and test links and nodes for tup's test and benchmark suites.
`tup normal_exists` and `tup sticky_exists`: link_exists looks up two nodes, each by
directory and name, and asks the store whether a link of its style joins them; main turns
a present link into exit status 11, so that it stays apart from the 1 of a failure.
`tup link`: mlink creates a command and links files of the top directory to and from it.
`tup node_exists`: node_exists looks names up in one directory. -/
namespace Tup

inductive LinkStyle
  | normal | sticky
  deriving DecidableEq, Repr

/-- What link_exists's calls return. `findDir` is find_dir_tupid (`none` for a negative
dt); `selectTent` is tup_entry_add then tup_db_select_tent (`none` when either fails,
`some none` when there is no such node); `linkExists` is tup_db_link_exists. -/
structure LinkStore where
  begin : Bool
  findDir : String → Option Int
  selectTent : Int → String → Option (Option Int)
  linkExists : Int → Int → LinkStyle → Option Bool
  commit : Bool

def linkEnd (st : LinkStore) (dir name : String) : Except (List Line) Int :=
  match st.findDir dir with
  | none => .error [.err s!"\x1b[31mError: dir '{dir}' doesn't exist.\x1b[0m"]
  | some dt =>
    match st.selectTent dt name with
    | none => .error []
    | some none => .error [.err s!"\x1b[31mError: node '{name}' doesn't exist.\x1b[0m"]
    | some (some tupid) => .ok tupid

def linkStyle (cmd : String) : Option LinkStyle :=
  if cmd = "normal_exists" then some .normal
  else if cmd = "sticky_exists" then some .sticky
  else none

/-- link_exists: its return value and what it prints. With other than four arguments it
names `argv[0]`, which is NULL when there is no argument; no line is modelled then. -/
def linkExists (st : LinkStore) (cmd : String) (argv : List String) : Int × List Line :=
  if !st.begin then (-1, []) else
  match argv with
  | [dira, namea, dirb, nameb] =>
    match linkStyle cmd with
    | none => (-1, [.err s!"\x1b[31mError: link_exists called with unknown style: {cmd}"])
    | some style =>
      match linkEnd st dira namea with
      | .error lines => (-1, lines)
      | .ok a =>
        match linkEnd st dirb nameb with
        | .error lines => (-1, lines)
        | .ok b =>
          match st.linkExists a b style with
          | none => (-1, [])
          | some present => if st.commit then (if present then 1 else 0, []) else (-1, [])
  | _ => (-1, argv.head?.toList.map fun a => .err s!"tup error: {a} requires two dir/name pairs.")

theorem linkExists_status (st : LinkStore) (cmd : String) (argv : List String) :
    (linkExists st cmd argv).1 = -1 ∨ (linkExists st cmd argv).1 = 0 ∨
      (linkExists st cmd argv).1 = 1 := by
  unfold linkExists
  repeat' split
  all_goals simp

theorem linkCommands_spec {env : MainEnv} {cmd : String}
    (hcmd : cmd = "normal_exists" ∨ cmd = "sticky_exists") (hini : env.processIni = 0)
    (args orig : List String) :
    cmd.front ≠ '-' ∧ cmd ≠ "varsed" ∧ mainEarly env cmd args = none ∧
    mainDispatch env cmd args orig = some (if env.run (.linkExists cmd) args = 1 then 11
      else env.run (.linkExists cmd) args, false) := by
  rcases hcmd with rfl | rfl <;>
    exact ⟨by decide, by decide, by simp [mainEarly, hini], by simp [mainDispatch]⟩

def gccLinks : LinkStore where
  begin := true
  findDir d := if d = "." then some 1 else none
  selectTent dt name :=
    if dt = 1 ∧ name = "a.c" then some (some 2)
    else if dt = 1 ∧ name = "gcc a.c" then some (some 3) else some none
  linkExists a b style := some (decide (a = 2 ∧ b = 3 ∧ style = .normal))
  commit := true

def gccEnv : MainEnv :=
  { foundTupEnv with
    run := fun c args => match c with
      | .linkExists cmd => (linkExists gccLinks cmd args).1
      | _ => 0 }

example : main gccEnv ["tup", "normal_exists", ".", "a.c", ".", "gcc a.c"] = 11 := by decide

example : main gccEnv ["tup", "normal_exists", ".", "gcc a.c", ".", "a.c"] = 0 := by decide

/-- What mlink's calls return: tup_db_begin and tup_entry_add of the top directory, the id
create_command_file gives the command string, tup_db_select_tent in the top directory
(`none` when it fails, `some none` when there is no such node), tup_db_create_link and
tup_db_commit. -/
structure MlinkStore where
  begin : Bool
  rootTent : Bool
  createCommand : String → Int
  selectTent : String → Option (Option Int)
  createLink : Int → Int → Bool
  commit : Bool

def mlinkArg (name : String) : Option (Bool × String) :=
  match name.toList with
  | '-' :: 'i' :: file => some (false, String.mk file)
  | '-' :: 'o' :: file => some (true, String.mk file)
  | _ => none

def mlinkStep (st : MlinkStore) (cmdid : Int) (name : String) :
    Except (Int × List Line) (Int × Int) :=
  match mlinkArg name with
  | none => .error (1, [.err s!"Invalid argument: '{name}'"])
  | some (out, file) =>
    match st.selectTent file with
    | none => .error (-1, [])
    | some none => .error (1, [])
    | some (some tupid) =>
      if out then
        if st.createLink cmdid tupid then .ok (cmdid, tupid) else .error (-1, [])
      else if st.createLink tupid cmdid then .ok (tupid, cmdid) else .error (-1, [])

def mlinkLoop (st : MlinkStore) (cmdid : Int) :
    List String → Except (Int × List Line) (List (Int × Int))
  | [] => .ok []
  | name :: rest =>
    match mlinkStep st cmdid name with
    | .error e => .error e
    | .ok link =>
      match mlinkLoop st cmdid rest with
      | .error e => .error e
      | .ok links => .ok (link :: links)

def mlink (st : MlinkStore) (argv : List String) : Int × List Line × List (Int × Int) :=
  match argv with
  | _ :: cmd :: names@(_ :: _ :: _) =>
    if !st.begin || !st.rootTent then (-1, [], []) else
    let cmdid := st.createCommand cmd
    if cmdid < 0 then (-1, [], []) else
    match mlinkLoop st cmdid names with
    | .error (rc, out) => (rc, out, [])
    | .ok links => if st.commit then (0, [], links) else (-1, [], [])
  | _ => (1, argv.head?.toList.map fun a => .err s!"Usage: {a} cmd -iread_file -owrite_file", [])

/-- What the usage line asks of an argument after the command string: `-i<file>` links the
node `file` of the top directory to the command, `-o<file>` the command to it. -/
inductive ArgLink (st : MlinkStore) (cmdid : Int) : String → Int × Int → Prop
  | input {file : String} {tupid : Int} : st.selectTent file = some (some tupid) →
      ArgLink st cmdid ("-i" ++ file) (tupid, cmdid)
  | output {file : String} {tupid : Int} : st.selectTent file = some (some tupid) →
      ArgLink st cmdid ("-o" ++ file) (cmdid, tupid)

theorem mlinkArg_eq_some {name file : String} {out : Bool} :
    mlinkArg name = some (out, file) ↔ name = (if out then "-o" else "-i") ++ file := by
  rcases name with ⟨cs⟩
  rcases file with ⟨fs⟩
  simp only [mlinkArg, String.toList]
  split <;> cases out <;> simp_all [String.ext_iff]

example : mlinkArg "-" = none := by decide

theorem mlinkStep_eq_ok {st : MlinkStore} {cmdid : Int} {name : String} {l : Int × Int} :
    mlinkStep st cmdid name = .ok l ↔ ArgLink st cmdid name l ∧ st.createLink l.1 l.2 = true := by
  constructor
  · intro h
    unfold mlinkStep at h
    rcases hp : mlinkArg name with _ | ⟨out, file⟩ <;> simp only [hp] at h
    · cases h
    rcases hs : st.selectTent file with _ | _ | tupid <;> simp only [hs] at h
    iterate 2 cases h
    rw [mlinkArg_eq_some.mp hp]
    cases out <;> simp only [Bool.false_eq_true, if_true, if_false] at h <;> split at h <;> cases h
    exacts [⟨.input hs, ‹_›⟩, ⟨.output hs, ‹_›⟩]
  · rintro ⟨@⟨file, tupid, hs⟩ | @⟨file, tupid, hs⟩, hc⟩
    · have hp : mlinkArg ("-i" ++ file) = some (false, file) := mlinkArg_eq_some.mpr rfl
      simp only [mlinkStep, hp, hs, Bool.false_eq_true, if_false, if_pos hc]
    · have hp : mlinkArg ("-o" ++ file) = some (true, file) := mlinkArg_eq_some.mpr rfl
      simp only [mlinkStep, hp, hs, if_true, if_pos hc]

theorem mlinkStep_error {st : MlinkStore} {cmdid : Int} {name : String} {rc : Int}
    {out : List Line} (h : mlinkStep st cmdid name = .error (rc, out)) : rc = 1 ∨ rc = -1 := by
  unfold mlinkStep at h
  repeat' split at h
  all_goals cases h <;> simp

theorem mlinkLoop_eq_ok {st : MlinkStore} {cmdid : Int} {names : List String}
    {links : List (Int × Int)} :
    mlinkLoop st cmdid names = .ok links ↔ List.Forall₂ (ArgLink st cmdid) names links ∧
      ∀ l ∈ links, st.createLink l.1 l.2 = true := by
  induction names generalizing links with
  | nil => cases links <;> simp [mlinkLoop]
  | cons name rest ih =>
    rw [mlinkLoop]
    constructor
    · intro h
      rcases hs : mlinkStep st cmdid name with e | l <;>
        rcases hr : mlinkLoop st cmdid rest with e' | links' <;> simp [hs, hr] at h
      subst h
      obtain ⟨ha, hc⟩ := mlinkStep_eq_ok.mp hs
      obtain ⟨h₁, h₂⟩ := ih.mp hr
      exact ⟨.cons ha h₁, List.forall_mem_cons.mpr ⟨hc, h₂⟩⟩
    · rintro ⟨h, h₂⟩
      obtain ⟨l, links', hl, h₁, rfl⟩ := List.forall₂_cons_left_iff.mp h
      rw [List.forall_mem_cons] at h₂
      rw [mlinkStep_eq_ok.mpr ⟨hl, h₂.1⟩, ih.mpr ⟨h₁, h₂.2⟩]

theorem mlinkLoop_error {st : MlinkStore} {cmdid : Int} {names : List String} {rc : Int}
    {out : List Line} (h : mlinkLoop st cmdid names = .error (rc, out)) : rc = 1 ∨ rc = -1 := by
  induction names with
  | nil => cases h
  | cons name rest ih =>
    rw [mlinkLoop] at h
    rcases hs : mlinkStep st cmdid name with e | l <;>
      rcases hr : mlinkLoop st cmdid rest with e' | links' <;> simp [hs, hr] at h
    all_goals subst h
    exacts [mlinkStep_error hs, mlinkStep_error hs, ih hr]

/-- mlink succeeds exactly when it has two or more arguments after the command string, each
`-i<file>` or `-o<file>` with `file` in the top directory, and every call succeeds; it then
commits one link per argument, in order. The first argument plays no part. -/
theorem mlink_eq_zero_iff {st : MlinkStore} {x cmd : String} {names : List String} :
    (mlink st (x :: cmd :: names)).1 = 0 ↔ 2 ≤ names.length ∧
      st.begin = true ∧ st.rootTent = true ∧ 0 ≤ st.createCommand cmd ∧ st.commit = true ∧
      List.Forall₂ (ArgLink st (st.createCommand cmd)) names (mlink st (x :: cmd :: names)).2.2 ∧
      ∀ l ∈ (mlink st (x :: cmd :: names)).2.2, st.createLink l.1 l.2 = true := by
  rcases names with _ | ⟨n₁, _ | ⟨n₂, names⟩⟩
  · simp [mlink]
  · simp [mlink]
  rcases hl : mlinkLoop st (st.createCommand cmd) (n₁ :: n₂ :: names) with ⟨rc, out⟩ | links
  · have hrc := mlinkLoop_error hl
    simp only [mlink, hl]
    split_ifs <;> refine iff_of_false ?_ fun h => nomatch h.2.2.2.2.2.1
    all_goals dsimp only; omega
  · obtain ⟨h₁, h₂⟩ := mlinkLoop_eq_ok.mp hl
    by_cases hok : st.begin = true ∧ st.rootTent = true ∧ 0 ≤ st.createCommand cmd ∧
        st.commit = true
    · obtain ⟨hb, hr, hc, hcm⟩ := hok
      have hm : mlink st (x :: cmd :: n₁ :: n₂ :: names) = (0, [], links) := by
        simp [mlink, hl, hb, hr, hc, hcm]
      rw [hm]
      exact iff_of_true rfl ⟨by simp, hb, hr, hc, hcm, h₁, h₂⟩
    · refine iff_of_false (fun h0 => hok ?_) fun h => hok ⟨h.2.1, h.2.2.1, h.2.2.2.1, h.2.2.2.2.1⟩
      simp only [mlink, hl] at h0
      split_ifs at h0 with hb hc hcm <;> simp at h0
      simp only [Bool.or_eq_true, Bool.not_eq_true', not_or, Bool.not_eq_false] at hb
      exact ⟨hb.1, hb.2, not_lt.mp hc, hcm⟩

def benchStore : MlinkStore where
  begin := true
  rootTent := true
  createCommand _ := 3
  selectTent f := if f = "a.c" then some (some 1) else if f = "a.o" then some (some 2) else some none
  createLink _ _ := true
  commit := true

example : mlink benchStore ["x", "gcc", "-ia.c", "-oa.o"] = (0, [], [(1, 3), (3, 2)]) := by
  decide

/-- path_sep's translation in node_exists: each '/' becomes `sep` unless the character
before it, as already translated, is a '.', so that "./foo" stays as it is. -/
def translateSeps (sep : Char) : Option Char → List Char → List Char
  | _, [] => []
  | prev, c :: cs =>
    let c' := if c = '/' ∧ prev ≠ some '.' then sep else c
    c' :: translateSeps sep (some c') cs

example : translateSeps '\\' none "./a/b".toList = "./a\\b".toList := by decide

def nodeFound (st : LinkStore) (sep : Char) (dt : Int) (name : String) : Option Bool :=
  match st.selectTent dt name with
  | none => none
  | some (some _) => some true
  | some none =>
    (st.selectTent dt (String.mk (translateSeps sep none name.toList))).map Option.isSome

/-- node_exists with `path_sep` as `sep`: its return value and what it prints. `argv[0]` is
the directory and the names after it are looked up in it; it returns at the first one it
does not find, and prints nothing then. It takes fewer than two arguments for a usage
error, although its usage line marks every name as optional. -/
def nodeExists (st : LinkStore) (sep : Char) (argv : List String) : Int × List Line :=
  if !st.begin then (-1, []) else
  match argv with
  | dir :: name :: names =>
    match st.findDir dir with
    | none => (-1, [])
    | some dt =>
      if (name :: names).all (fun name => nodeFound st sep dt name = some true) && st.commit
      then (0, [])
      else (-1, [])
  | _ => (-1, [.err "Usage: node_exists dir [n1] [n2...]"])

@[simp] theorem translateSeps_slash (prev : Option Char) (cs : List Char) :
    translateSeps '/' prev cs = cs := by
  induction cs generalizing prev with
  | nil => rfl
  | cons c cs ih =>
    have hc : (if c = '/' ∧ prev ≠ some '.' then '/' else c) = c := by
      split_ifs with h
      exacts [h.1.symm, rfl]
    simp only [translateSeps, hc, ih]

theorem nodeFound_slash {st : LinkStore} {dt : Int} {name : String} :
    nodeFound st '/' dt name = some true ↔ ∃ t, st.selectTent dt name = some (some t) := by
  unfold nodeFound
  rcases hs : st.selectTent dt name with _ | _ | t <;> simp [hs]

/-- On a system whose separator is '/', node_exists's second lookup asks the first question
again: node_exists succeeds exactly when every name after the directory is found as given,
and every call around the lookups succeeds. -/
theorem nodeExists_posix {st : LinkStore} {argv : List String} :
    (nodeExists st '/' argv).1 = 0 ↔ st.begin = true ∧ st.commit = true ∧
      ∃ dir names dt, argv = dir :: names ∧ names ≠ [] ∧ st.findDir dir = some dt ∧
        ∀ name ∈ names, ∃ t, st.selectTent dt name = some (some t) := by
  unfold nodeExists
  cases hb : st.begin
  · exact iff_of_false (by simp) fun h => Bool.false_ne_true h.1
  rcases argv with _ | ⟨dir, _ | ⟨name, names⟩⟩
  · exact iff_of_false (by simp) fun ⟨_, _, _, _, _, he, _⟩ => List.cons_ne_nil _ _ he.symm
  · refine iff_of_false (by simp) fun ⟨_, _, _, _, _, he, hne, _⟩ => hne ?_
    exact (List.cons.inj he).2.symm
  rcases hd : st.findDir dir with _ | dt
  · refine iff_of_false (by simp [hd]) ?_
    rintro ⟨-, -, _, _, _, he, -, hd', -⟩
    obtain ⟨rfl, rfl⟩ := List.cons.inj he
    exact Option.some_ne_none _ (hd'.symm.trans hd)
  simp only [Bool.not_true, Bool.false_eq_true, if_false, hd]
  split_ifs with h <;>
    simp only [Bool.and_eq_true, List.all_eq_true, decide_eq_true_eq, nodeFound_slash] at h
  · exact iff_of_true rfl ⟨trivial, h.2, dir, _, dt, rfl, List.cons_ne_nil _ _, hd, h.1⟩
  · refine iff_of_false (by decide) ?_
    rintro ⟨-, hc, _, _, _, he, -, hd', hn⟩
    obtain ⟨rfl, rfl⟩ := List.cons.inj he
    exact h ⟨Option.some.inj (hd.symm.trans hd') ▸ hn, hc⟩

example : nodeExists gccLinks '/' ["."] = (-1, [.err "Usage: node_exists dir [n1] [n2...]"]) := by
  decide

end Tup
