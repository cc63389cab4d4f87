import Tup.Db

/-! main: how tup picks its secondary command, the calls it makes for it, and the exit
status it returns. Each call into the rest of tup is given by the value it returns. -/
namespace Tup

inductive Call
  | named (f : String)
  | updater (phase : Int)
  | linkExists (cmd : String)
  | checkFlags (flags : List Flag)
  | tupScan
  deriving DecidableEq, Repr

/-- What the calls main makes return. `unshare` is whether `unshare(CLONE_NEWUSER)`
succeeds, `vardict` whether `TUP_VARDICT_NAME` is set, and `monitorPid` the pid
monitor_get_pid finds, `none` when it fails. -/
structure MainEnv where
  dropPrivs : Int
  varsed : List String → Int
  vardict : Bool
  initCommand : List String → Int
  generate : List String → Int
  unshare : Bool
  privileged : Int
  processIni : Int
  findTupDir : Int
  openTupTop : Int
  stopMonitor : Int
  waitmon : Int
  tupInit : Int
  monitorPid : Option Int
  run : Call → List String → Int
  dbBegin : Int
  configSetInt : Int
  dbCommit : Int
  cleanup : Int

def findCmd : List String → Option (String × List String)
  | [] => none
  | arg :: rest => if arg.front = '-' then findCmd rest else some (arg, rest)

def mainDispatch (env : MainEnv) (cmd : String) (args orig : List String) :
    Option (Int × Bool) :=
  if cmd ∈ ["monitor", "entry", "type", "tupid", "inputs", "graph", "compiledb",
      "commandline"] then some (env.run (.named cmd) args, false)
  else if cmd = "scan" then
    match env.monitorPid with
    | none => none
    | some pid => some (if pid > 0 then 1 else env.run .tupScan args, false)
  else if cmd = "link" then some (env.run (.named "mlink") args, false)
  else if cmd = "read" then some (env.run (.updater 1) args, false)
  else if cmd = "parse" then some (env.run (.updater 2) args, false)
  else if cmd = "upd" then some (env.run (.updater 0) args, false)
  else if cmd = "refactor" ∨ cmd = "ref" then some (env.run (.updater (-2)) args, false)
  else if cmd = "autoupdate" then some (env.run (.updater 0) args, true)
  else if cmd = "autoparse" then some (env.run (.updater 2) args, true)
  else if cmd ∈ ["todo", "variant", "node_exists"] then some (env.run (.named cmd) args, false)
  else if cmd = "normal_exists" ∨ cmd = "sticky_exists" then
    let rc := env.run (.linkExists cmd) args
    some (if rc = 1 then 11 else rc, false)
  else if cmd = "flags_exists" then
    some (env.run (.checkFlags [.config, .create, .modify, .transient]) args, false)
  else if cmd = "create_flags_exists" then some (env.run (.checkFlags [.create]) args, false)
  else if cmd ∈ ["touch", "node", "varshow", "dbconfig", "options", "fake_mtime",
      "fake_parser_version", "flush", "ghost_check", "monitor_supported"] then
    some (env.run (.named cmd) args, false)
  else some (env.run (.updater 0) orig, false)

/-- The end of main: clearing the autoupdate pid when asked, tup_cleanup, and the
conversion of a negative status to 1. -/
def mainExit (env : MainEnv) (rc : Int) (clearAutoupdate : Bool) : Int :=
  if clearAutoupdate ∧ env.dbBegin < 0 then -1
  else
    let rc := if clearAutoupdate ∧ env.configSetInt < 0 then 1 else rc
    if clearAutoupdate ∧ env.dbCommit < 0 then -1
    else
      let rc := if env.cleanup < 0 then 1 else rc
      if rc < 0 then 1 else rc

def mainEarly (env : MainEnv) (cmd : String) (args : List String) : Option Int :=
  if cmd = "init" then some (if env.dropPrivs < 0 then 1 else env.initCommand args)
  else if cmd = "version" then some (if env.dropPrivs < 0 then 1 else 0)
  else if cmd = "generate" then some (if env.generate args < 0 then 1 else 0)
  else if cmd = "privileged" then some (if env.unshare then 1 else env.privileged)
  else if cmd = "server" then some 0
  else if env.processIni ≠ 0 then some 1
  else if cmd = "stop" then
    if env.dropPrivs < 0 then some 1
    else if env.findTupDir < 0 then some (-1)
    else if env.openTupTop < 0 then some (-1)
    else some env.stopMonitor
  else if cmd = "waitmon" then
    if env.dropPrivs < 0 then some 1
    else if env.findTupDir < 0 then some (-1)
    else if env.openTupTop < 0 then some (-1)
    else some (if env.waitmon < 0 then 1 else 0)
  else none

def main (env : MainEnv) (argv : List String) : Int :=
  let argv := argv.drop 1
  if argv.any (fun arg => arg = "-h" ∨ arg = "--help") then 0
  else
    let (cmd, args) := (findCmd argv).getD ("upd", argv)
    if args.head? = some "--version" ∨ args.head? = some "-v" then 0
    else if cmd = "varsed" then (if env.dropPrivs < 0 then 1 else env.varsed args)
    else if env.vardict then -1
    else match mainEarly env cmd args with
      | some rc => rc
      | none =>
        if env.tupInit < 0 then 1
        else match mainDispatch env cmd args argv with
          | none => -1
          | some (rc, clear) => mainExit env rc clear

theorem mainExit_neg_iff (env : MainEnv) (rc : Int) (clear : Bool) :
    mainExit env rc clear < 0 ↔ clear = true ∧ (env.dbBegin < 0 ∨ env.dbCommit < 0) := by
  unfold mainExit
  by_cases hb : clear = true ∧ env.dbBegin < 0
  · simp only [hb, and_self, if_true, true_and, true_or, iff_true]
    decide
  · simp only [hb, if_false]
    by_cases hc : clear = true ∧ env.dbCommit < 0
    · simp only [hc, and_self, if_true, true_and, or_true, iff_true]
      decide
    · have hr : ¬(clear = true ∧ (env.dbBegin < 0 ∨ env.dbCommit < 0)) :=
        fun ⟨h1, h2⟩ => h2.elim (fun h => hb ⟨h1, h⟩) fun h => hc ⟨h1, h⟩
      simp only [hc, hr, if_false, iff_false, not_lt]
      split_ifs <;> omega

section Nonneg

variable {env : MainEnv}

theorem mainExit_nonneg (hbegin : 0 ≤ env.dbBegin) (hcommit : 0 ≤ env.dbCommit) (rc : Int)
    (clear : Bool) : 0 ≤ mainExit env rc clear := by
  simp only [mainExit, not_lt.mpr hbegin, not_lt.mpr hcommit, and_false, if_false]
  split_ifs <;> omega

theorem mainEarly_nonneg (hinit : ∀ args, 0 ≤ env.initCommand args)
    (hpriv : 0 ≤ env.privileged)
    (hfind : 0 ≤ env.findTupDir) (hopen : 0 ≤ env.openTupTop) (hstop : 0 ≤ env.stopMonitor)
    {cmd : String} {args : List String} {rc : Int} (h : mainEarly env cmd args = some rc) :
    0 ≤ rc := by
  have := hinit args
  revert h
  unfold mainEarly
  repeat'
    refine iteInduction (motive := fun o => o = some rc → 0 ≤ rc) (fun _ => ?_) fun _ => ?_
  all_goals rintro ⟨⟩
  all_goals (try split_ifs) <;> omega

theorem mainDispatch_isSome (hpid : env.monitorPid.isSome) (cmd : String)
    (args orig : List String) : (mainDispatch env cmd args orig).isSome := by
  obtain ⟨pid, hp⟩ := Option.isSome_iff_exists.mp hpid
  unfold mainDispatch
  rw [hp]
  repeat'
    refine iteInduction (motive := fun o : Option (Int × Bool) => o.isSome = true)
      (fun _ => ?_) (fun _ => ?_)
    all_goals beta_reduce
  all_goals rfl

end Nonneg

/-- No call takes one of the paths on which main returns a status past the conversion at
its end: not run as a sub-process, the statuses passed on as they are non-negative, and
the .tup lookup, the monitor pid lookup and the autoupdate begin and commit succeed. -/
structure MainEnv.NoBypass (env : MainEnv) : Prop where
  vardict : env.vardict = false
  varsed : ∀ args, 0 ≤ env.varsed args
  initCommand : ∀ args, 0 ≤ env.initCommand args
  privileged : 0 ≤ env.privileged
  findTupDir : 0 ≤ env.findTupDir
  openTupTop : 0 ≤ env.openTupTop
  stopMonitor : 0 ≤ env.stopMonitor
  monitorPid : env.monitorPid.isSome
  dbBegin : 0 ≤ env.dbBegin
  dbCommit : 0 ≤ env.dbCommit

/-- Off those paths the exit status is non-negative, whatever the arguments and whatever
the commands main dispatches to return. -/
theorem main_nonneg {env : MainEnv} (h : env.NoBypass) (argv : List String) :
    0 ≤ main env argv := by
  unfold main
  dsimp only
  refine iteInduction (motive := fun x : Int => 0 ≤ x) (fun _ => le_refl 0) fun _ => ?_
  refine iteInduction (motive := fun x : Int => 0 ≤ x) (fun _ => le_refl 0) fun _ => ?_
  refine iteInduction (motive := fun x : Int => 0 ≤ x) (fun _ => ?_) fun _ => ?_
  · have := h.varsed ((findCmd (argv.drop 1)).getD ("upd", argv.drop 1)).2
    split_ifs <;> omega
  rw [h.vardict, if_neg Bool.false_ne_true]
  split
  · exact mainEarly_nonneg h.initCommand h.privileged h.findTupDir h.openTupTop h.stopMonitor
      ‹_›
  split_ifs
  · omega
  obtain ⟨⟨rc, clear⟩, hd⟩ :=
    Option.isSome_iff_exists.mp (mainDispatch_isSome h.monitorPid _ _ _)
  rw [hd]
  exact mainExit_nonneg h.dbBegin h.dbCommit rc clear

def foundTupEnv : MainEnv where
  dropPrivs := 0
  varsed _ := 0
  vardict := false
  initCommand _ := 0
  generate _ := 0
  unshare := false
  privileged := 0
  processIni := 0
  findTupDir := 0
  openTupTop := 0
  stopMonitor := 0
  waitmon := 0
  tupInit := 0
  monitorPid := some 0
  run _ _ := 0
  dbBegin := 0
  configSetInt := 0
  dbCommit := 0
  cleanup := 0

def failingRunEnv : MainEnv := { foundTupEnv with run := fun _ _ => -1 }

theorem main_nonneg_runs :
    (foundTupEnv.NoBypass ∧ 0 ≤ main foundTupEnv ["tup", "stop"]) ∧
    (failingRunEnv.NoBypass ∧ 0 ≤ main failingRunEnv ["tup", "entry", "a.c"]) :=
  have h : foundTupEnv.NoBypass :=
    ⟨rfl, fun _ => le_rfl, fun _ => le_rfl, le_rfl, le_rfl, le_rfl, le_rfl, rfl, le_rfl, le_rfl⟩
  have hf : failingRunEnv.NoBypass :=
    ⟨rfl, fun _ => le_rfl, fun _ => le_rfl, le_rfl, le_rfl, le_rfl, le_rfl, rfl, le_rfl, le_rfl⟩
  ⟨⟨h, main_nonneg h _⟩, ⟨hf, main_nonneg hf _⟩⟩

example : main failingRunEnv ["tup", "entry", "a.c"] = 1 := by decide

def namedCommands : List String :=
  ["monitor", "entry", "type", "tupid", "inputs", "graph", "compiledb", "commandline", "todo",
    "variant", "node_exists", "touch", "node", "varshow", "dbconfig", "options", "fake_mtime",
    "fake_parser_version", "flush", "ghost_check", "monitor_supported"]

theorem findCmd_append {opts rest : List String} {cmd : String}
    (hopts : ∀ o ∈ opts, o.front = '-') (hcmd : cmd.front ≠ '-') :
    findCmd (opts ++ cmd :: rest) = some (cmd, rest) := by
  induction opts with
  | nil => simp [findCmd, hcmd]
  | cons o opts ih =>
    simp [findCmd, hopts o (List.mem_cons_self _ _),
      ih fun o' h => hopts o' (List.mem_cons_of_mem _ h)]

theorem namedCommands_spec {env : MainEnv} {cmd : String} (hcmd : cmd ∈ namedCommands)
    (hini : env.processIni = 0) (args orig : List String) :
    cmd.front ≠ '-' ∧ cmd ≠ "varsed" ∧ mainEarly env cmd args = none ∧
    mainDispatch env cmd args orig = some (env.run (.named cmd) args, false) := by
  simp only [namedCommands, List.mem_cons, List.mem_singleton, List.not_mem_nil,
    or_false] at hcmd
  rcases hcmd with rfl | rfl | rfl | rfl | rfl | rfl | rfl | rfl | rfl | rfl | rfl | rfl | rfl |
    rfl | rfl | rfl | rfl | rfl | rfl | rfl | rfl <;>
    exact ⟨by decide, by decide, by simp [mainEarly, hini], rfl⟩

theorem main_eq_dispatch {env : MainEnv} {exe cmd : String} {opts rest : List String}
    (hopts : ∀ o ∈ opts, o.front = '-') (hfront : cmd.front ≠ '-')
    (hhelp : ∀ s ∈ opts ++ cmd :: rest, s ≠ "-h" ∧ s ≠ "--help")
    (hver : rest.head? ≠ some "--version" ∧ rest.head? ≠ some "-v")
    (hvarsed : cmd ≠ "varsed") (hvd : env.vardict = false)
    (hearly : mainEarly env cmd rest = none) (hinit : 0 ≤ env.tupInit) :
    main env (exe :: (opts ++ cmd :: rest)) =
      match mainDispatch env cmd rest (opts ++ cmd :: rest) with
      | none => -1
      | some (rc, clear) => mainExit env rc clear := by
  have hany : ((opts ++ cmd :: rest).any fun s => decide (s = "-h" ∨ s = "--help")) = false :=
    List.any_eq_false.mpr fun s hs => by simpa using hhelp s hs
  have hv : ¬(rest.head? = some "--version" ∨ rest.head? = some "-v") := by
    simpa only [not_or] using hver
  simp only [main, List.drop_succ_cons, List.drop_zero, hany, Bool.false_eq_true, if_false,
    findCmd_append hopts hfront, Option.getD_some, hv, hvarsed, hvd, hearly,
    if_neg (not_lt.mpr hinit)]

/-- main runs a named secondary command on exactly the arguments after it: the options
before it are skipped, and the command's status goes through the end of main. -/
theorem main_named {env : MainEnv} {exe cmd : String} {opts rest : List String}
    (hopts : ∀ o ∈ opts, o.front = '-') (hcmd : cmd ∈ namedCommands)
    (hhelp : ∀ s ∈ opts ++ cmd :: rest, s ≠ "-h" ∧ s ≠ "--help")
    (hver : rest.head? ≠ some "--version" ∧ rest.head? ≠ some "-v")
    (hvd : env.vardict = false) (hini : env.processIni = 0) (hinit : 0 ≤ env.tupInit) :
    main env (exe :: (opts ++ cmd :: rest)) =
      mainExit env (env.run (.named cmd) rest) false := by
  obtain ⟨hfront, hvarsed, hearly, hdisp⟩ :=
    namedCommands_spec hcmd hini rest (opts ++ cmd :: rest)
  rw [main_eq_dispatch hopts hfront hhelp hver hvarsed hvd hearly hinit, hdisp]

theorem main_named_varshow :
    ((∀ o ∈ ["--debug-sql"], o.front = '-') ∧ "varshow" ∈ namedCommands ∧
      (∀ s ∈ ["--debug-sql"] ++ "varshow" :: ["B"], s ≠ "-h" ∧ s ≠ "--help") ∧
      (["B"].head? ≠ some "--version" ∧ ["B"].head? ≠ some "-v") ∧
      foundTupEnv.vardict = false ∧ foundTupEnv.processIni = 0 ∧ 0 ≤ foundTupEnv.tupInit) ∧
    main foundTupEnv ("tup" :: (["--debug-sql"] ++ "varshow" :: ["B"])) =
      mainExit foundTupEnv (foundTupEnv.run (.named "varshow") ["B"]) false :=
  have hopts : ∀ o ∈ ["--debug-sql"], o.front = '-' := by decide
  have hcmd : "varshow" ∈ namedCommands := by decide
  have hhelp : ∀ s ∈ ["--debug-sql"] ++ "varshow" :: ["B"], s ≠ "-h" ∧ s ≠ "--help" := by
    decide
  have hver : ["B"].head? ≠ some "--version" ∧ ["B"].head? ≠ some "-v" := by decide
  ⟨⟨hopts, hcmd, hhelp, hver, rfl, rfl, le_rfl⟩,
    main_named hopts hcmd hhelp hver rfl rfl le_rfl⟩

def stopWithoutTupEnv : MainEnv := { foundTupEnv with findTupDir := -1 }

theorem main_stop_without_tup : main stopWithoutTupEnv ["tup", "stop"] = -1 := by decide

end Tup
