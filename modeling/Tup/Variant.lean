import Tup.Db
import Mathlib.Data.List.Basic

/-! `tup variant`: the variant directory create_variant makes at the top of the tup
hierarchy, the tup.config symlink it writes there, and where the kernel takes that
symlink. Paths are C strings, lists of characters. Last, `tup compiledb`, which writes a
compile_commands.json for each enabled variant. -/
namespace Tup

/-- PATH_MAX of Linux's limits.h. -/
def pathMax : Nat := 4096

def variantFilename (configPath : List Char) : List Char :=
  (configPath.reverse.takeWhile (· ≠ '/')).reverse

/-- `dirname`: "build-" and the file name up to its first '.' (strchr), as snprintf
writes it into PATH_MAX characters. -/
def variantDirname (configPath : List Char) : List Char :=
  ("build-".toList ++ (variantFilename configPath).takeWhile (· ≠ '.')).take (pathMax - 1)

/-- `linkpath`: the target of the symlink, from the variant directory back up to the
config file named from the invocation directory `subDir`. -/
def variantLinkpath (subDir configPath : List Char) : List Char :=
  if subDir.length ≠ 0 then "../".toList ++ subDir ++ '/' :: configPath
  else "../".toList ++ configPath

def variantLinkdest (dirname : List Char) : List Char := dirname ++ "/tup.config".toList

inductive MkdirResult
  | ok | exist | failed
  deriving DecidableEq, Repr

/-- What create_variant's system calls return. `listing` is what flist_foreach finds in a
directory after chdir to it (`none` when the chdir fails), `topAgain` whether dir_empty's
fchdir back to the top succeeds, and `subDir` is get_sub_dir(). -/
structure VariantSys where
  topOk : Bool
  mkdir : List Char → MkdirResult
  listing : List Char → Option (List (List Char))
  topAgain : Bool
  symlinkOk : Bool
  subDir : List Char

def dirEmpty (sys : VariantSys) (dirname : List Char) : Except String Bool :=
  match sys.listing dirname with
  | none => .error "tup error: Unable to chdir to variant directory."
  | some names =>
    if names.all fun n => n.head? = some '.' then
      if sys.topAgain then .ok true
      else .error "tup error: Unable to fchdir to the top of the tup hierarchy."
    else .ok false

structure VariantMade where
  dirname : List Char
  created : Bool
  linkpath : List Char
  linkdest : List Char
  deriving DecidableEq, Repr

def createVariant (sys : VariantSys) (configPath : List Char) :
    Except String VariantMade := do
  let dirname := variantDirname configPath
  let name := String.mk dirname
  if !sys.topOk then
    throw "tup error: Unable to fchdir to the top of the tup hierarchy."
  let created ← match sys.mkdir dirname with
    | .ok => pure true
    | .exist => do
      let empty ← dirEmpty sys dirname
      if !empty then
        throw s!"tup error: Variant directory '{name}' already exists and is not empty."
      pure false
    | .failed => throw (s!"tup error: Unable to create variant directory '{name}' " ++
      "at the top of the tup hierarchy.")
  let linkpath := variantLinkpath sys.subDir configPath
  if pathMax ≤ linkpath.length then
    throw "tup error: linkpath is too small to fit the tup.config symlink path."
  let linkdest := variantLinkdest dirname
  if pathMax ≤ linkdest.length then
    throw "tup error: linkdest is too small to fit the tup.config symlink destination."
  if !sys.symlinkOk then
    throw ("tup error: Unable to create tup.config symlink for config file: " ++
      String.mk configPath)
  pure ⟨dirname, created, linkpath, linkdest⟩

theorem dirEmpty_eq_ok_true {sys : VariantSys} {d : List Char}
    (h : dirEmpty sys d = .ok true) :
    ∃ names, sys.listing d = some names ∧ ∀ n ∈ names, n.head? = some '.' := by
  unfold dirEmpty at h
  split at h
  · cases h
  · rename_i names hl
    split_ifs at h with hall
    · exact ⟨names, hl, by simpa using hall⟩
    · cases h

theorem createVariant_eq_ok {sys : VariantSys} {configPath : List Char} {made : VariantMade}
    (h : createVariant sys configPath = .ok made) :
    sys.topOk = true ∧ sys.symlinkOk = true ∧
    made.dirname = variantDirname configPath ∧
    made.linkpath = variantLinkpath sys.subDir configPath ∧
    made.linkdest = variantLinkdest made.dirname ∧
    made.linkpath.length < pathMax ∧ made.linkdest.length < pathMax ∧
    (sys.mkdir made.dirname = .ok ∧ made.created = true ∨
      sys.mkdir made.dirname = .exist ∧ made.created = false ∧
        dirEmpty sys made.dirname = .ok true) := by
  unfold createVariant at h
  cases htop : sys.topOk <;> cases hm : sys.mkdir (variantDirname configPath) <;>
    simp [htop, hm, bind, Except.bind, pure, Except.pure, throw, throwThe,
      MonadExceptOf.throw] at h
  · split_ifs at h with h1 h2 h3
    cases h
    simp_all
  · cases he : dirEmpty sys (variantDirname configPath) with
    | error => simp [he] at h
    | ok v =>
      simp only [he] at h
      split_ifs at h with hv h1 h2 h3
      cases h
      obtain rfl : v = true := by simpa using hv
      simp_all

theorem takeWhile_ne_of_head {c : Char} {l : List Char} (h : l = [] ∨ l.head? = some c) :
    l.takeWhile (fun x => decide (x ≠ c)) = [] := by
  rcases h with rfl | h
  · rfl
  · obtain ⟨t, rfl⟩ : ∃ t, l = c :: t := by
      cases l with
      | nil => cases h
      | cons x t => exact ⟨t, by simpa using h⟩
    simp

theorem variantFilename_eq {dir name : List Char} (hdir : dir = [] ∨ dir.getLast? = some '/')
    (hname : '/' ∉ name) : variantFilename (dir ++ name) = name := by
  have hpos : ∀ c ∈ name.reverse, decide (c ≠ '/') = true := fun c hc => by
    simpa using fun h : c = '/' => hname (h ▸ List.mem_reverse.mp hc)
  have hrev : dir.reverse = [] ∨ dir.reverse.head? = some '/' := by
    simpa [List.head?_reverse] using hdir
  rw [variantFilename, List.reverse_append, List.takeWhile_append_of_pos hpos,
    takeWhile_ne_of_head hrev, List.append_nil, List.reverse_reverse]

theorem variantDirname_eq {dir stem ext : List Char} (hdir : dir = [] ∨ dir.getLast? = some '/')
    (hstem : '/' ∉ stem ∧ '.' ∉ stem) (hext : '/' ∉ ext ∧ (ext = [] ∨ ext.head? = some '.')) :
    variantDirname (dir ++ stem ++ ext) = ("build-".toList ++ stem).take (pathMax - 1) := by
  have hpos : ∀ c ∈ stem, decide (c ≠ '.') = true := fun c hc => by
    simpa using fun h : c = '.' => hstem.2 (h ▸ hc)
  have hname : '/' ∉ stem ++ ext := by simp [hstem.1, hext.1]
  rw [variantDirname, List.append_assoc, variantFilename_eq hdir hname,
    List.takeWhile_append_of_pos hpos, takeWhile_ne_of_head hext.2, List.append_nil]

def topSys : VariantSys where
  topOk := true
  mkdir _ := .ok
  listing _ := some []
  topAgain := true
  symlinkOk := true
  subDir := []

/-- The directories at the top of the hierarchy, each with the names in it. -/
structure Top where
  dirs : List (List Char × List (List Char))
  deriving DecidableEq, Repr

def Top.lookup (top : Top) (d : List Char) : Option (List (List Char)) := top.dirs.lookup d

/-- create_variant's calls as the top answers them: mkdir finds a directory that is there
and otherwise does what `sys` says; chdir and flist_foreach give the directory's names. -/
def Top.calls (top : Top) (sys : VariantSys) : VariantSys :=
  { sys with
    mkdir := fun d => if (top.lookup d).isSome then .exist else sys.mkdir d
    listing := top.lookup }

def Top.record (top : Top) (made : VariantMade) : Top :=
  ⟨(made.dirname, (top.lookup made.dirname).getD [] ++ [tupConfig.toList]) :: top.dirs⟩

def variantLoop (sys : VariantSys) : Top → List (List Char) → Except String Top
  | top, [] => .ok top
  | top, configPath :: rest => do
    let made ← createVariant (top.calls sys) configPath
    variantLoop sys (top.record made) rest

def variant (sys : VariantSys) (dbBegin dbCommit : Bool) (top : Top)
    (argv : List (List Char)) : Int :=
  if argv.length < 1 then -1
  else if !dbBegin then -1
  else match variantLoop sys top argv with
    | .error _ => -1
    | .ok _ => if dbCommit then 0 else -1

def Top.HasConfig (top : Top) (d : List Char) : Prop :=
  ∃ names, top.lookup d = some names ∧ tupConfig.toList ∈ names

theorem Top.lookup_record (top : Top) (made : VariantMade) (d : List Char) :
    (top.record made).lookup d = if d = made.dirname then
      some ((top.lookup made.dirname).getD [] ++ [tupConfig.toList]) else top.lookup d := by
  by_cases hd : d = made.dirname
  · simp [Top.record, Top.lookup, hd]
  · have : (d == made.dirname) = false := beq_false_of_ne hd
    simp [Top.record, Top.lookup, List.lookup_cons, hd, this]

theorem Top.hasConfig_record (top : Top) (made : VariantMade) :
    (top.record made).HasConfig made.dirname :=
  ⟨_, by simp [Top.lookup_record]; rfl, List.mem_append_right _ (List.mem_singleton_self _)⟩

theorem Top.HasConfig.record {top : Top} {d : List Char} (h : top.HasConfig d)
    (made : VariantMade) : (top.record made).HasConfig d := by
  by_cases hd : d = made.dirname
  · exact hd ▸ top.hasConfig_record made
  · obtain ⟨names, hl, hn⟩ := h
    exact ⟨names, by rw [Top.lookup_record, if_neg hd, hl], hn⟩

theorem createVariant_hasConfig {sys : VariantSys} {configPath : List Char} {top : Top}
    (hc : top.HasConfig (variantDirname configPath)) (made : VariantMade) :
    createVariant (top.calls sys) configPath ≠ .ok made := by
  intro h
  obtain ⟨names, hl, hn⟩ := hc
  obtain ⟨-, -, hd, -, -, -, -, ⟨hm, -⟩ | ⟨-, -, he⟩⟩ := createVariant_eq_ok h
  · simp [Top.calls, hd, hl] at hm
  · obtain ⟨names', hl', hall⟩ := dirEmpty_eq_ok_true he
    obtain rfl : names = names' := by simpa [Top.calls, hd, hl] using hl'
    exact absurd (hall _ hn) (by decide)

theorem variantLoop_ok {sys : VariantSys} {top top' : Top} {argv : List (List Char)}
    (h : variantLoop sys top argv = .ok top') :
    (argv.map variantDirname).Nodup ∧
    (∀ p ∈ argv, ¬top.HasConfig (variantDirname p) ∧ top'.HasConfig (variantDirname p)) ∧
    ∀ d, top.HasConfig d → top'.HasConfig d := by
  induction argv generalizing top with
  | nil => cases h; exact ⟨List.nodup_nil, by simp, fun _ hd => hd⟩
  | cons p rest ih =>
    cases hc : createVariant (top.calls sys) p with
    | error => simp [variantLoop, hc, bind, Except.bind] at h
    | ok made =>
      simp only [variantLoop, hc, bind, Except.bind] at h
      obtain ⟨hnd, hrest, hmono⟩ := ih h
      have hdir : (top.record made).HasConfig (variantDirname p) :=
        (createVariant_eq_ok hc).2.2.1 ▸ top.hasConfig_record made
      refine ⟨List.nodup_cons.mpr ⟨fun hm => ?_, hnd⟩, fun q hq => ?_,
        fun d hd => hmono d (hd.record made)⟩
      · obtain ⟨q, hq, hqd⟩ := List.mem_map.mp hm
        exact (hrest q hq).1 (hqd ▸ hdir)
      · rcases List.mem_cons.mp hq with rfl | hq
        · exact ⟨fun hc' => createVariant_hasConfig hc' made hc, hmono _ hdir⟩
        · exact ⟨fun hc' => (hrest q hq).1 (hc'.record made), (hrest q hq).2⟩

/-- When `tup variant` returns 0, its config paths named variant directories that held no
tup.config before, no two the same, and each holds one at the end. -/
theorem variant_dirs_distinct {sys : VariantSys} {dbBegin dbCommit : Bool} {top : Top}
    {argv : List (List Char)} (h : variant sys dbBegin dbCommit top argv = 0) :
    ∃ top', variantLoop sys top argv = .ok top' ∧ (argv.map variantDirname).Nodup ∧
      ∀ p ∈ argv, ¬top.HasConfig (variantDirname p) ∧ top'.HasConfig (variantDirname p) := by
  cases hl : variantLoop sys top argv with
  | error => simp [variant, hl] at h
  | ok top' =>
    obtain ⟨hnd, hp, -⟩ := variantLoop_ok hl
    exact ⟨top', rfl, hnd, hp⟩

theorem variant_foo_bar :
    variant topSys true true ⟨[]⟩ ["foo.config".toList, "bar.config".toList] = 0 ∧
    ∃ top', variantLoop topSys ⟨[]⟩ ["foo.config".toList, "bar.config".toList] = .ok top' ∧
      (["foo.config".toList, "bar.config".toList].map variantDirname).Nodup ∧
      ∀ p ∈ ["foo.config".toList, "bar.config".toList],
        ¬(⟨[]⟩ : Top).HasConfig (variantDirname p) ∧ top'.HasConfig (variantDirname p) :=
  have h : variant topSys true true ⟨[]⟩ ["foo.config".toList, "bar.config".toList] = 0 := by
    decide
  ⟨h, variant_dirs_distinct h⟩

example :
    variant topSys true true ⟨[]⟩ ["foo.config".toList, "foo.debug.config".toList] = -1 := by
  decide

/-- Path lookup as the kernel does it: `step d c` is where the component `c` leads from
the directory `d`, `.`, `..` and symlinks followed included. -/
structure Fs (Obj : Type) where
  root : Obj
  step : Obj → List Char → Option Obj

variable {Obj : Type}

def Fs.enter (fs : Fs Obj) (d : Obj) (comp : List Char) : Option Obj :=
  if comp = [] then some d else fs.step d comp

def Fs.walk (fs : Fs Obj) (d : Obj) (comp : List Char) : List Char → Option Obj
  | [] => fs.enter d comp
  | c :: rest =>
    if c = '/' then (fs.enter d comp).bind fun d' => fs.walk d' [] rest
    else fs.walk d (comp ++ [c]) rest

/-- Resolve a path from `cwd`: from the root when it starts with '/'; an empty path
names nothing. -/
def Fs.resolve (fs : Fs Obj) (cwd : Obj) : List Char → Option Obj
  | [] => none
  | c :: rest => if c = '/' then fs.walk fs.root [] rest else fs.walk cwd [] (c :: rest)

theorem Fs.walk_append (fs : Fs Obj) (d : Obj) (comp a b : List Char) :
    fs.walk d comp (a ++ '/' :: b) = (fs.walk d comp a).bind fun d' => fs.walk d' [] b := by
  induction a generalizing d comp with
  | nil => simp [Fs.walk]
  | cons c a ih =>
    by_cases hc : c = '/'
    · simp only [List.cons_append, Fs.walk, hc, if_true, List.append_eq, ih, Option.bind_assoc]
    · simp only [List.cons_append, Fs.walk, hc, if_false, List.append_eq, ih]

/-- For a relative config path, the symlink's target, resolved from a variant directory
whose `..` is the top of the hierarchy, reaches what the config path reaches from the
invocation directory that `subDir` names from the top. -/
theorem resolve_variantLinkpath (fs : Fs Obj) {top cwd build : Obj}
    {subDir configPath : List Char} (hup : fs.step build ['.', '.'] = some top)
    (hsub : fs.walk top [] subDir = some cwd) (hrel : configPath.head? ≠ some '/')
    (hne : configPath ≠ []) :
    fs.resolve build (variantLinkpath subDir configPath) = fs.resolve cwd configPath := by
  obtain ⟨c, rest, rfl⟩ := List.exists_cons_of_ne_nil hne
  have hc : c ≠ '/' := fun h => hrel (by simp [h])
  have hdots : "../".toList = ['.', '.', '/'] := rfl
  have hleave : ∀ p, fs.walk build [] ('.' :: '.' :: '/' :: p) = fs.walk top [] p := by
    intro p
    simp [Fs.walk, Fs.enter, hup]
  unfold variantLinkpath
  split_ifs with hlen
  · simp only [hdots, List.cons_append, List.nil_append, Fs.resolve, hleave,
      Fs.walk_append, hsub, Option.some_bind, hc]
    simp
  · obtain rfl : subDir = [] := List.eq_nil_of_length_eq_zero (not_not.mp hlen)
    obtain rfl : cwd = top := by simpa [Fs.walk, Fs.enter] using hsub.symm
    simp only [hdots, List.cons_append, List.nil_append, Fs.resolve, hleave, hc]
    simp

def etcFs : Fs Nat where
  root := 0
  step d c :=
    if c = ['.'] then some d
    else if c = ['.', '.'] then some (if d = 2 then 1 else 0)
    else if d = 0 ∧ c = "proj".toList then some 1
    else if d = 0 ∧ c = "etc".toList then some 3
    else if d = 1 ∧ c = "build-foo".toList then some 2
    else if d = 3 ∧ c = "foo.config".toList then some 4
    else none

def srcTreeFs : Fs Nat where
  root := 0
  step d c :=
    if c = ['.'] then some d
    else if c = ['.', '.'] then some (if d = 2 ∨ d = 5 then 1 else 0)
    else if d = 0 ∧ c = "proj".toList then some 1
    else if d = 1 ∧ c = "build-foo".toList then some 2
    else if d = 1 ∧ c = "src".toList then some 5
    else if d = 5 ∧ c = "foo.config".toList then some 6
    else none

theorem resolve_variantLinkpath_cases :
    (etcFs.step 2 ['.', '.'] = some 1 ∧ etcFs.walk 1 [] [] = some 1 ∧
      ("../etc/foo.config".toList).head? ≠ some '/' ∧ "../etc/foo.config".toList ≠ [] ∧
      etcFs.resolve 2 (variantLinkpath [] "../etc/foo.config".toList) =
        etcFs.resolve 1 "../etc/foo.config".toList) ∧
    (srcTreeFs.step 2 ['.', '.'] = some 1 ∧ srcTreeFs.walk 1 [] "src".toList = some 5 ∧
      ("foo.config".toList).head? ≠ some '/' ∧ "foo.config".toList ≠ [] ∧
      srcTreeFs.resolve 2 (variantLinkpath "src".toList "foo.config".toList) =
        srcTreeFs.resolve 5 "foo.config".toList) :=
  ⟨⟨rfl, rfl, by decide, by decide,
    resolve_variantLinkpath etcFs rfl rfl (by decide) (by decide)⟩,
   ⟨rfl, rfl, by decide, by decide,
    resolve_variantLinkpath srcTreeFs rfl rfl (by decide) (by decide)⟩⟩

example : srcTreeFs.resolve 2 (variantLinkpath "src".toList "foo.config".toList) = some 6 := by
  decide

/-- `tup variant /etc/foo.config` at the top writes build-foo/tup.config as a symlink to
`..//etc/foo.config`, which from build-foo leads under /proj and finds nothing there,
while /etc/foo.config is the file. -/
theorem createVariant_absolute :
    createVariant topSys "/etc/foo.config".toList = .ok ⟨"build-foo".toList, true,
      "..//etc/foo.config".toList, "build-foo/tup.config".toList⟩ ∧
    etcFs.resolve 2 "..//etc/foo.config".toList = none ∧
    etcFs.resolve 1 "/etc/foo.config".toList = some 4 :=
  ⟨rfl, by decide, by decide⟩

structure CompileVariant where
  enabled : Bool
  parent : Int
  deriving DecidableEq, Repr

/-- What compiledb's calls return: updater's status for the arguments, whether openat
creates compile_commands.json in a directory (tup_entry_open's descriptor included), and
tup_db_create_compile_db for a variant. -/
structure CompiledbSys where
  updater : List String → Int
  openOk : Int → Bool
  createCompileDb : CompileVariant → Bool

def compiledbLoop (sys : CompiledbSys) : List CompileVariant → List Int × Option (List Line)
  | [] => ([], none)
  | v :: rest =>
    if !v.enabled then compiledbLoop sys rest
    else if !sys.openOk v.parent then
      ([], some [.err "compile_commands.json",
        .err "tup error: Unable to create compile_commands.json at the top of the tup hierarchy."])
    else if !sys.createCompileDb v then ([v.parent], some [])
    else
      let r := compiledbLoop sys rest
      (v.parent :: r.1, r.2)

def compiledb (sys : CompiledbSys) (argv : List String) (variants : List CompileVariant) :
    Int × List Line × List Int :=
  if sys.updater argv < 0 then (-1, [], [])
  else
    match compiledbLoop sys variants with
    | (dirs, none) => (0, [], dirs)
    | (dirs, some out) => (-1, out, dirs)

theorem compiledbLoop_dirs (sys : CompiledbSys) (variants : List CompileVariant) :
    (compiledbLoop sys variants).1 <+: (variants.filter (·.enabled)).map (·.parent) ∧
    ((compiledbLoop sys variants).2 = none ↔
      ∀ v ∈ variants, v.enabled → sys.openOk v.parent ∧ sys.createCompileDb v) ∧
    ((compiledbLoop sys variants).2 = none →
      (compiledbLoop sys variants).1 = (variants.filter (·.enabled)).map (·.parent)) := by
  induction variants with
  | nil => simp [compiledbLoop]
  | cons v rest ih =>
    obtain ⟨ih₁, ih₂, ih₃⟩ := ih
    by_cases he : v.enabled
    · rw [List.filter_cons_of_pos he, List.map_cons, List.forall_mem_cons]
      by_cases ho : sys.openOk v.parent
      · by_cases hc : sys.createCompileDb v
        · have hl : compiledbLoop sys (v :: rest) =
              (v.parent :: (compiledbLoop sys rest).1, (compiledbLoop sys rest).2) := by
            simp [compiledbLoop, he, ho, hc]
          rw [hl, ih₂]
          exact ⟨(List.prefix_cons_inj _).mpr ih₁, by simp [he, ho, hc],
            fun h => congrArg _ (ih₃ (ih₂.mpr h))⟩
        · have hl : compiledbLoop sys (v :: rest) = ([v.parent], some []) := by
            simp [compiledbLoop, he, ho, hc]
          rw [hl]
          exact ⟨(List.prefix_cons_inj _).mpr List.nil_prefix, by simp [he, hc], by simp⟩
      · have hl : compiledbLoop sys (v :: rest) = ([], some
            [.err "compile_commands.json", .err
              "tup error: Unable to create compile_commands.json at the top of the tup hierarchy."]) := by
          simp [compiledbLoop, he, ho]
        rw [hl]
        exact ⟨List.nil_prefix, by simp [he, ho], by simp⟩
    · have hl : compiledbLoop sys (v :: rest) = compiledbLoop sys rest := by
        simp [compiledbLoop, he]
      rw [List.filter_cons_of_neg he, hl, List.forall_mem_cons]
      exact ⟨ih₁, by simp [he, ih₂], ih₃⟩

/-- compiledb returns 0 exactly when updater succeeds and, for every enabled variant,
openat and tup_db_create_compile_db do; it has then written compile_commands.json above
each enabled variant, in list order. Whatever it returns, the directories it wrote in are
the first of those. -/
theorem compiledb_spec (sys : CompiledbSys) (argv : List String)
    (variants : List CompileVariant) :
    ((compiledb sys argv variants).1 = 0 ↔ 0 ≤ sys.updater argv ∧
      ∀ v ∈ variants, v.enabled → sys.openOk v.parent ∧ sys.createCompileDb v) ∧
    ((compiledb sys argv variants).1 = 0 →
      (compiledb sys argv variants).2.2 = (variants.filter (·.enabled)).map (·.parent)) ∧
    (compiledb sys argv variants).2.2 <+: (variants.filter (·.enabled)).map (·.parent) := by
  obtain ⟨hpre, hnone, hall⟩ := compiledbLoop_dirs sys variants
  unfold compiledb
  by_cases hu : sys.updater argv < 0
  · simp [hu, List.nil_prefix]
  rw [if_neg hu]
  rcases hl : compiledbLoop sys variants with ⟨dirs, _ | out⟩ <;> rw [hl] at hpre hnone hall
  · simpa [not_lt.mp hu] using ⟨hnone.mp rfl, hall rfl, hpre⟩
  · have hfail : (-1 : Int) ≠ 0 := by decide
    exact ⟨iff_of_false hfail fun ⟨_, h⟩ => absurd (hnone.mpr h) (by simp),
      fun h => absurd h hfail, hpre⟩

end Tup
