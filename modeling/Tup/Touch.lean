import Tup.Db

/-! `tup touch` and `tup node`: tell the database about files by path. touch creates the
files that are not there, so the file system is part of its state: a file touch creates
stays when touch fails later on, while its database updates are only committed at the
end. node makes a node for each path without looking at the file system. -/
namespace Tup

inductive FileKind
  | dir | reg | link | other
  deriving DecidableEq, Repr

/-- The file system as touch sees it from the invocation directory: the kind lstat reports
for each path that is there, and whether open with `O_CREAT` can make a path that is not. -/
structure TouchFs where
  files : List (String × FileKind)
  creatable : String → Bool

def TouchFs.lstat (fs : TouchFs) (p : String) : Option FileKind := fs.files.lookup p

/-- The lstat, then `close(open(p, O_WRONLY | O_CREAT, 0666))` when it fails: a new regular
file where open can make one. -/
def TouchFs.ensure (fs : TouchFs) (p : String) : TouchFs :=
  if (fs.lstat p).isSome then fs
  else if fs.creatable p then { fs with files := (p, .reg) :: fs.files } else fs

inductive TouchOp
  | dirNode (dt : Int) (name : String)
  | modMtime (dt : Int) (name : String)
  deriving DecidableEq, Repr

def touchOp (kind : FileKind) (dt : Int) (name : String) : Option TouchOp :=
  match kind with
  | .dir => some (.dirNode dt name)
  | .reg | .link => some (.modMtime dt name)
  | .other => none

/-- What touch's calls return: tup_db_begin, chdir to the sub-directory, get_sub_dir_dt
(negative when it fails), find_dir_tupid_dt from that directory (the dt of a path's
directory and the name of its last element), tup_entry_add of a dt, each update, and
tup_db_commit. -/
structure TouchSys where
  begin : Bool
  chdirOk : Bool
  subDirDt : Int
  findDirDt : Int → String → Int × String
  entryAdd : Int → Bool
  opOk : TouchOp → Bool
  commit : Bool

/-- One pass of touch's loop on a path, once it has been made: its update, or what is
printed before touch returns -1. perror's text for errno is left out. -/
def touchStep (sys : TouchSys) (fs : TouchFs) (p : String) :
    Except (List Line) (Option TouchOp) :=
  match fs.lstat p with
  | none => .error [.err s!"lstat: {p}"]
  | some kind =>
    let (dt, name) := sys.findDirDt sys.subDirDt p
    if dt ≤ 0 then
      .error [.err s!"Error finding dt for dir '{p}' relative to dir {sys.subDirDt}"]
    else if !sys.entryAdd dt then .error []
    else
      match touchOp kind dt name with
      | none => .ok none
      | some op => if sys.opOk op then .ok (some op) else .error []

def touchLoop (sys : TouchSys) : TouchFs → List String →
    TouchFs × Except (List Line) (List TouchOp)
  | fs, [] => (fs, .ok [])
  | fs, p :: rest =>
    let fs := fs.ensure p
    match touchStep sys fs p with
    | .error out => (fs, .error out)
    | .ok op =>
      match touchLoop sys fs rest with
      | (fs, .error out) => (fs, .error out)
      | (fs, .ok ops) => (fs, .ok (op.toList ++ ops))

structure TouchRun where
  status : Int
  out : List Line
  fs : TouchFs
  ops : List TouchOp

def touch (sys : TouchSys) (fs : TouchFs) (argv : List String) : TouchRun :=
  if !sys.begin then ⟨-1, [], fs, []⟩
  else if !sys.chdirOk then ⟨-1, [.err "chdir"], fs, []⟩
  else if sys.subDirDt < 0 then ⟨-1, [], fs, []⟩
  else
    match touchLoop sys fs argv with
    | (fs, .error out) => ⟨-1, out, fs, []⟩
    | (fs, .ok ops) => if sys.commit then ⟨0, [], fs, ops⟩ else ⟨-1, [], fs, []⟩

theorem TouchFs.lstat_ensure_of_some {fs : TouchFs} {p q : String} {k : FileKind}
    (h : fs.lstat q = some k) : (fs.ensure p).lstat q = some k := by
  unfold TouchFs.ensure
  split_ifs with hp hc
  · exact h
  · have hq : (q == p) = false := beq_false_of_ne (by rintro rfl; simp [h] at hp)
    simpa [TouchFs.lstat, List.lookup_cons, hq] using h
  · exact h

theorem TouchFs.lstat_ensure {fs : TouchFs} {p q : String} {k : FileKind}
    (h : (fs.ensure p).lstat q = some k) :
    fs.lstat q = some k ∨ q = p ∧ k = .reg ∧ fs.lstat p = none := by
  unfold TouchFs.ensure at h
  split_ifs at h with hp hc
  · exact .inl h
  · by_cases hq : q = p
    · subst hq
      simp [TouchFs.lstat, List.lookup_cons] at h
      exact .inr ⟨rfl, h.symm, by simpa using hp⟩
    · have hb : (q == p) = false := beq_false_of_ne hq
      exact .inl (by simpa [TouchFs.lstat, List.lookup_cons, hb] using h)
  · exact .inl h

theorem touchLoop_fs (sys : TouchSys) (fs : TouchFs) (argv : List String) :
    (∀ q k, fs.lstat q = some k → (touchLoop sys fs argv).1.lstat q = some k) ∧
    ∀ q k, (touchLoop sys fs argv).1.lstat q = some k →
      fs.lstat q = some k ∨ q ∈ argv ∧ k = .reg ∧ fs.lstat q = none := by
  induction argv generalizing fs with
  | nil => exact ⟨fun _ _ h => h, fun _ _ h => .inl h⟩
  | cons p rest ih =>
    obtain ⟨ihm, ihn⟩ := ih (fs.ensure p)
    have hfs : (touchLoop sys fs (p :: rest)).1 = fs.ensure p ∨
        (touchLoop sys fs (p :: rest)).1 = (touchLoop sys (fs.ensure p) rest).1 := by
      simp only [touchLoop]
      split
      · exact .inl rfl
      · split <;> exact .inr (by rw [‹touchLoop sys _ rest = _›])
    refine ⟨fun q k h => ?_, fun q k h => ?_⟩
    · rcases hfs with hfs | hfs <;> rw [hfs]
      · exact TouchFs.lstat_ensure_of_some h
      · exact ihm q k (TouchFs.lstat_ensure_of_some h)
    · have hnew : (fs.ensure p).lstat q = some k ∨ q ∈ rest ∧ k = .reg ∧
          (fs.ensure p).lstat q = none := by
        rcases hfs with hfs | hfs <;> rw [hfs] at h
        exacts [.inl h, ihn q k h]
      rcases hnew with h' | ⟨hq, rfl, hnone⟩
      · rcases TouchFs.lstat_ensure h' with h'' | ⟨rfl, rfl, hp⟩
        exacts [.inl h'', .inr ⟨List.mem_cons_self _ _, rfl, hp⟩]
      · refine .inr ⟨List.mem_cons_of_mem _ hq, rfl, ?_⟩
        cases hl : fs.lstat q with
        | none => rfl
        | some k' => simp [TouchFs.lstat_ensure_of_some hl] at hnone

theorem touchStep_ok {sys : TouchSys} {fs : TouchFs} {p : String} {op : Option TouchOp}
    (h : touchStep sys fs p = .ok op) : ∃ kind, fs.lstat p = some kind ∧
      op = touchOp kind (sys.findDirDt sys.subDirDt p).1 (sys.findDirDt sys.subDirDt p).2 := by
  unfold touchStep at h
  split at h
  · cases h
  rename_i kind hk
  refine ⟨kind, hk, ?_⟩
  rcases hf : sys.findDirDt sys.subDirDt p with ⟨dt, name⟩
  simp only [hf] at h
  split_ifs at h
  split at h
  · rename_i hop
    cases h
    exact hop.symm
  · rename_i hop
    split_ifs at h
    cases h
    exact hop.symm

theorem touchLoop_ok {sys : TouchSys} {fs : TouchFs} {argv : List String}
    {ops : List TouchOp} (h : (touchLoop sys fs argv).2 = .ok ops) :
    (∀ p ∈ argv, ((touchLoop sys fs argv).1.lstat p).isSome) ∧
    ops = argv.filterMap fun p => ((touchLoop sys fs argv).1.lstat p).bind fun k =>
      touchOp k (sys.findDirDt sys.subDirDt p).1 (sys.findDirDt sys.subDirDt p).2 := by
  induction argv generalizing fs ops with
  | nil => exact ⟨by simp, by simpa [touchLoop, eq_comm] using h⟩
  | cons p rest ih =>
    simp only [touchLoop] at h ⊢
    rcases hs : touchStep sys (fs.ensure p) p with out | op <;> simp only [hs] at h ⊢
    · cases h
    rcases hr : touchLoop sys (fs.ensure p) rest with ⟨fs', out | ops'⟩ <;> simp only [hr] at h ⊢
    · cases h
    cases h
    obtain ⟨kind, hk, rfl⟩ := touchStep_ok hs
    have hfin : fs'.lstat p = some kind := by
      simpa [hr] using (touchLoop_fs sys (fs.ensure p) rest).1 p kind hk
    obtain ⟨ih₁, ih₂⟩ := @ih (fs.ensure p) ops' (by rw [hr])
    rw [hr] at ih₁ ih₂
    refine ⟨List.forall_mem_cons.mpr ⟨by simp [hfin], ih₁⟩, ?_⟩
    rw [List.filterMap_cons, hfin, Option.some_bind, ← ih₂]
    cases touchOp kind _ _ <;> rfl

/-- When touch returns 0, every path it was given is there, and it has committed, in
order, a directory node for each directory and an mtime update for each regular file or
symlink; it has nothing to say of other kinds of file. -/
theorem touch_ok {sys : TouchSys} {fs : TouchFs} {argv : List String}
    (h : (touch sys fs argv).status = 0) :
    (∀ p ∈ argv, ((touch sys fs argv).fs.lstat p).isSome) ∧
    (touch sys fs argv).ops = argv.filterMap fun p => ((touch sys fs argv).fs.lstat p).bind
      fun k => touchOp k (sys.findDirDt sys.subDirDt p).1 (sys.findDirDt sys.subDirDt p).2 := by
  generalize hT : touch sys fs argv = r at h ⊢
  unfold touch at hT
  split_ifs at hT
  iterate 3 (subst hT; simp at h)
  all_goals rcases hl : touchLoop sys fs argv with ⟨fs', out | ops⟩ <;> rw [hl] at hT <;> subst hT
  · simp at h
  · have := @touchLoop_ok sys fs argv ops (by rw [hl])
    rwa [hl] at this
  all_goals simp at h

def srcFs : TouchFs := ⟨[("src", .dir), ("src/a.c", .reg)], fun _ => true⟩

def srcSys : TouchSys where
  begin := true
  chdirOk := true
  subDirDt := 1
  findDirDt _ p := if p = "gone/c" then (0, "c") else (2, p)
  entryAdd _ := true
  opOk _ := true
  commit := true

theorem touch_ok_src :
    (touch srcSys srcFs ["src", "src/b.c"]).status = 0 ∧
    (∀ p ∈ ["src", "src/b.c"], ((touch srcSys srcFs ["src", "src/b.c"]).fs.lstat p).isSome) ∧
    (touch srcSys srcFs ["src", "src/b.c"]).ops = ["src", "src/b.c"].filterMap fun p =>
      ((touch srcSys srcFs ["src", "src/b.c"]).fs.lstat p).bind fun k =>
        touchOp k (srcSys.findDirDt srcSys.subDirDt p).1 (srcSys.findDirDt srcSys.subDirDt p).2 :=
  have h : (touch srcSys srcFs ["src", "src/b.c"]).status = 0 := by decide
  ⟨h, touch_ok h⟩

/-- Whatever touch returns, files only appear: each one there before stays with its kind,
each new one is a regular file an argument names, and a touch that fails commits no update
though the files it made stay. -/
theorem touch_fs (sys : TouchSys) (fs : TouchFs) (argv : List String) :
    (∀ q k, fs.lstat q = some k → (touch sys fs argv).fs.lstat q = some k) ∧
    (∀ q k, (touch sys fs argv).fs.lstat q = some k →
      fs.lstat q = some k ∨ q ∈ argv ∧ k = .reg ∧ fs.lstat q = none) ∧
    ((touch sys fs argv).status ≠ 0 → (touch sys fs argv).ops = []) := by
  have hrun := touchLoop_fs sys fs argv
  generalize hT : touch sys fs argv = r
  unfold touch at hT
  split_ifs at hT
  iterate 3 (subst hT; exact ⟨fun _ _ h => h, fun _ _ h => .inl h, fun _ => rfl⟩)
  all_goals
    rcases hl : touchLoop sys fs argv with ⟨fs', out | ops⟩ <;> rw [hl] at hrun hT <;>
      subst hT
  all_goals first
    | exact ⟨hrun.1, hrun.2, fun _ => rfl⟩
    | exact ⟨hrun.1, hrun.2, fun h => absurd rfl h⟩

example : (touch srcSys srcFs ["src/b.c", "gone/c"]).status = -1 ∧
    (touch srcSys srcFs ["src/b.c", "gone/c"]).fs.lstat "src/b.c" = some .reg ∧
    (touch srcSys srcFs ["src/b.c", "gone/c"]).ops = [] := by decide

theorem TouchFs.ensure_of_isSome {fs : TouchFs} {p : String} (h : (fs.lstat p).isSome) :
    fs.ensure p = fs :=
  if_pos h

theorem touchStep_congr {sys : TouchSys} {fs fs' : TouchFs} {p : String}
    (h : fs.lstat p = fs'.lstat p) : touchStep sys fs p = touchStep sys fs' p := by
  unfold touchStep
  rw [h]

theorem touchLoop_again {sys : TouchSys} {fs fs₁ : TouchFs} {argv : List String}
    {ops : List TouchOp} (h : touchLoop sys fs argv = (fs₁, .ok ops)) :
    touchLoop sys fs₁ argv = (fs₁, .ok ops) := by
  induction argv generalizing fs ops with
  | nil =>
    obtain ⟨-, h⟩ := Prod.mk.inj h
    cases h
    rfl
  | cons p rest ih =>
    simp only [touchLoop] at h
    rcases hs : touchStep sys (fs.ensure p) p with out | op <;> simp only [hs] at h
    · cases h
    rcases hr : touchLoop sys (fs.ensure p) rest with ⟨fs', out | ops'⟩ <;> simp only [hr] at h
    · cases h
    obtain ⟨rfl, rfl⟩ := Prod.mk.inj h |>.imp id fun h => (Except.ok.inj h)
    obtain ⟨kind, hk, -⟩ := touchStep_ok hs
    have hfin : fs'.lstat p = some kind := by
      simpa [hr] using (touchLoop_fs sys (fs.ensure p) rest).1 p kind hk
    simp only [touchLoop, TouchFs.ensure_of_isSome (by simp [hfin] : (fs'.lstat p).isSome),
      touchStep_congr (hfin.trans hk.symm), hs, ih hr]

/-- touch run again with the same arguments, on the files a touch that returned 0 left,
makes no file and commits the same updates: it returns what the first one returned. -/
theorem touch_again {sys : TouchSys} {fs : TouchFs} {argv : List String}
    (h : (touch sys fs argv).status = 0) :
    touch sys (touch sys fs argv).fs argv = touch sys fs argv := by
  have hb : sys.begin = true := by by_contra hb; simp [touch, hb] at h
  have hc : sys.chdirOk = true := by by_contra hc; simp [touch, hb, hc] at h
  have hs : ¬sys.subDirDt < 0 := fun hs => by simp [touch, hb, hc, hs] at h
  rcases hl : touchLoop sys fs argv with ⟨fs₁, out | ops⟩
  · simp [touch, hb, hc, hs, hl] at h
  have hcm : sys.commit = true := by by_contra hcm; simp [touch, hb, hc, hs, hl, hcm] at h
  have hrun : touch sys fs argv = ⟨0, [], fs₁, ops⟩ := by simp [touch, hb, hc, hs, hl, hcm]
  rw [hrun]
  simp [touch, hb, hc, hs, touchLoop_again hl, hcm]

theorem touch_again_src :
    (touch srcSys srcFs ["src", "src/b.c"]).status = 0 ∧
    touch srcSys (touch srcSys srcFs ["src", "src/b.c"]).fs ["src", "src/b.c"] =
      touch srcSys srcFs ["src", "src/b.c"] :=
  have h : (touch srcSys srcFs ["src", "src/b.c"]).status = 0 := by decide
  ⟨h, touch_again h⟩

/-- What node's calls return: tup_db_begin, get_sub_dir_dt (negative when it fails),
find_dir_tupid_dt from that directory, create_name_file of a name in a directory, and
tup_db_commit. -/
structure NodeSys where
  begin : Bool
  subDirDt : Int
  findDirDt : Int → String → Int × String
  createNameFile : Int → String → Bool
  commit : Bool

def nodeLoop (sys : NodeSys) : List String → Except (List Line) (List (Int × String))
  | [] => .ok []
  | p :: rest =>
    let (dt, name) := sys.findDirDt sys.subDirDt p
    if dt ≤ 0 then .error [.err s!"Unable to find dir '{p}' relative to {sys.subDirDt}"]
    else if !sys.createNameFile dt name then
      .error [.err s!"Unable to create node for '{name}' in dir {dt}"]
    else
      match nodeLoop sys rest with
      | .error out => .error out
      | .ok made => .ok ((dt, name) :: made)

def node (sys : NodeSys) (argv : List String) : Int × List Line × List (Int × String) :=
  if !sys.begin then (-1, [], [])
  else if sys.subDirDt < 0 then (-1, [], [])
  else
    match nodeLoop sys argv with
    | .error out => (-1, out, [])
    | .ok made => if sys.commit then (0, [], made) else (-1, [], [])

theorem nodeLoop_eq_ok {sys : NodeSys} {argv : List String} {made : List (Int × String)} :
    nodeLoop sys argv = .ok made ↔
      (∀ p ∈ argv, 0 < (sys.findDirDt sys.subDirDt p).1 ∧
        sys.createNameFile (sys.findDirDt sys.subDirDt p).1 (sys.findDirDt sys.subDirDt p).2) ∧
      made = argv.map (sys.findDirDt sys.subDirDt) := by
  induction argv generalizing made with
  | nil =>
    exact ⟨fun h => ⟨by simp, by cases h; rfl⟩, fun ⟨_, h⟩ => by rw [h]; rfl⟩
  | cons p rest ih =>
    rcases hf : sys.findDirDt sys.subDirDt p with ⟨dt, name⟩
    simp only [nodeLoop, hf, List.forall_mem_cons, List.map_cons]
    constructor
    · intro h
      split_ifs at h with hdt hc
      rcases hr : nodeLoop sys rest with out | made' <;> rw [hr] at h
      · cases h
      cases h
      obtain ⟨hall, rfl⟩ := ih.mp hr
      exact ⟨⟨⟨not_le.mp hdt, by simpa using hc⟩, hall⟩, rfl⟩
    · rintro ⟨⟨⟨hdt, hc⟩, hall⟩, rfl⟩
      rw [if_neg (not_le.mpr hdt), if_neg (by simp [hc]), ih.mpr ⟨hall, rfl⟩]

/-- node returns 0 exactly when its setup calls and commit succeed, every path's directory
is found and every node is made; it then commits one node per path, in order, in the
directory find_dir_tupid_dt gives and under the path's last element. -/
theorem node_eq_zero_iff {sys : NodeSys} {argv : List String} :
    (node sys argv).1 = 0 ↔ sys.begin = true ∧ 0 ≤ sys.subDirDt ∧ sys.commit = true ∧
      (∀ p ∈ argv, 0 < (sys.findDirDt sys.subDirDt p).1 ∧
        sys.createNameFile (sys.findDirDt sys.subDirDt p).1 (sys.findDirDt sys.subDirDt p).2) ∧
      (node sys argv).2.2 = argv.map (sys.findDirDt sys.subDirDt) := by
  generalize hN : node sys argv = r
  unfold node at hN
  by_cases hb : sys.begin = true
  swap
  · rw [if_pos (by simpa using hb)] at hN
    subst hN
    exact iff_of_false (by simp) fun h => hb h.1
  rw [if_neg (by simpa using hb)] at hN
  by_cases hd : sys.subDirDt < 0
  · rw [if_pos hd] at hN
    subst hN
    exact iff_of_false (by simp) fun h => absurd h.2.1 (not_le.mpr hd)
  rw [if_neg hd] at hN
  rcases hl : nodeLoop sys argv with out | made <;> rw [hl] at hN <;> subst hN
  · exact iff_of_false (by simp) fun h => by simpa [hl] using nodeLoop_eq_ok.mpr ⟨h.2.2.2.1, rfl⟩
  · obtain ⟨hall, rfl⟩ := nodeLoop_eq_ok.mp hl
    dsimp only
    by_cases hc : sys.commit = true
    · rw [if_pos hc]
      exact iff_of_true rfl ⟨hb, not_lt.mp hd, hc, hall, rfl⟩
    · rw [if_neg hc]
      exact iff_of_false (by simp) fun h => hc h.2.2.1

end Tup
