import Tup.Db

/-! `tup waitmon` and `tup flush` poll until another tup process is where they want it:
waitmon until the file monitor is running, flush until no autoupdate process holds the
database. Each poll's answer is an input of the model, so a run is a list of answers, and
a run that has not returned yet when its answers run out is `none`. -/
namespace Tup

def waitmonRetry : Line := .out " -- waitmon (try again)"

def waitmonLoop (tries : Nat) : List (Option Int) → Option (Int × List Line)
  | [] => none
  | none :: _ => some (-1, [.err "tup error: Unable to get the current monitor pid in waitmon()"])
  | some pid :: polls =>
    if pid < 0 then
      if tries + 1 > 10 then (waitmonLoop 0 polls).map fun r => (r.1, waitmonRetry :: r.2)
      else waitmonLoop (tries + 1) polls
    else some (0, [])

def waitmon (polls : List (Option Int)) : Option (Int × List Line) :=
  (waitmonLoop 0 polls).map fun r => (r.1, .out "Waitmon" :: r.2)

theorem waitmonLoop_append {tries : Nat} (ht : tries ≤ 10) {negs : List Int}
    (hneg : ∀ p ∈ negs, p < 0) (rest : List (Option Int)) :
    waitmonLoop tries (negs.map some ++ rest) =
      (waitmonLoop ((tries + negs.length) % 11) rest).map fun r =>
        (r.1, List.replicate ((tries + negs.length) / 11) waitmonRetry ++ r.2) := by
  induction negs generalizing tries with
  | nil =>
    have hmod : tries % 11 = tries := Nat.mod_eq_of_lt (by omega)
    have hdiv : tries / 11 = 0 := Nat.div_eq_of_lt (by omega)
    simp [hmod, hdiv]
  | cons p negs ih =>
    have hp : p < 0 := hneg p (List.mem_cons_self p negs)
    have ih' := fun t (h : t ≤ 10) => ih h fun q hq => hneg q (List.mem_cons_of_mem p hq)
    simp only [List.map_cons, List.cons_append, waitmonLoop, if_pos hp, List.length_cons,
      List.append_eq]
    split_ifs with h10
    · have hmod : (tries + (negs.length + 1)) % 11 = (0 + negs.length) % 11 := by omega
      have hdiv : (tries + (negs.length + 1)) / 11 = (0 + negs.length) / 11 + 1 := by omega
      rw [ih' 0 (Nat.zero_le _), Option.map_map, hmod, hdiv]
      rfl
    · have hmod : tries + (negs.length + 1) = tries + 1 + negs.length := by omega
      rw [ih' (tries + 1) (by omega), hmod]

/-- What waitmon has printed after `n` polls that found no monitor. -/
def waitmonLines (n : Nat) : List Line :=
  .out "Waitmon" :: List.replicate (n / 11) waitmonRetry

/-- waitmon over every sequence of polls: after the polls that find no monitor it has
printed one line per eleven of them; it returns 0 at the first poll that finds the
monitor, -1 at the first that fails, and has not returned while neither has come. -/
theorem waitmon_polls {negs : List Int} (hneg : ∀ p ∈ negs, p < 0)
    (rest : List (Option Int)) :
    (∀ pid, 0 ≤ pid → waitmon (negs.map some ++ some pid :: rest) =
      some (0, waitmonLines negs.length)) ∧
    waitmon (negs.map some ++ none :: rest) = some (-1, waitmonLines negs.length ++
      [.err "tup error: Unable to get the current monitor pid in waitmon()"]) ∧
    waitmon (negs.map some) = none := by
  have hrun := fun rest => waitmonLoop_append (Nat.zero_le 10) hneg rest
  refine ⟨fun pid hpid => ?_, ?_, ?_⟩
  · simp [waitmon, hrun, waitmonLoop, not_lt.mpr hpid, waitmonLines]
  · simp [waitmon, hrun, waitmonLoop, waitmonLines]
  · simpa [waitmon, waitmonLoop] using hrun []

theorem waitmon_polls_twelve :
    (∀ p ∈ List.replicate 12 (-1 : Int), p < 0) ∧
      (∀ pid, 0 ≤ pid → waitmon ((List.replicate 12 (-1)).map some ++ some pid :: []) =
        some (0, waitmonLines (List.replicate 12 (-1 : Int)).length)) ∧
      waitmon ((List.replicate 12 (-1)).map some ++ none :: []) =
        some (-1, waitmonLines (List.replicate 12 (-1 : Int)).length ++
          [.err "tup error: Unable to get the current monitor pid in waitmon()"]) ∧
      waitmon ((List.replicate 12 (-1 : Int)).map some) = none :=
  have hneg : ∀ p ∈ List.replicate 12 (-1 : Int), p < 0 := by decide
  ⟨hneg, waitmon_polls hneg []⟩

example : waitmonLines 12 = [.out "Waitmon", waitmonRetry] := rfl

/-- What one pass of flush's loop sees: the autoupdate pid tup_db_config_get_int reads
(`none` when it, tup_db_begin or tup_db_commit fails), and whether tup_lock_init and
tup_db_open succeed after the pause. -/
structure FlushPass where
  autoupdatePid : Option Int
  reopen : Bool
  deriving DecidableEq, Repr

def flushRetry : Line := .out " -- flush (try again)"

def flushLoop : List FlushPass → Option (Int × List Line)
  | [] => none
  | p :: passes =>
    match p.autoupdatePid with
    | none => some (-1, [])
    | some pid =>
      if pid < 0 then some (0, [.out "Flushed."])
      else if p.reopen then (flushLoop passes).map fun r => (r.1, flushRetry :: r.2)
      else some (-1, [flushRetry])

def flush (passes : List FlushPass) : Option (Int × List Line) :=
  (flushLoop passes).map fun r => (r.1, .out "Flush" :: r.2)

/-- A pass that finds an autoupdate process and reopens the database after it. -/
def FlushPass.Busy (p : FlushPass) : Prop :=
  (∃ pid, p.autoupdatePid = some pid ∧ 0 ≤ pid) ∧ p.reopen = true

theorem flushLoop_eq_zero_iff {passes : List FlushPass} {out : List Line} :
    flushLoop passes = some (0, out) ↔ ∃ busy p rest, passes = busy ++ p :: rest ∧
      (∀ b ∈ busy, b.Busy) ∧ (∃ pid, p.autoupdatePid = some pid ∧ pid < 0) ∧
      out = List.replicate busy.length flushRetry ++ [.out "Flushed."] := by
  induction passes generalizing out with
  | nil => simp [flushLoop]
  | cons q passes ih =>
    constructor
    · intro h
      simp only [flushLoop] at h
      split at h
      · simp at h
      rename_i pid hq
      split_ifs at h with hneg hre
      · exact ⟨[], q, passes, rfl, by simp, ⟨pid, hq, hneg⟩, by simpa using h.symm⟩
      · obtain ⟨⟨rc, out'⟩, hl, he⟩ := Option.map_eq_some'.mp h
        obtain ⟨rfl, rfl⟩ := Prod.mk.inj he
        obtain ⟨busy, p, rest, rfl, hb, hp, rfl⟩ := ih.mp hl
        exact ⟨q :: busy, p, rest, rfl,
          List.forall_mem_cons.mpr ⟨⟨⟨pid, hq, not_lt.mp hneg⟩, hre⟩, hb⟩, hp, rfl⟩
      · simp at h
    · rintro ⟨busy, p, rest, he, hb, ⟨pid, hp, hneg⟩, rfl⟩
      rcases busy with _ | ⟨b, busy⟩
      · obtain ⟨rfl, rfl⟩ : q = p ∧ passes = rest := by simpa using he
        simp [flushLoop, hp, hneg]
      · obtain ⟨rfl, rfl⟩ : q = b ∧ passes = busy ++ p :: rest := by simpa using he
        obtain ⟨⟨pid', hq, hpid'⟩, hre⟩ := hb q (List.mem_cons_self _ _)
        have hl := ih.mpr ⟨busy, p, rest, rfl, fun x hx => hb x (List.mem_cons_of_mem _ hx),
          ⟨pid, hp, hneg⟩, rfl⟩
        simp [flushLoop, hq, not_lt.mpr hpid', hre, hl, List.replicate_succ]

/-- flush returns 0 exactly when a pass finds no autoupdate process and every pass before
it found one and reopened the database; it has then printed one line per earlier pass. -/
theorem flush_eq_zero_iff {passes : List FlushPass} {out : List Line} :
    flush passes = some (0, out) ↔ ∃ busy p rest, passes = busy ++ p :: rest ∧
      (∀ b ∈ busy, b.Busy) ∧ (∃ pid, p.autoupdatePid = some pid ∧ pid < 0) ∧
      out = .out "Flush" :: List.replicate busy.length flushRetry ++ [.out "Flushed."] := by
  constructor
  · intro hf
    obtain ⟨⟨rc, out'⟩, hl, he⟩ := Option.map_eq_some'.mp hf
    obtain ⟨rfl, rfl⟩ := Prod.mk.inj he
    obtain ⟨busy, p, rest, hp, hb, hpid, rfl⟩ := flushLoop_eq_zero_iff.mp hl
    exact ⟨busy, p, rest, hp, hb, hpid, rfl⟩
  · rintro ⟨busy, p, rest, hp, hb, hpid, rfl⟩
    simp [flush, flushLoop_eq_zero_iff.mpr ⟨busy, p, rest, hp, hb, hpid, rfl⟩]

end Tup
