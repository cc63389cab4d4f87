import Tup.Entry

/-! The commands tup's test suite sets a database up with: fake_mtime, which gives a node
the mtime written as its second argument, fake_parser_version and ghost_check; and the two
dumps dbconfig and options, which are the same kind of fixed sequence of calls.
fake_mtime reads its time with strtol in base 0, which is modelled here as C11 has it and
proved equal to the standard's own wording: the longest integer constant. main.c defines
_GNU_SOURCE, which on glibc 2.38 and later selects C23's strtol, where base 0 also reads
0b and 0B binary constants; that reading is not the one modelled. -/
namespace Tup

def cDigitVal (c : Char) : Option Nat :=
  if 48 ≤ c.toNat ∧ c.toNat ≤ 57 then some (c.toNat - 48)
  else if 97 ≤ c.toNat ∧ c.toNat ≤ 122 then some (c.toNat - 87)
  else if 65 ≤ c.toNat ∧ c.toNat ≤ 90 then some (c.toNat - 55)
  else none

def cDigitIn (base : Nat) (c : Char) : Bool := (cDigitVal c).any (· < base)

def baseValue (base : Nat) (ds : List Char) : Nat :=
  ds.foldl (fun n c => base * n + (cDigitVal c).getD 0) 0

def clampLong (v : Int) : Int :=
  if v < longMin then longMin else if longMax < v then longMax else v

theorem baseValue_zero_cons (b : Nat) (ds : List Char) :
    baseValue b ('0' :: ds) = baseValue b ds := by
  simp [baseValue, cDigitVal]

theorem isDigit_iff_toNat {c : Char} : c.isDigit = true ↔ 48 ≤ c.toNat ∧ c.toNat ≤ 57 := by
  simp [Char.isDigit, Char.toNat, UInt32.le_def, BitVec.le_def, UInt32.toNat]

theorem cDigitIn_ten (c : Char) : cDigitIn 10 c = c.isDigit := by
  rw [Bool.eq_iff_iff, isDigit_iff_toNat]
  unfold cDigitIn cDigitVal
  split_ifs <;> simp <;> omega

theorem baseValue_ten {ds : List Char} (h : ∀ c ∈ ds, c.isDigit) :
    baseValue 10 ds = digitsValue ds := by
  refine List.foldl_ext _ _ 0 fun n c hc => ?_
  have hc := isDigit_iff_toNat.mp (h c hc)
  simp only [cDigitVal, if_pos hc, Option.getD_some]
  rfl

def strtolBase (u : List Char) : Nat × List Char :=
  match u with
  | '0' :: x :: c :: r => if (x = 'x' ∨ x = 'X') ∧ cDigitIn 16 c then (16, c :: r) else (8, u)
  | '0' :: _ => (8, u)
  | _ => (10, u)

/-- strtol(s, NULL, 0): blanks, an optional sign, then the longest run of digits of the
base strtolBase picks; 0 when there are none. -/
def strtol0 (s : List Char) : Int :=
  let u := (cSign (s.dropWhile cSpace)).2
  let n : Int :=
    baseValue (strtolBase u).1 ((strtolBase u).2.takeWhile (cDigitIn (strtolBase u).1))
  clampLong (if (cSign (s.dropWhile cSpace)).1 then -n else n)

def HexPrefix (t : List Char) : Prop :=
  ∃ x c r, t = x :: c :: r ∧ (x = 'x' ∨ x = 'X') ∧ cDigitIn 16 c = true

theorem strtolBase_of_head_ne {u : List Char} (h : u.head? ≠ some '0') :
    strtolBase u = (10, u) := by
  unfold strtolBase
  split <;> simp_all

theorem strtolBase_hex {x c : Char} (hx : x = 'x' ∨ x = 'X') (hc : cDigitIn 16 c = true)
    (r : List Char) : strtolBase ('0' :: x :: c :: r) = (16, c :: r) := by
  simp [strtolBase, hx, hc]

theorem strtolBase_octal {t : List Char} (h : ¬HexPrefix t) :
    strtolBase ('0' :: t) = (8, '0' :: t) := by
  unfold strtolBase
  split
  · rename_i x c r heq
    obtain ⟨-, rfl⟩ := List.cons.inj heq
    rw [if_neg fun hxc => h ⟨x, c, r, rfl, hxc⟩]
  · rfl
  · simp_all

/-! The C standard's own words for strtol with base 0, to compare the reading above with. -/

/-- An integer constant of C without suffix (C11 6.4.4.1): a nonzero digit and digits, a 0
and octal digits, or 0x or 0X and one or more hex digits. -/
def isIntConst : List Char → Bool
  | '0' :: x :: ds =>
    if x = 'x' ∨ x = 'X' then ds ≠ [] && ds.all (cDigitIn 16) else (x :: ds).all (cDigitIn 8)
  | ['0'] => true
  | d :: ds => (d :: ds).all (cDigitIn 10)
  | [] => false

def intConstValue : List Char → Nat
  | '0' :: x :: ds => if x = 'x' ∨ x = 'X' then baseValue 16 ds else baseValue 8 (x :: ds)
  | ds => baseValue 10 ds

def longestConst (u : List Char) : Nat → Option Nat
  | 0 => if isIntConst (u.take 0) then some 0 else none
  | k + 1 => if isIntConst (u.take (k + 1)) then some (k + 1) else longestConst u k

/-- strtol with base 0 as C11 7.22.1.4 words it: the subject sequence is the longest
initial part of the input, after blanks and an optional sign, that is an integer
constant; with no subject sequence the value is 0. -/
def strtol0Spec (s : List Char) : Int :=
  let u := (cSign (s.dropWhile cSpace)).2
  match (longestConst u u.length).map fun k => intConstValue (u.take k) with
  | none => 0
  | some v => clampLong (if (cSign (s.dropWhile cSpace)).1 then -(v : Int) else v)

theorem longestConst_eq_some {u : List Char} {k m : Nat} (hm : m ≤ k)
    (hc : isIntConst (u.take m)) (hgt : ∀ j, m < j → j ≤ k → isIntConst (u.take j) = false) :
    longestConst u k = some m := by
  induction k with
  | zero =>
    obtain rfl : m = 0 := by omega
    simp [isIntConst] at hc
  | succ k ih =>
    rcases Nat.eq_or_lt_of_le hm with rfl | hlt
    · simp [longestConst, hc]
    · simp only [longestConst, hgt (k + 1) hlt le_rfl]
      exact ih (by omega) fun j h1 h2 => hgt j h1 (by omega)

theorem longestConst_eq_none {u : List Char} {k : Nat}
    (h : ∀ j, j ≤ k → isIntConst (u.take j) = false) : longestConst u k = none := by
  induction k with
  | zero => rfl
  | succ k ih =>
    simp only [longestConst, h (k + 1) le_rfl]
    exact ih fun j hj => h j (by omega)

theorem isIntConst_cons_of_ne {d : Char} (hd : d ≠ '0') (ds : List Char) :
    isIntConst (d :: ds) = (d :: ds).all (cDigitIn 10) := by
  unfold isIntConst
  split <;> simp_all

theorem intConstValue_cons_of_ne {d : Char} (hd : d ≠ '0') (ds : List Char) :
    intConstValue (d :: ds) = baseValue 10 (d :: ds) := by
  unfold intConstValue
  split <;> simp_all

theorem not_hexPrefix_take {t : List Char} (h : ¬HexPrefix t) (j : Nat) :
    ¬HexPrefix (t.take j) := by
  rintro ⟨x, c, r, ht, hx, hc⟩
  obtain ⟨rest, hrest⟩ := List.take_prefix j t
  rw [ht] at hrest
  exact h ⟨x, c, r ++ rest, hrest.symm, hx, hc⟩

theorem isIntConst_zero_cons {ds : List Char} (h : ¬HexPrefix ds) :
    isIntConst ('0' :: ds) = ds.all (cDigitIn 8) := by
  match ds with
  | [] => rfl
  | [y] =>
    by_cases hy : y = 'x' ∨ y = 'X'
    · rcases hy with rfl | rfl <;> rfl
    · simp [isIntConst, hy]
  | y :: c :: r =>
    by_cases hy : y = 'x' ∨ y = 'X'
    · have hc : cDigitIn 16 c = false := by simpa using fun hc => h ⟨y, c, r, rfl, hy, hc⟩
      have hx8 : cDigitIn 8 'x' = false ∧ cDigitIn 8 'X' = false := by decide
      rcases hy with rfl | rfl <;> simp [isIntConst, hc, hx8]
    · simp [isIntConst, hy]

theorem take_length_takeWhile (p : Char → Bool) (l : List Char) :
    l.take (l.takeWhile p).length = l.takeWhile p :=
  (List.prefix_iff_eq_take.mp (List.takeWhile_prefix p)).symm

theorem all_take_of_takeWhile_lt {p : Char → Bool} {l : List Char} {j : Nat}
    (h : (l.takeWhile p).length < j) (hj : j ≤ l.length) : (l.take j).all p = false := by
  induction l generalizing j with
  | nil => simp at hj; omega
  | cons a l ih =>
    obtain ⟨j, rfl⟩ : ∃ j', j = j' + 1 := ⟨j - 1, by omega⟩
    by_cases ha : p a
    · rw [List.takeWhile_cons_of_pos ha, List.length_cons] at h
      rw [List.length_cons] at hj
      simp [ha, @ih j (by omega) (by omega)]
    · simp [ha]

theorem subject_hex {x c : Char} (hx : x = 'x' ∨ x = 'X') (hc : cDigitIn 16 c = true)
    (r : List Char) :
    (longestConst ('0' :: x :: c :: r) (r.length + 3)).map
        (fun k => intConstValue (('0' :: x :: c :: r).take k)) =
      some (baseValue 16 ((c :: r).takeWhile (cDigitIn 16))) := by
  have hRne : (c :: r).takeWhile (cDigitIn 16) ≠ [] := by simp [List.takeWhile_cons_of_pos hc]
  have hlen : ((c :: r).takeWhile (cDigitIn 16)).length ≤ (c :: r).length :=
    (List.takeWhile_prefix _).length_le
  have htake : ('0' :: x :: c :: r).take (((c :: r).takeWhile (cDigitIn 16)).length + 2) =
      '0' :: x :: (c :: r).takeWhile (cDigitIn 16) := by
    simp only [List.take_succ_cons, take_length_takeWhile]
  have hk : longestConst ('0' :: x :: c :: r) (r.length + 3) =
      some (((c :: r).takeWhile (cDigitIn 16)).length + 2) := by
    apply longestConst_eq_some
    · simp only [List.length_cons] at hlen; omega
    · rw [htake]; simp [isIntConst, hx, hRne, List.all_takeWhile]
    · intro j hj hju
      obtain ⟨j, rfl⟩ : ∃ j', j = j' + 2 := ⟨j - 2, by omega⟩
      have hall := @all_take_of_takeWhile_lt (cDigitIn 16) (c :: r) j (by omega)
        (by simp only [List.length_cons]; omega)
      simp [List.take_succ_cons, isIntConst, hx, hall]
  rw [hk, Option.map_some', htake]
  simp [intConstValue, hx]

theorem subject_octal {t : List Char} (h : ¬HexPrefix t) :
    (longestConst ('0' :: t) (t.length + 1)).map
        (fun k => intConstValue (('0' :: t).take k)) =
      some (baseValue 8 (('0' :: t).takeWhile (cDigitIn 8))) := by
  have hlen : (t.takeWhile (cDigitIn 8)).length ≤ t.length := (List.takeWhile_prefix _).length_le
  have htake : ('0' :: t).take ((t.takeWhile (cDigitIn 8)).length + 1) =
      '0' :: t.takeWhile (cDigitIn 8) := by
    simp only [List.take_succ_cons, take_length_takeWhile]
  have hR : ¬HexPrefix (t.takeWhile (cDigitIn 8)) := by
    rw [← take_length_takeWhile]; exact not_hexPrefix_take h _
  have hk : longestConst ('0' :: t) (t.length + 1) =
      some ((t.takeWhile (cDigitIn 8)).length + 1) := by
    apply longestConst_eq_some (by omega)
    · rw [htake, isIntConst_zero_cons hR, List.all_takeWhile]
    · intro j hj hju
      obtain ⟨j, rfl⟩ : ∃ j', j = j' + 1 := ⟨j - 1, by omega⟩
      rw [List.take_succ_cons, isIntConst_zero_cons (not_hexPrefix_take h j)]
      exact all_take_of_takeWhile_lt (by omega) (by omega)
  rw [hk, Option.map_some', htake, List.takeWhile_cons_of_pos (by decide : cDigitIn 8 '0' = true),
    baseValue_zero_cons]
  rcases hr : t.takeWhile (cDigitIn 8) with _ | ⟨y, ys⟩
  · rfl
  · have hy : cDigitIn 8 y = true := List.all_eq_true.mp (hr ▸ List.all_takeWhile) y (by simp)
    have hyx : ¬(y = 'x' ∨ y = 'X') := by rintro (rfl | rfl) <;> exact absurd hy (by decide)
    simp [intConstValue, hyx]

theorem subject_decimal {u : List Char} (h : u.head? ≠ some '0') :
    (longestConst u u.length).map (fun k => intConstValue (u.take k)) =
      if u.takeWhile (cDigitIn 10) = [] then none
      else some (baseValue 10 (u.takeWhile (cDigitIn 10))) := by
  rcases u with _ | ⟨d, t⟩
  · rfl
  have hd : d ≠ '0' := fun hd => h (by rw [hd]; rfl)
  have hconst : ∀ j, isIntConst ((d :: t).take (j + 1)) =
      ((d :: t).take (j + 1)).all (cDigitIn 10) := fun j => isIntConst_cons_of_ne hd _
  by_cases hdig : cDigitIn 10 d = true
  · have hlen : ((d :: t).takeWhile (cDigitIn 10)).length ≤ (d :: t).length :=
      (List.takeWhile_prefix _).length_le
    have hR : (d :: t).takeWhile (cDigitIn 10) = d :: t.takeWhile (cDigitIn 10) :=
      List.takeWhile_cons_of_pos hdig
    have hk : longestConst (d :: t) (d :: t).length =
        some ((d :: t).takeWhile (cDigitIn 10)).length := by
      apply longestConst_eq_some hlen
      · rw [hR, List.length_cons, hconst, ← List.length_cons, ← hR, take_length_takeWhile,
          List.all_takeWhile]
      · intro j hj hju
        obtain ⟨j, rfl⟩ : ∃ j', j = j' + 1 := ⟨j - 1, by omega⟩
        rw [hconst]
        exact all_take_of_takeWhile_lt hj hju
    rw [hk, Option.map_some', take_length_takeWhile, hR, if_neg (List.cons_ne_nil _ _),
      intConstValue_cons_of_ne hd]
  · have hR : (d :: t).takeWhile (cDigitIn 10) = [] := List.takeWhile_cons_of_neg hdig
    rw [longestConst_eq_none, hR, if_pos rfl]
    · rfl
    intro j _
    rcases j with _ | j
    · rfl
    · rw [hconst, List.take_succ_cons, List.all_cons]
      simp [hdig]

/-- strtol with base 0 reads what C11 says it reads: the longest integer constant after
the blanks and the sign. -/
theorem strtol0_eq_spec (s : List Char) : strtol0 s = strtol0Spec s := by
  unfold strtol0 strtol0Spec
  obtain ⟨neg, u⟩ := cSign (s.dropWhile cSpace)
  dsimp only
  by_cases h0 : u.head? = some '0'
  · obtain ⟨t, rfl⟩ : ∃ t, u = '0' :: t := by
      rcases u with _ | ⟨d, t⟩ <;> simp at h0
      exact ⟨t, by rw [h0]⟩
    by_cases hx : HexPrefix t
    · obtain ⟨x, c, r, rfl, hx, hc⟩ := hx
      rw [strtolBase_hex hx hc, List.length_cons, List.length_cons, List.length_cons,
        subject_hex hx hc]
    · rw [strtolBase_octal hx, List.length_cons, subject_octal hx]
  · rw [strtolBase_of_head_ne h0, subject_decimal h0]
    by_cases hR : u.takeWhile (cDigitIn 10) = []
    · rw [if_pos hR]
      dsimp only
      rw [hR]
      cases neg <;> rfl
    · rw [if_neg hR]

example : strtol0 "010".toList = 8 ∧ strtol0 " -0x1fz".toList = -31 := by decide
example : strtol0 "08".toList = 0 ∧ strtol0 "0x".toList = 0 ∧ strtol0 "1e9".toList = 1 := by
  decide

/-- Where a number does not start with 0, fake_mtime reads it as entry reads an id. -/
theorem strtol0_eq_strtol10 {s : List Char}
    (h : (cSign (s.dropWhile cSpace)).2.head? ≠ some '0') : strtol0 s = (strtol10 s).1 := by
  have hdig : cDigitIn 10 = Char.isDigit := funext cDigitIn_ten
  unfold strtol0 strtol10
  generalize cSign (s.dropWhile cSpace) = p at h ⊢
  obtain ⟨neg, u⟩ := p
  dsimp only at h ⊢
  rw [strtolBase_of_head_ne h, hdig]
  by_cases hds : u.takeWhile Char.isDigit = []
  · rw [if_pos hds, hds]
    cases neg <;> rfl
  · rw [if_neg hds, baseValue_ten fun c hc => List.all_eq_true.mp List.all_takeWhile c hc]
    rfl

theorem strtol0_eq_strtol10_minus :
    (cSign (" -12".toList.dropWhile cSpace)).2.head? ≠ some '0' ∧
      strtol0 " -12".toList = (strtol10 " -12".toList).1 :=
  have h : (cSign (" -12".toList.dropWhile cSpace)).2.head? ≠ some '0' := by decide
  ⟨h, strtol0_eq_strtol10 h⟩

structure Timespec where
  sec : Int
  nsec : Int
  deriving DecidableEq, Repr

/-- What fake_mtime's calls return: tup_db_begin, get_sub_dir_dt, find_dir_tupid_dt (the
directory and the last path element, which it is taken to set), tup_entry_add of the
directory, tup_db_select_tent_part (`none` when it fails, `some none` when there is no such
node), tup_db_set_mtime of a node and a timespec, and tup_db_commit. -/
structure MtimeStore where
  begin : Bool
  subDirDt : Int
  findDirDt : Int → String → Int × String
  entryAdd : Int → Bool
  selectTentPart : Int → String → Option (Option TupEntry)
  setMtime : TupEntry → Timespec → Bool
  commit : Bool

/-- fake_mtime: the status, what it prints, and the node and timespec it gave
tup_db_set_mtime when it got that far. It sets only tv_sec: `nsec` is whatever its stack
held where `mtime` lives, and reaches tup_db_set_mtime as tv_nsec. -/
def fakeMtime (st : MtimeStore) (nsec : Int) :
    List String → Int × List Line × Option (TupEntry × Timespec)
  | [file, mtime] =>
    if !st.begin then (-1, [], none)
    else if st.subDirDt < 0 then (-1, [], none)
    else
      let pel := st.findDirDt st.subDirDt file
      if pel.1 < 0 then (-1, [.err s!"tup error: Unable to find dt for node: {file}"], none)
      else if !st.entryAdd pel.1 then (-1, [], none)
      else
        match st.selectTentPart pel.1 pel.2 with
        | none => (-1, [], none)
        | some none => (-1, [.err s!"Unable to find node '{pel.2}' in dir {pel.1}"], none)
        | some (some tent) =>
          let ts : Timespec := ⟨strtol0 mtime.toList, nsec⟩
          (if st.setMtime tent ts && st.commit then 0 else -1, [], some (tent, ts))
  | _ => (-1, [.err "tup error: fake_mtime requires a file and an mtime."], none)

/-- The status of a command that makes a fixed sequence of calls and returns -1 at the first
that fails, from what each call returns. -/
def callsStatus : List Bool → Int
  | [] => 0
  | ok :: rest => if ok then callsStatus rest else -1

def dbconfig (showConfig : Bool) : Int := callsStatus [showConfig]

def options (optionShow : Bool) : Int := callsStatus [optionShow]

def fakeParserVersion (begin : Bool) (configSetInt : String → Int → Bool) (commit : Bool) :
    Int :=
  callsStatus [begin, configSetInt "parser_version" 0, commit]

def ghostCheck (begin addAllGhosts commit : Bool) : Int :=
  callsStatus [begin, addAllGhosts, commit]

theorem callsStatus_eq (oks : List Bool) :
    callsStatus oks = if oks.all id then 0 else -1 := by
  induction oks with
  | nil => rfl
  | cons ok rest ih => cases ok <;> simp [callsStatus, ih]

end Tup
