import Tup.Db

/-! `tup entry` and `tup type` name nodes by id or by path: an argument that strtol reads
to its end is an id. `tup tupid` and `tup commandline` take paths only, and stop at one
that names no node. `tup inputs` takes command ids, which strtol reads from the start of
each argument. strtol is modelled as the C standard has it for base 10. -/
namespace Tup

/-- isspace in the C locale. -/
def cSpace (c : Char) : Bool :=
  c = ' ' || c = '\t' || c = '\n' || c = '\x0b' || c = '\x0c' || c = '\r'

def cSign : List Char → Bool × List Char
  | '-' :: u => (true, u)
  | '+' :: u => (false, u)
  | u => (false, u)

def digitsValue (ds : List Char) : Nat :=
  ds.foldl (fun n d => 10 * n + (d.toNat - '0'.toNat)) 0

/-- `LONG_MIN` and `LONG_MAX` of a 64-bit long. -/
def longMin : Int := -9223372036854775808

def longMax : Int := 9223372036854775807

/-- strtol(s, &endptr, 10), as the C standard has it: blanks, an optional sign, then the
longest run of digits. The value is clamped to the range of a 64-bit long; what is left at
endptr is the input after the digits, or all of it when there are none. -/
def strtol10 (s : List Char) : Int × List Char :=
  let u := (cSign (s.dropWhile cSpace)).2
  let ds := u.takeWhile Char.isDigit
  if ds = [] then (0, s)
  else
    let v : Int := if (cSign (s.dropWhile cSpace)).1 then -(digitsValue ds : Int) else digitsValue ds
    (if v < longMin then longMin else if longMax < v then longMax else v,
      u.dropWhile Char.isDigit)

theorem cSign_eq (t : List Char) : ∃ sign, t = sign ++ (cSign t).2 ∧
    (sign = [] ∨ sign = ['-'] ∨ sign = ['+']) := by
  unfold cSign
  split
  · exact ⟨['-'], rfl, by simp⟩
  · exact ⟨['+'], rfl, by simp⟩
  · exact ⟨[], rfl, by simp⟩

theorem cSign_of_digit {d : Char} (hd : d.isDigit = true) (ds : List Char) :
    cSign (d :: ds) = (false, d :: ds) := by
  unfold cSign
  split
  · rename_i h
    obtain ⟨rfl, -⟩ := List.cons.inj h
    exact absurd hd (by decide)
  · rename_i h
    obtain ⟨rfl, -⟩ := List.cons.inj h
    exact absurd hd (by decide)
  · rfl

theorem cSpace_of_isDigit {d : Char} (hd : d.isDigit = true) : cSpace d = false := by
  by_contra h
  simp only [cSpace, Bool.not_eq_false, Bool.or_eq_true, decide_eq_true_eq] at h
  rcases h with ((((rfl | rfl) | rfl) | rfl) | rfl) | rfl <;> exact absurd hd (by decide)

theorem strtol10_rest_eq_nil_iff {s : List Char} :
    (strtol10 s).2 = [] ↔ s = [] ∨ ∃ ws sign ds, s = ws ++ sign ++ ds ∧
      (∀ c ∈ ws, cSpace c) ∧ (sign = [] ∨ sign = ['-'] ∨ sign = ['+']) ∧ ds ≠ [] ∧
      ∀ c ∈ ds, c.isDigit := by
  constructor
  · intro h
    by_cases hds : (cSign (s.dropWhile cSpace)).2.takeWhile Char.isDigit = []
    · simp only [strtol10, hds, if_true] at h
      exact .inl h
    · simp only [strtol10, hds, if_false] at h
      right
      obtain ⟨sign, hsign, hs⟩ := cSign_eq (s.dropWhile cSpace)
      have hall := List.dropWhile_eq_nil_iff.mp h
      refine ⟨s.takeWhile cSpace, sign, _, ?_, fun c hc => List.mem_takeWhile_imp hc, hs,
        fun hu => hds (by rw [hu]; rfl), hall⟩
      rw [List.append_assoc, ← hsign, List.takeWhile_append_dropWhile]
  · rintro (rfl | ⟨ws, sign, ds, rfl, hws, hsign, hds, hdig⟩)
    · rfl
    obtain ⟨d, ds', rfl⟩ := List.exists_cons_of_ne_nil hds
    have hd : d.isDigit = true := hdig d (List.mem_cons_self _ _)
    have hdrop : (ws ++ sign ++ d :: ds').dropWhile cSpace = sign ++ d :: ds' := by
      rw [List.append_assoc, List.dropWhile_append_of_pos hws]
      rcases hsign with rfl | rfl | rfl
      · exact List.dropWhile_cons_of_neg (by simp [cSpace_of_isDigit hd])
      all_goals exact List.dropWhile_cons_of_neg (by decide)
    have hu : (cSign (sign ++ d :: ds')).2 = d :: ds' := by
      rcases hsign with rfl | rfl | rfl
      · simp [cSign_of_digit hd]
      all_goals rfl
    have htake : (d :: ds').takeWhile Char.isDigit = d :: ds' :=
      List.takeWhile_eq_self_iff.mpr hdig
    simp only [strtol10, hdrop, hu, htake, reduceCtorEq, if_false]
    exact List.dropWhile_eq_nil_iff.mpr hdig

example : strtol10 "12abc".toList = (12, "abc".toList) := by decide

theorem strtol10_digits_append {ds rest : List Char} (hds : ds ≠ [])
    (hdig : ∀ c ∈ ds, c.isDigit) (hrest : ∀ c ∈ rest.head?, c.isDigit = false) :
    strtol10 (ds ++ rest) = ((strtol10 ds).1, rest) := by
  obtain ⟨d, ds', rfl⟩ := List.exists_cons_of_ne_nil hds
  have hd : d.isDigit = true := hdig d (List.mem_cons_self _ _)
  have hsp : ¬cSpace d = true := by simp [cSpace_of_isDigit hd]
  have htake : (rest.takeWhile Char.isDigit) = [] := by
    cases rest with
    | nil => rfl
    | cons c _ => exact List.takeWhile_cons_of_neg (by simp [hrest c rfl])
  have hdrop : (rest.dropWhile Char.isDigit) = rest := by
    cases rest with
    | nil => rfl
    | cons c _ => exact List.dropWhile_cons_of_neg (by simp [hrest c rfl])
  have hsp' : ((d :: ds') ++ rest).dropWhile cSpace = (d :: ds') ++ rest :=
    List.dropWhile_cons_of_neg hsp
  have hsign : cSign ((d :: ds') ++ rest) = (false, (d :: ds') ++ rest) := cSign_of_digit hd _
  have ht : ((d :: ds') ++ rest).takeWhile Char.isDigit = d :: ds' := by
    rw [List.takeWhile_append_of_pos hdig, htake, List.append_nil]
  have hdr : ((d :: ds') ++ rest).dropWhile Char.isDigit = rest := by
    rw [List.dropWhile_append_of_pos hdig, hdrop]
  simp only [strtol10, hsp', hsign, ht, hdr, List.dropWhile_cons_of_neg hsp, cSign_of_digit hd,
    List.takeWhile_eq_self_iff.mpr hdig, reduceCtorEq, if_false]

theorem digitChar_isDigit {k : Nat} (hk : k < 10) :
    (Nat.digitChar k).isDigit = true ∧ (Nat.digitChar k).toNat - '0'.toNat = k := by
  have h : ∀ k < 10, (Nat.digitChar k).isDigit = true ∧ (Nat.digitChar k).toNat - '0'.toNat = k := by
    decide
  exact h k hk

theorem toDigitsCore_succ_ten (fuel n : Nat) (ds : List Char) :
    Nat.toDigitsCore 10 (fuel + 1) n ds =
      if n / 10 = 0 then Nat.digitChar (n % 10) :: ds
      else Nat.toDigitsCore 10 fuel (n / 10) (Nat.digitChar (n % 10) :: ds) := rfl

theorem toDigitsCore_ten {fuel n : Nat} (hn : n < fuel) (ds : List Char) :
    ∃ l, Nat.toDigitsCore 10 fuel n ds = l ++ ds ∧ l ≠ [] ∧ (∀ c ∈ l, c.isDigit) ∧
      digitsValue l = n := by
  induction fuel generalizing n ds with
  | zero => omega
  | succ fuel ih =>
    obtain ⟨hd, hv⟩ := digitChar_isDigit (Nat.mod_lt n (by decide : 10 > 0))
    by_cases h0 : n / 10 = 0
    · refine ⟨[Nat.digitChar (n % 10)], by simp [toDigitsCore_succ_ten, h0], by simp, by simp [hd], ?_⟩
      simp only [digitsValue, List.foldl_cons, List.foldl_nil, hv]
      omega
    · obtain ⟨l, hl, hne, hdig, hval⟩ := ih (by omega : n / 10 < fuel) (Nat.digitChar (n % 10) :: ds)
      refine ⟨l ++ [Nat.digitChar (n % 10)], by simp [toDigitsCore_succ_ten, h0, hl], by simp, ?_, ?_⟩
      · intro c hc
        rcases List.mem_append.mp hc with hc | hc
        · exact hdig c hc
        · rw [List.mem_singleton.mp hc]; exact hd
      · simp only [digitsValue, List.foldl_append, List.foldl_cons, List.foldl_nil, hv] at hval ⊢
        rw [hval]
        omega

theorem toDigits_ten (n : Nat) : Nat.toDigits 10 n ≠ [] ∧ (∀ c ∈ Nat.toDigits 10 n, c.isDigit) ∧
    digitsValue (Nat.toDigits 10 n) = n := by
  obtain ⟨l, hl, hl'⟩ := toDigitsCore_ten (Nat.lt_succ_self n) []
  rw [List.append_nil] at hl
  rw [show Nat.toDigits 10 n = Nat.toDigitsCore 10 (n + 1) n [] from rfl, hl]
  exact hl'

theorem strtol10_minus_digits (neg : Bool) {ds : List Char} (hne : ds ≠ [])
    (hdig : ∀ c ∈ ds, c.isDigit) :
    strtol10 ((if neg then ['-'] else []) ++ ds) =
      (let v : Int := if neg then -(digitsValue ds : Int) else digitsValue ds
       if v < longMin then longMin else if longMax < v then longMax else v, []) := by
  obtain ⟨d, ds', rfl⟩ := List.exists_cons_of_ne_nil hne
  have hd : d.isDigit = true := hdig d (List.mem_cons_self _ _)
  have hsp : ¬cSpace d = true := by simp [cSpace_of_isDigit hd]
  have hu : cSign (((if neg then ['-'] else []) ++ d :: ds').dropWhile cSpace) = (neg, d :: ds') := by
    cases neg
    · simp only [Bool.false_eq_true, ite_false, List.nil_append, List.dropWhile_cons_of_neg hsp,
        cSign_of_digit hd]
    · rfl
  simp only [strtol10, hu, List.takeWhile_eq_self_iff.mpr hdig, reduceCtorEq, if_false,
    List.dropWhile_eq_nil_iff.mpr hdig]

theorem strtol10_toString {n : Int} (hmin : longMin ≤ n) (hmax : n ≤ longMax) :
    strtol10 (toString n).toList = (n, []) := by
  cases n with
  | ofNat m =>
    obtain ⟨hne, hdig, hv⟩ := toDigits_ten m
    have h := strtol10_minus_digits false hne hdig
    simp only [Bool.false_eq_true, ite_false, List.nil_append, hv] at h
    rw [show (toString (Int.ofNat m)).toList = Nat.toDigits 10 m from rfl, h]
    simp only [Int.ofNat_eq_coe] at hmin hmax ⊢
    rw [if_neg (not_lt.mpr hmin), if_neg (not_lt.mpr hmax)]
  | negSucc m =>
    obtain ⟨hne, hdig, hv⟩ := toDigits_ten (m + 1)
    have h := strtol10_minus_digits true hne hdig
    simp only [ite_true, hv] at h
    rw [show (toString (Int.negSucc m)).toList = ['-'] ++ Nat.toDigits 10 (m + 1) from rfl, h]
    rw [Int.negSucc_coe] at hmin hmax ⊢
    rw [if_neg (not_lt.mpr hmin), if_neg (not_lt.mpr hmax)]

/-- What entry's and type's calls return: tup_db_begin, tup_entry_add of a tupid and
gimme_tent of a path (`none` when they fail, `some none` when there is no such entry), and
tup_db_commit. -/
structure EntryStore where
  begin : Bool
  entryAdd : Int → Option (Option TupEntry)
  gimmeTent : String → Option (Option TupEntry)
  commit : Bool

def entryArg (arg : String) : Int ⊕ String :=
  if (strtol10 arg.toList).2 = [] then .inl (strtol10 arg.toList).1 else .inr arg

def entryLookup (st : EntryStore) (arg : String) : Except (List Line) (Option TupEntry) :=
  match entryArg arg with
  | .inl tupid =>
    match st.entryAdd tupid with
    | none => .error []
    | some tent => .ok tent
  | .inr path =>
    match st.gimmeTent path with
    | none => .error [.err "No tent :("]
    | some tent => .ok tent

def entryLoop (st : EntryStore) (render : TupEntry → String) :
    List String → Except (List Line) (List Line)
  | [] => .ok []
  | arg :: rest =>
    match entryLookup st arg with
    | .error out => .error out
    | .ok tent =>
      match entryLoop st render rest with
      | .error out => .error ((tent.map fun t => Line.out (render t)).toList ++ out)
      | .ok out => .ok ((tent.map fun t => Line.out (render t)).toList ++ out)

def entryRun (st : EntryStore) (render : TupEntry → String) (argv : List String) :
    Int × List Line :=
  if !st.begin then (-1, []) else
  match entryLoop st render argv with
  | .error out => (-1, out)
  | .ok out => if st.commit then (0, out) else (-1, out)

def entry (st : EntryStore) (printEntry : TupEntry → String) (argv : List String) :
    Int × List Line :=
  entryRun st printEntry argv

def type (st : EntryStore) (typeName : NodeType → String) (argv : List String) :
    Int × List Line :=
  entryRun st (fun t => typeName t.type) argv

/-- entry and type read an argument as a tupid exactly when it is empty, or blanks, an
optional sign and one or more digits; any other argument is a path. -/
theorem entryArg_tupid_iff {arg : String} :
    (∃ tupid, entryArg arg = .inl tupid) ↔ arg = "" ∨ ∃ ws sign ds, arg.toList = ws ++ sign ++ ds ∧
      (∀ c ∈ ws, cSpace c) ∧ (sign = [] ∨ sign = ['-'] ∨ sign = ['+']) ∧ ds ≠ [] ∧
      ∀ c ∈ ds, c.isDigit := by
  have hnil : arg.toList = [] ↔ arg = "" := String.ext_iff.symm
  rw [← hnil, ← strtol10_rest_eq_nil_iff]
  unfold entryArg
  split_ifs with h
  · exact iff_of_true ⟨_, rfl⟩ h
  · exact iff_of_false (fun ⟨_, he⟩ => nomatch he) h

example : entryArg "" = .inl 0 := by decide
example : entryArg "12 " = .inr "12 " := by decide

theorem entryLoop_eq_ok {st : EntryStore} {render : TupEntry → String} {argv : List String}
    {out : List Line} :
    entryLoop st render argv = .ok out ↔ ∃ tents : List (Option TupEntry),
      List.Forall₂ (fun arg t => entryLookup st arg = .ok t) argv tents ∧
        out = (tents.filterMap id).map fun t => .out (render t) := by
  induction argv generalizing out with
  | nil => simp [entryLoop, eq_comm]
  | cons arg rest ih =>
    rw [entryLoop]
    constructor
    · intro h
      rcases hl : entryLookup st arg with e | tent <;>
        rcases hr : entryLoop st render rest with e' | out' <;> simp [hl, hr] at h
      obtain ⟨tents, h₁, rfl⟩ := ih.mp hr
      refine ⟨tent :: tents, .cons hl h₁, ?_⟩
      cases tent <;> simp [← h]
    · rintro ⟨tents, h, rfl⟩
      obtain ⟨tent, tents, hl, h₁, rfl⟩ := List.forall₂_cons_left_iff.mp h
      rw [hl, ih.mpr ⟨tents, h₁, rfl⟩]
      cases tent <;> simp

/-- entry and type return 0 exactly when tup_db_begin and tup_db_commit succeed and every
argument's lookup succeeds; they print, in order, one line for each argument that names a
node. -/
theorem entryRun_eq_zero_iff {st : EntryStore} {render : TupEntry → String}
    {argv : List String} {out : List Line} :
    entryRun st render argv = (0, out) ↔ st.begin = true ∧ st.commit = true ∧
      ∃ tents : List (Option TupEntry),
        List.Forall₂ (fun arg t => entryLookup st arg = .ok t) argv tents ∧
          out = (tents.filterMap id).map fun t => .out (render t) := by
  rw [← entryLoop_eq_ok]
  unfold entryRun
  cases st.begin <;> cases st.commit <;> rcases entryLoop st render argv with e | o <;> simp [eq_comm]

/-- The loop tupid and commandline share: for each argument in order, what `act` writes for
the node gimme_tent finds for it, and whether `act` succeeds. It stops, with what it prints
there, at the first failure; an argument that names no node is one, where entry and type
skip it. -/
def tentLoop {α : Type} (st : EntryStore) (act : TupEntry → α × Bool) :
    List String → List α × Option (List Line)
  | [] => ([], none)
  | arg :: rest =>
    match st.gimmeTent arg with
    | none => ([], some [.err "No tent :("])
    | some none => ([], some [.err s!"tup error: entry not found for '{arg}'"])
    | some (some t) =>
      if (act t).2 then
        let r := tentLoop st act rest
        ((act t).1 :: r.1, r.2)
      else ([(act t).1], some [])

def tupid (st : EntryStore) (argv : List String) : Int × List Line :=
  if !st.begin then (-1, []) else
  let r := tentLoop st (fun t => (toString t.tupid, true)) argv
  match r.2 with
  | some err => (-1, r.1.map .out ++ err)
  | none => if st.commit then (0, r.1.map .out) else (-1, r.1.map .out)

/-- commandline: what it writes to stdout, as text (tup_db_print_commandline's output is
not in lines), and to stderr; `printCommandline` is what tup_db_print_commandline writes
for a node and whether it succeeds. -/
def commandline (st : EntryStore) (variantLoad : Bool)
    (printCommandline : TupEntry → String × Bool) (argv : List String) :
    Int × String × List Line :=
  if !st.begin then (-1, "", [])
  else if !variantLoad then (-1, "", [])
  else
    let r := tentLoop st printCommandline argv
    let out := "[\n" ++ String.join r.1
    match r.2 with
    | some err => (-1, out, err)
    | none => (if st.commit then 0 else -1, out ++ "\n]\n", [])

theorem tentLoop_eq_none {α : Type} {st : EntryStore} {act : TupEntry → α × Bool}
    {argv : List String} {outs : List α} :
    tentLoop st act argv = (outs, none) ↔ ∃ tents : List TupEntry,
      List.Forall₂ (fun arg t => st.gimmeTent arg = some (some t)) argv tents ∧
        (∀ t ∈ tents, (act t).2 = true) ∧ outs = tents.map fun t => (act t).1 := by
  induction argv generalizing outs with
  | nil =>
    refine ⟨fun h => ⟨[], .nil, by simp, (Prod.mk.inj h).1.symm⟩, ?_⟩
    rintro ⟨tents, h, -, rfl⟩
    cases List.forall₂_nil_left_iff.mp h
    rfl
  | cons arg rest ih =>
    rw [tentLoop]
    constructor
    · intro h
      rcases hg : st.gimmeTent arg with _ | _ | t <;> simp only [hg, Prod.mk.injEq, reduceCtorEq,
        and_false] at h
      split_ifs at h with ha
      · obtain ⟨h₁, h₂⟩ := Prod.mk.inj h
        obtain ⟨tents, hf, hall, hr⟩ := ih.mp (Prod.ext rfl h₂)
        exact ⟨t :: tents, .cons hg hf, List.forall_mem_cons.mpr ⟨ha, hall⟩, by
          simp only [← h₁, hr, List.map_cons]⟩
      · simp at h
    · rintro ⟨tents, h, hall, rfl⟩
      obtain ⟨t, tents, hg, h₁, rfl⟩ := List.forall₂_cons_left_iff.mp h
      obtain ⟨ha, hall⟩ := List.forall_mem_cons.mp hall
      simp [hg, ha, ih.mpr ⟨tents, h₁, hall, rfl⟩]

/-- tupid returns 0 exactly when tup_db_begin and tup_db_commit succeed and gimme_tent finds
a node for every argument; it prints their ids, in order. -/
theorem tupid_eq_zero_iff {st : EntryStore} {argv : List String} {out : List Line} :
    tupid st argv = (0, out) ↔ st.begin = true ∧ st.commit = true ∧
      ∃ tents : List TupEntry,
        List.Forall₂ (fun arg t => st.gimmeTent arg = some (some t)) argv tents ∧
          out = tents.map fun t => .out (toString t.tupid) := by
  have hloop : ∀ {tents : List TupEntry},
      List.Forall₂ (fun arg t => st.gimmeTent arg = some (some t)) argv tents →
      tentLoop st (fun t => (toString t.tupid, true)) argv =
        (tents.map fun t => toString t.tupid, none) :=
    fun hf => tentLoop_eq_none.mpr ⟨_, hf, by simp, rfl⟩
  unfold tupid
  cases hb : st.begin
  · simp
  rcases hl : tentLoop st (fun t => (toString t.tupid, true)) argv with ⟨ids, _ | err⟩
  · obtain ⟨tents, hf, -, rfl⟩ := tentLoop_eq_none.mp hl
    cases hc : st.commit
    · simp
    · simp only [hc, Bool.not_true, Bool.false_eq_true, ite_false, ite_true, Prod.mk.injEq,
        true_and]
      refine ⟨fun h => ⟨tents, hf, by rw [← h, List.map_map]; rfl⟩, ?_⟩
      rintro ⟨tents', hf', rfl⟩
      rw [(Prod.mk.inj ((hloop hf').symm.trans hl)).1.symm, List.map_map]
      rfl
  · refine iff_of_false (by simp) ?_
    rintro ⟨-, -, tents, hf, -⟩
    simp [hloop hf] at hl

/-- commandline returns 0 exactly when tup_db_begin, variant_load and tup_db_commit
succeed, gimme_tent finds a node for every argument and tup_db_print_commandline succeeds
on each. It has then written an opening bracket, what tup_db_print_commandline wrote for
each node in order, and the closing bracket. -/
theorem commandline_eq_zero_iff {st : EntryStore} {variantLoad : Bool}
    {printCommandline : TupEntry → String × Bool} {argv : List String} :
    (commandline st variantLoad printCommandline argv).1 = 0 ↔
      st.begin = true ∧ variantLoad = true ∧ st.commit = true ∧ ∃ tents : List TupEntry,
        List.Forall₂ (fun arg t => st.gimmeTent arg = some (some t)) argv tents ∧
        (∀ t ∈ tents, (printCommandline t).2 = true) ∧
        (commandline st variantLoad printCommandline argv).2.1 =
          "[\n" ++ String.join (tents.map fun t => (printCommandline t).1) ++ "\n]\n" := by
  unfold commandline
  cases hb : st.begin
  · simp
  cases hv : variantLoad
  · simp
  rcases hl : tentLoop st printCommandline argv with ⟨outs, _ | err⟩
  · obtain ⟨tents, hf, hall, rfl⟩ := tentLoop_eq_none.mp hl
    cases hc : st.commit
    · simp
    · simp only [Bool.not_true, Bool.false_eq_true, ite_false, ite_true, true_and]
      exact iff_of_true trivial ⟨tents, hf, hall, rfl⟩
  · refine iff_of_false (by simp) ?_
    rintro ⟨-, -, -, tents, hf, hall, -⟩
    simp [tentLoop_eq_none.mpr ⟨tents, hf, hall, rfl⟩] at hl

theorem entryArg_toString {n : Int} (hmin : longMin ≤ n) (hmax : n ≤ longMax) :
    entryArg (toString n) = .inl n := by
  simp only [entryArg, strtol10_toString hmin hmax, if_true]

theorem entryLoop_ids {st : EntryStore} {render : TupEntry → String} {tents : List TupEntry}
    (hid : ∀ t ∈ tents, longMin ≤ t.tupid ∧ t.tupid ≤ longMax ∧ st.entryAdd t.tupid = some (some t)) :
    entryLoop st render (tents.map fun t => toString t.tupid) =
      .ok (tents.map fun t => .out (render t)) := by
  induction tents with
  | nil => rfl
  | cons t tents ih =>
    obtain ⟨⟨hmin, hmax, hadd⟩, hrest⟩ := List.forall_mem_cons.mp hid
    simp only [List.map_cons, entryLoop, entryLookup, entryArg_toString hmin hmax, hadd, ih hrest]
    rfl

/-- The ids `tup tupid` prints, given to `tup entry`, are read as ids: entry prints, in order,
the node of each path tupid was given, when tup_entry_add finds the node gimme_tent found. -/
theorem entry_tupid {st : EntryStore} {printEntry : TupEntry → String} {argv : List String}
    {out : List Line}
    (hid : ∀ arg t, st.gimmeTent arg = some (some t) →
      longMin ≤ t.tupid ∧ t.tupid ≤ longMax ∧ st.entryAdd t.tupid = some (some t))
    (h : tupid st argv = (0, out)) :
    ∃ tents : List TupEntry,
      List.Forall₂ (fun arg t => st.gimmeTent arg = some (some t)) argv tents ∧
      out = tents.map (fun t => .out (toString t.tupid)) ∧
      entry st printEntry (tents.map fun t => toString t.tupid) =
        (0, tents.map fun t => .out (printEntry t)) := by
  unfold tupid at h
  cases hb : st.begin
  · simp [hb] at h
  rcases hl : tentLoop st (fun t => (toString t.tupid, true)) argv with ⟨ids, _ | err⟩
  · obtain ⟨tents, hf, -, rfl⟩ := tentLoop_eq_none.mp hl
    cases hc : st.commit
    · simp [hb, hl, hc] at h
    have hall : ∀ t ∈ tents, longMin ≤ t.tupid ∧ t.tupid ≤ longMax ∧
        st.entryAdd t.tupid = some (some t) := by
      clear hl h
      induction hf with
      | nil => exact fun _ => False.elim ∘ List.not_mem_nil _
      | cons hg _ ih => exact List.forall_mem_cons.mpr ⟨hid _ _ hg, ih⟩
    simp only [hb, hl, hc, Bool.not_true, Bool.false_eq_true, ite_false, ite_true,
      Prod.mk.injEq, true_and] at h
    refine ⟨tents, hf, by rw [← h, List.map_map]; rfl, ?_⟩
    simp only [entry, entryRun, hb, hc, entryLoop_ids hall, Bool.not_true, Bool.false_eq_true,
      ite_false, ite_true]
  · simp [hb, hl] at h

def acStore : EntryStore where
  begin := true
  entryAdd id := if id = 5 then some (some ⟨5, 1, .file, "a.c"⟩) else some none
  gimmeTent path := if path = "a.c" then some (some ⟨5, 1, .file, "a.c"⟩) else some none
  commit := true

theorem entry_tupid_ac :
    (∀ arg t, acStore.gimmeTent arg = some (some t) →
      longMin ≤ t.tupid ∧ t.tupid ≤ longMax ∧ acStore.entryAdd t.tupid = some (some t)) ∧
    tupid acStore ["a.c"] = (0, [.out "5"]) ∧
    ∃ tents : List TupEntry,
      List.Forall₂ (fun arg t => acStore.gimmeTent arg = some (some t)) ["a.c"] tents ∧
      [Line.out "5"] = tents.map (fun t => Line.out (toString t.tupid)) ∧
      entry acStore TupEntry.name (tents.map fun t => toString t.tupid) =
        (0, tents.map fun t => .out (TupEntry.name t)) :=
  have hid : ∀ arg t, acStore.gimmeTent arg = some (some t) →
      longMin ≤ t.tupid ∧ t.tupid ≤ longMax ∧ acStore.entryAdd t.tupid = some (some t) := by
    intro arg t h
    by_cases ha : arg = "a.c"
    · obtain rfl : ⟨5, 1, .file, "a.c"⟩ = t := by simpa [acStore, ha] using h
      decide
    · simp [acStore, ha] at h
  have h : tupid acStore ["a.c"] = (0, [.out "5"]) := by decide
  ⟨hid, h, entry_tupid hid h⟩

theorem tentLoop_append {α : Type} {st : EntryStore} {act : TupEntry → α × Bool}
    {pre : List String} {tents : List TupEntry}
    (hpre : List.Forall₂ (fun arg t => st.gimmeTent arg = some (some t)) pre tents)
    (hact : ∀ t ∈ tents, (act t).2 = true) (l : List String) :
    tentLoop st act (pre ++ l) =
      (tents.map (fun t => (act t).1) ++ (tentLoop st act l).1, (tentLoop st act l).2) := by
  induction hpre with
  | nil => rfl
  | cons hg _ ih =>
    obtain ⟨ha, hall⟩ := List.forall_mem_cons.mp hact
    simp only [List.cons_append, tentLoop, hg, ha, if_true, List.append_eq, ih hall,
      List.map_cons]

theorem entryLoop_skip {st : EntryStore} {render : TupEntry → String} {arg : String}
    (h : entryLookup st arg = .ok none) (pre rest : List String) :
    entryLoop st render (pre ++ arg :: rest) = entryLoop st render (pre ++ rest) := by
  induction pre with
  | nil =>
    simp only [List.nil_append, entryLoop, h]
    rcases entryLoop st render rest with e | o <;> rfl
  | cons a pre ih => simp only [List.cons_append, entryLoop, List.append_eq, ih]

/-- A path that names no node: entry and type print nothing for it and go on, wherever it
stands, while tupid stops there with an error, after the ids of the arguments before it. -/
theorem tupid_entry_not_found {st : EntryStore} {printEntry : TupEntry → String}
    {arg : String} (hpath : entryArg arg = .inr arg) (hbegin : st.begin = true)
    (hnone : st.gimmeTent arg = some none) {pre : List String} {tents : List TupEntry}
    (hpre : List.Forall₂ (fun a t => st.gimmeTent a = some (some t)) pre tents)
    (rest : List String) :
    tupid st (pre ++ arg :: rest) = (-1, tents.map (fun t => .out (toString t.tupid)) ++
        [.err s!"tup error: entry not found for '{arg}'"]) ∧
      ∀ pre' rest', entry st printEntry (pre' ++ arg :: rest') =
        entry st printEntry (pre' ++ rest') := by
  have hlook : entryLookup st arg = .ok none := by simp [entryLookup, hpath, hnone]
  refine ⟨?_, fun pre' rest' => by simp only [entry, entryRun, entryLoop_skip hlook]⟩
  simp [tupid, hbegin, @tentLoop_append _ st (fun t => (toString t.tupid, true)) _ _ hpre
    (fun _ _ => rfl), tentLoop, hnone]

theorem tupid_entry_not_found_gone :
    (entryArg "gone" = .inr "gone" ∧ acStore.begin = true ∧
      acStore.gimmeTent "gone" = some none ∧
      List.Forall₂ (fun a t => acStore.gimmeTent a = some (some t)) ["a.c"]
        [⟨5, 1, .file, "a.c"⟩]) ∧
    tupid acStore (["a.c"] ++ "gone" :: []) =
      (-1, [Line.out "5", .err "tup error: entry not found for 'gone'"]) ∧
    ∀ pre' rest', entry acStore TupEntry.name (pre' ++ "gone" :: rest') =
      entry acStore TupEntry.name (pre' ++ rest') :=
  have hpath : entryArg "gone" = .inr "gone" := by decide
  have hpre : List.Forall₂ (fun a t => acStore.gimmeTent a = some (some t)) ["a.c"]
      [⟨5, 1, .file, "a.c"⟩] := .cons rfl .nil
  ⟨⟨hpath, rfl, rfl, hpre⟩, tupid_entry_not_found hpath rfl rfl hpre []⟩

/-- What inputs's calls return: tup_db_begin, tup_db_get_inputs of a command (its inputs
in the order of the tent tree, `none` when it fails), and tup_db_commit. -/
structure InputsStore where
  begin : Bool
  getInputs : Int → Option (List TupEntry)
  commit : Bool

def inputLines (render : TupEntry → String) (ins : List TupEntry) : List Line :=
  (ins.filter fun t => t.type != .ghost).map fun t => Line.out (render t)

def inputsLoop (st : InputsStore) (render : TupEntry → String) :
    List String → Except (List Line) (List Line)
  | [] => .ok []
  | arg :: rest =>
    let cmdid := (strtol10 arg.toList).1
    if cmdid ≤ 0 then .error [.err s!"tup error: {arg} is not a valid command ID."]
    else
      match st.getInputs cmdid with
      | none => .error []
      | some ins =>
        let lines := inputLines render ins
        match inputsLoop st render rest with
        | .error out => .error (lines ++ out)
        | .ok out => .ok (lines ++ out)

def inputs (st : InputsStore) (render : TupEntry → String) (argv : List String) :
    Int × List Line :=
  if !st.begin then (-1, []) else
  match inputsLoop st render argv with
  | .error out => (-1, out)
  | .ok out => if st.commit then (0, out) else (-1, out)

theorem inputsLoop_eq_ok {st : InputsStore} {render : TupEntry → String} {argv : List String}
    {out : List Line} :
    inputsLoop st render argv = .ok out ↔ ∃ inss : List (List TupEntry),
      List.Forall₂ (fun arg ins => 0 < (strtol10 arg.toList).1 ∧
        st.getInputs (strtol10 arg.toList).1 = some ins) argv inss ∧
      out = inss.flatMap (inputLines render) := by
  induction argv generalizing out with
  | nil => simp [inputsLoop, eq_comm]
  | cons arg rest ih =>
    rw [inputsLoop]
    by_cases hpos : (strtol10 arg.toList).1 ≤ 0
    · simp only [if_pos hpos, reduceCtorEq, false_iff]
      rintro ⟨inss, h, -⟩
      obtain ⟨_, _, ⟨hp, -⟩, -⟩ := List.forall₂_cons_left_iff.mp h
      omega
    rw [if_neg hpos]
    constructor
    · intro h
      rcases hg : st.getInputs (strtol10 arg.toList).1 with _ | ins <;> simp only [hg] at h
      · cases h
      rcases hr : inputsLoop st render rest with e | out' <;> simp only [hr] at h
      · cases h
      obtain ⟨inss, h₁, rfl⟩ := ih.mp hr
      cases h
      exact ⟨ins :: inss, .cons ⟨by omega, hg⟩ h₁, rfl⟩
    · rintro ⟨inss, h, rfl⟩
      obtain ⟨ins, inss, ⟨-, hg⟩, h₁, rfl⟩ := List.forall₂_cons_left_iff.mp h
      simp only [hg, ih.mpr ⟨inss, h₁, rfl⟩, List.flatMap_cons]

/-- inputs returns 0 exactly when tup_db_begin and tup_db_commit succeed and every
argument reads as a positive command id whose inputs tup_db_get_inputs gives; it then
prints, command after command, every input of each but its ghosts, in the tree's order. -/
theorem inputs_eq_zero_iff {st : InputsStore} {render : TupEntry → String}
    {argv : List String} {out : List Line} :
    inputs st render argv = (0, out) ↔ st.begin = true ∧ st.commit = true ∧
      ∃ inss : List (List TupEntry),
        List.Forall₂ (fun arg ins => 0 < (strtol10 arg.toList).1 ∧
          st.getInputs (strtol10 arg.toList).1 = some ins) argv inss ∧
        out = inss.flatMap (inputLines render) := by
  rw [← inputsLoop_eq_ok]
  unfold inputs
  cases st.begin <;> cases st.commit <;> rcases inputsLoop st render argv with e | o <;>
    simp [eq_comm]
theorem inputsLoop_congr {st : InputsStore} {render : TupEntry → String} {a b : String}
    (h : ∀ post, inputsLoop st render (a :: post) = inputsLoop st render (b :: post))
    (pre post : List String) :
    inputsLoop st render (pre ++ a :: post) = inputsLoop st render (pre ++ b :: post) := by
  induction pre with
  | nil => exact h post
  | cons x pre ih => simp only [List.cons_append, inputsLoop, List.append_eq, ih]

/-- inputs reads a command id from the digits an argument starts with and ignores what
follows them, in any of its arguments: `tup inputs 7 12abc` does what `tup inputs 7 12`
does. -/
theorem inputs_digits_append {st : InputsStore} {render : TupEntry → String}
    {ds rest : List Char} (hdig : ∀ c ∈ ds, c.isDigit)
    (hrest : ∀ c ∈ rest.head?, c.isDigit = false) (hpos : 0 < digitsValue ds)
    (pre post : List String) :
    inputs st render (pre ++ String.mk (ds ++ rest) :: post) =
      inputs st render (pre ++ String.mk ds :: post) := by
  have hds : ds ≠ [] := by rintro rfl; exact absurd hpos (by decide)
  have hval : (strtol10 (ds ++ rest)).1 = (strtol10 ds).1 := by
    rw [strtol10_digits_append hds hdig hrest]
  have hpos' : ¬(strtol10 ds).1 ≤ 0 := by
    obtain ⟨d, ds', rfl⟩ := List.exists_cons_of_ne_nil hds
    have hd : d.isDigit = true := hdig d (List.mem_cons_self _ _)
    have htake := List.takeWhile_eq_self_iff.mpr hdig
    have hsp : ¬cSpace d = true := by simp [cSpace_of_isDigit hd]
    simp only [strtol10, List.dropWhile_cons_of_neg hsp, cSign_of_digit hd, htake,
      reduceCtorEq, if_false, Bool.false_eq_true, longMin, longMax]
    split_ifs <;> omega
  have hstep : ∀ post, inputsLoop st render (String.mk (ds ++ rest) :: post) =
      inputsLoop st render (String.mk ds :: post) := fun _ => by
    simp only [inputsLoop, String.toList, hval, if_neg hpos']
  simp only [inputs, inputsLoop_congr hstep]

theorem inputs_digits_append_abc :
    ((∀ c ∈ "12".toList, c.isDigit) ∧ (∀ c ∈ "abc".toList.head?, c.isDigit = false) ∧
      0 < digitsValue "12".toList) ∧
    inputs ⟨true, fun _ => some [], true⟩ TupEntry.name
        (["7"] ++ String.mk ("12".toList ++ "abc".toList) :: []) =
      inputs ⟨true, fun _ => some [], true⟩ TupEntry.name (["7"] ++ String.mk "12".toList :: []) :=
  have hdig : ∀ c ∈ "12".toList, c.isDigit := by decide
  have hrest : ∀ c ∈ "abc".toList.head?, c.isDigit = false := by decide
  have hpos : 0 < digitsValue "12".toList := by decide
  ⟨⟨hdig, hrest, hpos⟩, inputs_digits_append hdig hrest hpos ["7"] []⟩

end Tup
