import Adjudicator.Outline.Read
import Adjudicator.Proofs.Number.Bits

/-!
# The first unexplained expectation

Expectations are looked at in order, and the first one that nothing explains decides. Main
statement: with returned numbers it is held against the nearest of them, whatever the constants
are; without any it is a percentage that is held against the first rate that gives another one.
-/

namespace Adjudicator.Outline

open Number

variable {test source : Outline} {m : Mismatch} {e : Float} {r : Return × Float}

/-! ## Nearest returns -/

/-- A return is the first of the nearest to a number: those before it are farther away, and none
behind it is closer. -/
def IsFirstNearest (e : Float) (rs : List (Return × Float)) (r : Return × Float) : Prop :=
  ∃ before after, rs = before ++ r :: after ∧
    (∀ b ∈ before, Before (abs (r.2 - e)) (abs (b.2 - e))) ∧
    ∀ b ∈ after, ¬Before (abs (b.2 - e)) (abs (r.2 - e))

private theorem distance_lt_iff (a b e : Float) :
    distance a e < distance b e ↔ Before (abs (a - e)) (abs (b - e)) :=
  toBits_lt_iff (isNegative_abs _) (isNegative_abs _)

private theorem exists_nearest (e : Float) (best : Return × Float) (rest : List (Return × Float)) :
    ∃ before after, best :: rest = before ++ nearest e best rest :: after ∧
      (∀ b ∈ before, distance (nearest e best rest).2 e < distance b.2 e) ∧
      ∀ b ∈ after, distance (nearest e best rest).2 e ≤ distance b.2 e := by
  induction rest generalizing best with
  | nil => exact ⟨[], [], rfl, List.forall_mem_nil _, List.forall_mem_nil _⟩
  | cons r rest ih =>
    rw [nearest]
    split
    next hlt =>
      obtain ⟨before, after, hsplit, hbefore, hafter⟩ := ih r
      generalize nearest e r rest = n at hsplit hbefore hafter ⊢
      have hle : distance n.2 e ≤ distance r.2 e := by
        cases before with
        | nil => rw [(List.cons.inj hsplit).1]
        | cons b before =>
          rw [(List.cons.inj hsplit).1]
          exact (hbefore b List.mem_cons_self).le
      exact ⟨best :: before, after, congrArg (best :: ·) hsplit,
        List.forall_mem_cons.mpr ⟨hle.trans_lt hlt, hbefore⟩, hafter⟩
    next hge =>
      obtain ⟨before, after, hsplit, hbefore, hafter⟩ := ih best
      generalize nearest e best rest = n at hsplit hbefore hafter ⊢
      cases before with
      | nil =>
        obtain ⟨rfl, rfl⟩ := List.cons.inj hsplit
        exact ⟨[], r :: rest, rfl, List.forall_mem_nil _,
          List.forall_mem_cons.mpr ⟨not_lt.mp hge, hafter⟩⟩
      | cons b before =>
        obtain ⟨rfl, rfl⟩ := List.cons.inj hsplit
        obtain ⟨hb, hbefore⟩ := List.forall_mem_cons.mp hbefore
        exact ⟨best :: r :: before, after, rfl, List.forall_mem_cons.mpr
          ⟨hb, List.forall_mem_cons.mpr ⟨hb.trans_le (not_lt.mp hge), hbefore⟩⟩, hafter⟩

/-- The nearest return is the first of the nearest. -/
theorem isFirstNearest_nearest (e : Float) (best : Return × Float)
    (rest : List (Return × Float)) :
    IsFirstNearest e (best :: rest) (nearest e best rest) := by
  obtain ⟨before, after, hsplit, hbefore, hafter⟩ := exists_nearest e best rest
  refine ⟨before, after, hsplit, fun b hb => ?_, fun b hb => ?_⟩
  · exact (distance_lt_iff _ _ e).mp (hbefore b hb)
  · rw [← distance_lt_iff]
    exact not_lt.mpr (hafter b hb)

/-- There is one first nearest return at most. -/
theorem IsFirstNearest.unique {rs : List (Return × Float)} {r' : Return × Float}
    (h : IsFirstNearest e rs r) (h' : IsFirstNearest e rs r') : r = r' := by
  obtain ⟨before, after, rfl, hbefore, hafter⟩ := h
  obtain ⟨before', after', hsplit, hbefore', hafter'⟩ := h'
  rcases List.append_eq_append_iff.mp hsplit with ⟨between, rfl, hrest⟩ | ⟨between, rfl, hrest⟩
  · cases between with
    | nil => exact (List.cons.inj hrest).1
    | cons b between =>
      obtain ⟨rfl, rfl⟩ := List.cons.inj hrest
      exact absurd (hbefore' r (List.mem_append_right _ List.mem_cons_self))
        (hafter r' (List.mem_append_right _ List.mem_cons_self))
  · cases between with
    | nil => exact (List.cons.inj hrest).1.symm
    | cons b between =>
      obtain ⟨rfl, rfl⟩ := List.cons.inj hrest
      exact absurd (hbefore r' (List.mem_append_right _ List.mem_cons_self))
        (hafter' r (List.mem_append_right _ List.mem_cons_self))

private theorem IsFirstNearest.iff_eq {rs : List (Return × Float)} {r' : Return × Float}
    (h : IsFirstNearest e rs r) : IsFirstNearest e rs r' ↔ r' = r :=
  ⟨fun h' => h'.unique h, fun heq => heq ▸ h⟩

/-! ## First elements -/

/-- The first element of a list with a property. -/
def IsFirst {α : Type} (p : α → Prop) (xs : List α) (x : α) : Prop :=
  ∃ before after, xs = before ++ x :: after ∧ (∀ y ∈ before, ¬p y) ∧ p x

/-- The first of a list is its head, or the head does not hold and it is the first of the tail. -/
theorem isFirst_cons_iff {α : Type} {p : α → Prop} {x y : α} {xs : List α} :
    IsFirst p (x :: xs) y ↔ p x ∧ y = x ∨ ¬p x ∧ IsFirst p xs y := by
  constructor
  · rintro ⟨before, after, hsplit, hbefore, hy⟩
    cases before with
    | nil =>
      obtain ⟨rfl, rfl⟩ := List.cons.inj hsplit
      exact .inl ⟨hy, rfl⟩
    | cons b before =>
      obtain ⟨rfl, rfl⟩ := List.cons.inj hsplit
      obtain ⟨hx, hbefore⟩ := List.forall_mem_cons.mp hbefore
      exact .inr ⟨hx, before, after, rfl, hbefore, hy⟩
  · rintro (⟨hx, rfl⟩ | ⟨hx, before, after, rfl, hbefore, hy⟩)
    · exact ⟨[], xs, rfl, List.forall_mem_nil _, hx⟩
    · exact ⟨x :: before, after, rfl, List.forall_mem_cons.mpr ⟨hx, hbefore⟩, hy⟩

/-- If anything in a list holds, there is a first. -/
theorem exists_isFirst {α : Type} {p : α → Prop} {xs : List α} (h : ∃ x ∈ xs, p x) :
    ∃ x, IsFirst p xs x := by
  induction xs with
  | nil =>
    obtain ⟨x, hx, _⟩ := h
    cases hx
  | cons y rest ih =>
    by_cases hy : p y
    · exact ⟨y, isFirst_cons_iff.mpr (.inl ⟨hy, rfl⟩)⟩
    · obtain ⟨x, hx, hp⟩ := h
      rcases List.mem_cons.mp hx with rfl | hx
      · exact absurd hp hy
      · obtain ⟨z, hz⟩ := ih ⟨x, hx, hp⟩
        exact ⟨z, isFirst_cons_iff.mpr (.inr ⟨hy, hz⟩)⟩

/-- An empty list has no first. -/
theorem not_isFirst_nil {α : Type} {p : α → Prop} {x : α} : ¬IsFirst p [] x := by
  rintro ⟨before, after, hsplit, -⟩
  cases before <;> cases hsplit

/-- A search finds the first. -/
theorem find?_eq_some_iff_isFirst {α : Type} {p : α → Bool} {xs : List α} {x : α} :
    xs.find? p = some x ↔ IsFirst (fun x => p x = true) xs x := by
  rw [List.find?_eq_some_iff_append, IsFirst]
  simp only [Bool.not_eq_true', Bool.not_eq_true]
  constructor
  · rintro ⟨hx, before, after, hsplit, hbefore⟩
    exact ⟨before, after, hsplit, hbefore, hx⟩
  · rintro ⟨before, after, hsplit, hbefore, hx⟩
    exact ⟨hx, before, after, hsplit, hbefore⟩

open Classical in
/-- There is one first at most. -/
theorem IsFirst.unique {α : Type} {p : α → Prop} {xs : List α} {x y : α} (h : IsFirst p xs x)
    (h' : IsFirst p xs y) : x = y := by
  have hfind : ∀ {z}, IsFirst p xs z → xs.find? (fun z => decide (p z)) = some z := by
    intro z hz
    rw [find?_eq_some_iff_isFirst]
    simpa only [decide_eq_true_eq] using hz
  exact Option.some.inj ((hfind h).symm.trans (hfind h'))

private theorem IsFirst.iff_eq {α : Type} {p : α → Prop} {xs : List α} {x y : α}
    (h : IsFirst p xs x) : IsFirst p xs y ↔ y = x :=
  ⟨fun h' => h'.unique h, fun heq => heq ▸ h⟩

/-- The first holds. -/
theorem IsFirst.holds {α : Type} {p : α → Prop} {xs : List α} {x : α} (h : IsFirst p xs x) : p x :=
  have ⟨_, _, _, _, hx⟩ := h
  hx

/-- The first is in the list. -/
theorem IsFirst.mem {α : Type} {p : α → Prop} {xs : List α} {x : α} (h : IsFirst p xs x) :
    x ∈ xs :=
  have ⟨_, _, hsplit, _, _⟩ := h
  hsplit ▸ List.mem_append_right _ List.mem_cons_self

/-- The first of mapped values is the value of the first whose value holds. -/
theorem isFirst_map_iff {α β : Type} {f : α → β} {p : β → Prop} {xs : List α} {y : β} :
    IsFirst p (xs.map f) y ↔ ∃ x, IsFirst (fun x => p (f x)) xs x ∧ f x = y := by
  induction xs with
  | nil => simp only [List.map_nil, not_isFirst_nil, false_and, exists_false]
  | cons x xs ih =>
    rw [List.map_cons, isFirst_cons_iff, ih]
    constructor
    · rintro (⟨hx, rfl⟩ | ⟨hx, z, hz, rfl⟩)
      · exact ⟨x, isFirst_cons_iff.mpr (.inl ⟨hx, rfl⟩), rfl⟩
      · exact ⟨z, isFirst_cons_iff.mpr (.inr ⟨hx, hz⟩), rfl⟩
    · rintro ⟨z, hz, rfl⟩
      rcases isFirst_cons_iff.mp hz with ⟨hx, rfl⟩ | ⟨hx, hz⟩
      · exact .inl ⟨hx, rfl⟩
      · exact .inr ⟨hx, z, hz, rfl⟩

/-! ## Judgements in order -/

/-- The numbers that a test expects, with their assertions. -/
def expectedNumbers (test : Outline) : List (Assertion × Float) :=
  test.assertions.filterMap fun a => a.value.map (a, ·)

/-- Judges an expected number by the code. -/
def judgeNumber (source : Outline) (x : Assertion × Float) : Judged :=
  match numericReturns source with
  | r :: rest => judgeByReturns x.1 x.2 r rest
  | [] => judgeByRates x.1 x.2 (rates source)

/-- Whether a judgement is a contradiction. -/
def Judged.Contradicts (j : Judged) : Prop :=
  ∃ m, j = .contradicted m

private theorem compare_eq (test source : Outline) :
    compare test source =
      firstContradiction false ((expectedNumbers test).map (judgeNumber source)) := by
  rw [compare, expectedNumbers]
  generalize false = explained
  induction test.assertions generalizing explained with
  | nil => rfl
  | cons a rest ih =>
    rw [List.map_cons, List.filterMap_cons]
    cases ha : a.value with
    | none =>
      have hjudge : judge source a = .silent := by rw [judge, ha]
      rw [hjudge, firstContradiction, ih]
      rfl
    | some e =>
      have hjudge : judge source a = judgeNumber source (a, e) := by
        rw [judge, ha]
        rfl
      rw [hjudge, Option.map_some, List.map_cons]
      cases judgeNumber source (a, e) <;> rw [firstContradiction, firstContradiction]
      all_goals exact ih _

/-- The first contradiction decides, and without any whether something was explained. -/
private theorem firstContradiction_iff (explained : Bool) (js : List Judged) :
    (∀ m, firstContradiction explained js = .mismatch m ↔
      IsFirst Judged.Contradicts js (.contradicted m)) ∧
    (firstContradiction explained js = .consistent ↔
      (∀ j ∈ js, ¬j.Contradicts) ∧ (explained = true ∨ .explained ∈ js)) ∧
    (firstContradiction explained js = .incomparable ↔
      (∀ j ∈ js, ¬j.Contradicts) ∧ explained = false ∧ .explained ∉ js) := by
  induction js generalizing explained with
  | nil => cases explained <;> simp [firstContradiction, not_isFirst_nil]
  | cons j rest ih =>
    have hexplained : ¬Judged.Contradicts .explained := by rintro ⟨m, hm⟩; cases hm
    have hsilent : ¬Judged.Contradicts .silent := by rintro ⟨m, hm⟩; cases hm
    cases j with
    | explained =>
      obtain ⟨hmismatch, hconsistent, hincomparable⟩ := ih true
      simp only [firstContradiction, hmismatch, hconsistent, hincomparable, isFirst_cons_iff,
        List.mem_cons]
      simp [hexplained]
    | silent =>
      obtain ⟨hmismatch, hconsistent, hincomparable⟩ := ih explained
      simp only [firstContradiction, hmismatch, hconsistent, hincomparable, isFirst_cons_iff,
        List.mem_cons]
      simp [hsilent]
    | contradicted m =>
      have hm : Judged.Contradicts (.contradicted m) := ⟨m, rfl⟩
      simp only [firstContradiction, isFirst_cons_iff, List.forall_mem_cons, hm]
      simp [eq_comm]

private theorem compare_iff (test source : Outline) :
    (∀ m, compare test source = .mismatch m ↔
      ∃ x, IsFirst (fun x => (judgeNumber source x).Contradicts) (expectedNumbers test) x ∧
        judgeNumber source x = .contradicted m) ∧
    (compare test source = .consistent ↔
      (∀ x ∈ expectedNumbers test, ¬(judgeNumber source x).Contradicts) ∧
        ∃ x ∈ expectedNumbers test, judgeNumber source x = .explained) ∧
    (compare test source = .incomparable ↔
      (∀ x ∈ expectedNumbers test, ¬(judgeNumber source x).Contradicts) ∧
        ∀ x ∈ expectedNumbers test, judgeNumber source x ≠ .explained) := by
  obtain ⟨hmismatch, hconsistent, hincomparable⟩ :=
    firstContradiction_iff false ((expectedNumbers test).map (judgeNumber source))
  rw [compare_eq]
  rw [List.forall_mem_map] at hconsistent hincomparable
  refine ⟨fun m => (hmismatch m).trans isFirst_map_iff, hconsistent.trans ?_,
    hincomparable.trans ?_⟩
  · simp only [List.mem_map, Bool.false_eq_true, false_or]
  · simp only [List.mem_map, true_and, not_exists, not_and, ne_eq]

/-- A judgement by two conditions, of which one explains a number and the other one contradicts it;
a contradiction is the only mismatch of its kind. -/
inductive JudgedBy (explains contradicts : Prop) (P : Mismatch → Prop) : Judged → Prop
  | explained (h : explains) (hnot : ¬contradicts) : JudgedBy explains contradicts P .explained
  | contradicted {m : Mismatch} (hnot : ¬explains) (h : contradicts)
      (honly : ∀ m', P m' ↔ m' = m) : JudgedBy explains contradicts P (.contradicted m)
  | silent (hexplains : ¬explains) (hcontradicts : ¬contradicts) :
      JudgedBy explains contradicts P .silent

namespace JudgedBy

variable {explains contradicts : Prop} {P : Mismatch → Prop} {j : Judged}

/-- A judgement contradicts exactly when what it judges does. -/
theorem contradicts_iff (h : JudgedBy explains contradicts P j) :
    j.Contradicts ↔ contradicts := by
  cases h with
  | explained _ hnot => exact iff_of_false nofun hnot
  | contradicted _ h _ => exact iff_of_true ⟨_, rfl⟩ h
  | silent _ hnot => exact iff_of_false nofun hnot

/-- A judgement explains exactly when what it judges does. -/
theorem eq_explained_iff (h : JudgedBy explains contradicts P j) :
    j = .explained ↔ explains := by
  cases h with
  | explained h _ => exact iff_of_true rfl h
  | contradicted hnot _ _ => exact iff_of_false nofun hnot
  | silent hnot _ => exact iff_of_false nofun hnot

/-- What a contradiction reports is the mismatch that is described. -/
theorem eq_contradicted_iff (h : JudgedBy explains contradicts P j) (hc : contradicts) :
    j = .contradicted m ↔ P m := by
  cases h with
  | explained _ hnot => exact absurd hc hnot
  | contradicted _ _ honly => rw [honly, Judged.contradicted.injEq, eq_comm]
  | silent _ hnot => exact absurd hc hnot

end JudgedBy

/-- Where conditions judge each expected number, they decide the comparison. -/
private theorem compare_of_judgedBy {E C : Assertion × Float → Prop}
    {P : Assertion × Float → Mismatch → Prop}
    (h : ∀ x, JudgedBy (E x) (C x) (P x) (judgeNumber source x)) :
    (compare test source = .incomparable ↔
      (∀ x ∈ expectedNumbers test, ¬C x) ∧ ∀ x ∈ expectedNumbers test, ¬E x) ∧
    (compare test source = .consistent ↔
      (∀ x ∈ expectedNumbers test, ¬C x) ∧ ∃ x ∈ expectedNumbers test, E x) ∧
    ∀ m, compare test source = .mismatch m ↔ ∃ x, IsFirst C (expectedNumbers test) x ∧ P x m := by
  obtain ⟨hmismatch, hconsistent, hincomparable⟩ := compare_iff test source
  simp only [(h _).contradicts_iff, (h _).eq_explained_iff, ne_eq] at *
  refine ⟨hincomparable, hconsistent, fun m => (hmismatch m).trans (exists_congr fun x => ?_)⟩
  exact and_congr_right fun hfirst => (h x).eq_contradicted_iff hfirst.holds

private theorem exists_mismatch_of_judgedBy {E C : Assertion × Float → Prop}
    {P : Assertion × Float → Mismatch → Prop}
    (h : ∀ x, JudgedBy (E x) (C x) (P x) (judgeNumber source x)) :
    (∃ m, compare test source = .mismatch m) ↔ ∃ x ∈ expectedNumbers test, C x := by
  simp only [(compare_of_judgedBy h).2.2]
  constructor
  · rintro ⟨m, x, hfirst, _⟩
    exact ⟨x, hfirst.mem, hfirst.holds⟩
  · intro hsome
    obtain ⟨x, hfirst⟩ := exists_isFirst hsome
    obtain ⟨m, hm⟩ := (h x).contradicts_iff.mpr hfirst.holds
    exact ⟨m, x, hfirst, ((h x).eq_contradicted_iff hfirst.holds).mp hm⟩

/-! ## Returned numbers -/

/-- Whether a returned number is the expected one. -/
def ReturnExplains (source : Outline) (e : Float) : Prop :=
  ∃ r ∈ numericReturns source, abs (r.2 - e) < 0.001

instance (source : Outline) (e : Float) : Decidable (ReturnExplains source e) :=
  inferInstanceAs (Decidable (∃ r ∈ numericReturns source, abs (r.2 - e) < 0.001))

private theorem judgedBy_returns (h : numericReturns source ≠ []) (x : Assertion × Float) :
    JudgedBy (ReturnExplains source x.2) (¬ReturnExplains source x.2)
      (fun m => ∃ r, IsFirstNearest x.2 (numericReturns source) r ∧ m = returnMismatch x.1 x.2 r)
      (judgeNumber source x) := by
  rw [ReturnExplains, judgeNumber]
  cases hrs : numericReturns source with
  | nil => exact absurd hrs h
  | cons best rest =>
    dsimp only
    rw [judgeByReturns]
    split
    next hany =>
      obtain ⟨r, hr, hnear⟩ := List.any_eq_true.mp hany
      have hexplains : ∃ r ∈ best :: rest, abs (r.2 - x.2) < 0.001 :=
        ⟨r, hr, of_decide_eq_true hnear⟩
      exact .explained hexplains (not_not.mpr hexplains)
    next hnone =>
      have hnot : ¬∃ r ∈ best :: rest, abs (r.2 - x.2) < 0.001 := by
        rintro ⟨r, hr, hnear⟩
        exact hnone (List.any_eq_true.mpr ⟨r, hr, decide_eq_true hnear⟩)
      refine .contradicted hnot hnot fun m => ?_
      simp only [(isFirstNearest_nearest x.2 best rest).iff_eq, exists_eq_left]

/-- With returned numbers every expected one has to be among them, and the first one that is not
is held against the nearest of them. -/
theorem compare_by_returns (h : numericReturns source ≠ []) :
    (compare test source = .incomparable ↔ expectedNumbers test = []) ∧
    (compare test source = .consistent ↔
      expectedNumbers test ≠ [] ∧ ∀ x ∈ expectedNumbers test, ReturnExplains source x.2) ∧
    ∀ m, compare test source = .mismatch m ↔ ∃ x r,
      IsFirst (fun x => ¬ReturnExplains source x.2) (expectedNumbers test) x ∧
        IsFirstNearest x.2 (numericReturns source) r ∧ m = returnMismatch x.1 x.2 r := by
  obtain ⟨hincomparable, hconsistent, hmismatch⟩ :=
    @compare_of_judgedBy test _ _ _ _ (judgedBy_returns h)
  simp only [not_not] at hincomparable hconsistent
  refine ⟨hincomparable.trans ?_, hconsistent.trans ?_, fun m => (hmismatch m).trans ?_⟩
  · rw [List.eq_nil_iff_forall_not_mem]
    constructor
    · rintro ⟨hall, hnone⟩ x hx
      exact hnone x hx (hall x hx)
    · intro hnone
      exact ⟨fun x hx => absurd hx (hnone x), fun x hx => absurd hx (hnone x)⟩
  · constructor
    · rintro ⟨hall, x, hx, _⟩
      exact ⟨List.ne_nil_of_mem hx, hall⟩
    · rintro ⟨hne, hall⟩
      obtain ⟨x, hx⟩ := List.exists_mem_of_ne_nil _ hne
      exact ⟨hall, x, hx, hall x hx⟩
  · simp only [exists_and_left]

/-! ## Rates -/

/-- Whether what a rate leaves of a hundred is the expected number. -/
def RateExplains (source : Outline) (e : Float) : Prop :=
  ∃ c ∈ rates source, abs (100.0 * (1.0 - c.2) - e) < 0.01

instance (source : Outline) (e : Float) : Decidable (RateExplains source e) :=
  inferInstanceAs (Decidable (∃ c ∈ rates source, abs (100.0 * (1.0 - c.2) - e) < 0.01))

/-- Whether a rate is another one than that of the expected percentage. -/
def IsOtherRate (e : Float) (c : Constant × Float) : Prop :=
  0.001 < abs ((100.0 - e) / 100.0 - c.2)

instance (e : Float) (c : Constant × Float) : Decidable (IsOtherRate e c) :=
  inferInstanceAs (Decidable (0.001 < abs ((100.0 - e) / 100.0 - c.2)))

/-- Whether rates contradict an expected number, which has to be a percentage after a discount. -/
def RateContradicts (source : Outline) (e : Float) : Prop :=
  ¬RateExplains source e ∧ (80.0 ≤ e ∧ e < 100.0) ∧ ∃ c ∈ rates source, IsOtherRate e c

instance (source : Outline) (e : Float) : Decidable (RateContradicts source e) := by
  delta RateContradicts
  infer_instance

/-- Ten times the tolerance of numbers is the one of percentages. -/
theorem tolerance_mul_ten : Value.tolerance * 10.0 = 0.01 := by
  decide

private theorem judgedBy_rates (h : numericReturns source = []) (x : Assertion × Float) :
    JudgedBy (RateExplains source x.2) (RateContradicts source x.2)
      (fun m => ∃ c, IsFirst (IsOtherRate x.2) (rates source) c ∧
        m = rateMismatch x.1 x.2 ((100.0 - x.2) / 100.0) c)
      (judgeNumber source x) := by
  rw [judgeNumber, h]
  dsimp only
  rw [judgeByRates, tolerance_mul_ten]
  split
  next hany =>
    obtain ⟨c, hc, hleft⟩ := List.any_eq_true.mp hany
    have hexplains : RateExplains source x.2 := ⟨c, hc, of_decide_eq_true hleft⟩
    exact .explained hexplains fun hcontradicts => hcontradicts.1 hexplains
  next hnone =>
    have hnot : ¬RateExplains source x.2 := by
      rintro ⟨c, hc, hleft⟩
      exact hnone (List.any_eq_true.mpr ⟨c, hc, decide_eq_true hleft⟩)
    split
    next hband =>
      refine .silent hnot ?_
      rintro ⟨_, ⟨hlow, hhigh⟩, _⟩
      simp [hlow, hhigh] at hband
    next hband =>
      have hin : 80.0 ≤ x.2 ∧ x.2 < 100.0 := by simpa using hband
      dsimp only
      cases hfind : (rates source).find? fun r =>
          rateTolerance < Number.abs ((100.0 - x.2) / 100.0 - r.2) with
      | some c =>
        have hfirst : IsFirst (IsOtherRate x.2) (rates source) c := by
          have hfirst := find?_eq_some_iff_isFirst.mp hfind
          simp only [decide_eq_true_eq] at hfirst
          exact hfirst
        refine .contradicted hnot ⟨hnot, hin, c, hfirst.mem, hfirst.holds⟩ fun m => ?_
        simp only [hfirst.iff_eq, exists_eq_left]
      | none =>
        refine .silent hnot ?_
        rintro ⟨_, _, c, hc, hother⟩
        exact List.find?_eq_none.mp hfind c hc (decide_eq_true hother)

/-- Without returned numbers the first expected percentage that no rate leaves, and that some rate
contradicts, is held against the first such rate. -/
theorem compare_by_rates (h : numericReturns source = []) :
    (compare test source = .incomparable ↔
      (∀ x ∈ expectedNumbers test, ¬RateContradicts source x.2) ∧
        ∀ x ∈ expectedNumbers test, ¬RateExplains source x.2) ∧
    (compare test source = .consistent ↔
      (∀ x ∈ expectedNumbers test, ¬RateContradicts source x.2) ∧
        ∃ x ∈ expectedNumbers test, RateExplains source x.2) ∧
    ∀ m, compare test source = .mismatch m ↔ ∃ x c,
      IsFirst (fun x => RateContradicts source x.2) (expectedNumbers test) x ∧
        IsFirst (IsOtherRate x.2) (rates source) c ∧
        m = rateMismatch x.1 x.2 ((100.0 - x.2) / 100.0) c := by
  simp only [exists_and_left]
  exact compare_of_judgedBy (judgedBy_rates h)

/-! ## Comparing -/

/-- Outlines mismatch exactly when an expected number is not returned, or, where none is returned,
when rates contradict it. -/
theorem exists_mismatch_iff (test source : Outline) :
    (∃ m, compare test source = .mismatch m) ↔ ∃ x ∈ expectedNumbers test,
      if numericReturns source = [] then RateContradicts source x.2
      else ¬ReturnExplains source x.2 := by
  by_cases h : numericReturns source = []
  · simp only [if_pos h]
    exact exists_mismatch_of_judgedBy (judgedBy_rates h)
  · simp only [if_neg h]
    exact exists_mismatch_of_judgedBy (judgedBy_returns h)

end Adjudicator.Outline
