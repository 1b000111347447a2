import Adjudicator.Pairing
import Adjudicator.Proofs.Pattern.Needed
import Adjudicator.Proofs.Pattern.Occurrences

/-!
# The method of a test

Three rules find the method of a test, and each is tried on the whole pool before the next. Main
statement: a test is paired with the first method that meets the strongest rule that any method
meets. Methods at the end of a pool change a choice only where they meet a stronger rule.
-/

namespace Adjudicator.Pairing

open Text

variable {methods more : List Method} {t : TestCase} {m : Method} {i : Nat} {p : Pair}

/-! ## Calls -/

/-- Whether a character belongs to an identifier. -/
def Identifying (c : Char) : Prop :=
  isAlphanumeric c = true ∨ c = '_'

instance : DecidablePred Identifying := fun c =>
  inferInstanceAs (Decidable (isAlphanumeric c = true ∨ c = '_'))

/-- A body calls a function: a search counts its name with a parenthesis at a place that no
identifier reaches. -/
def Calls (body name : List Char) : Prop :=
  ∃ front, CountedAt (name ++ ['(']) body front ∧ ∀ c ∈ front.getLast?, ¬Identifying c

/-- The character before a place is the last one in front of it. -/
private theorem edge_iff {body front back : List Char} (h : body = front ++ back) :
    (match front.length with
      | 0 => true
      | n + 1 => (body[n]?).all fun c => !(isAlphanumeric c || c == '_')) = true ↔
      ∀ c ∈ front.getLast?, ¬Identifying c := by
  rcases List.eq_nil_or_concat' front with rfl | ⟨front, c, rfl⟩
  · exact iff_of_true rfl nofun
  · have hbefore : body[front.length]? = some c := by
      rw [h, List.append_assoc, List.getElem?_append_right (Nat.le_refl _), Nat.sub_self]
      rfl
    simp only [List.length_append, List.length_singleton, hbefore, List.getLast?_concat,
      Option.all_some, Bool.not_eq_true', Bool.or_eq_false_iff, beq_eq_false_iff_ne,
      Option.mem_some_iff, forall_eq', Identifying, not_or, Bool.not_eq_true, ne_eq]

/-- The search for a call decides whether a body calls a function. -/
theorem calls_iff {body name : List Char} : calls body name = true ↔ Calls body name := by
  have hne : name ++ ['('] ≠ [] := List.append_ne_nil_of_right_ne_nil _ (List.cons_ne_nil _ _)
  rw [calls, List.any_eq_true]
  constructor
  · rintro ⟨_, hmatch, hbefore⟩
    obtain ⟨front, hcounted, rfl⟩ := (Pattern.mem_findAll_chars hne).mp hmatch
    obtain ⟨back, hsplit⟩ := hcounted.2
    rw [List.append_assoc] at hsplit
    exact ⟨front, hcounted, (edge_iff hsplit.symm).mp hbefore⟩
  · rintro ⟨front, hcounted, hbefore⟩
    obtain ⟨back, hsplit⟩ := hcounted.2
    rw [List.append_assoc] at hsplit
    exact ⟨_, (Pattern.mem_findAll_chars hne).mpr ⟨front, hcounted, rfl⟩,
      (edge_iff hsplit.symm).mpr hbefore⟩

/-- The name of a function has no parenthesis, so every occurrence of a call counts. -/
theorem calls_iff_of_not_mem {body name : List Char} (h : '(' ∉ name) :
    Calls body name ↔
      ∃ front back, body = front ++ name ++ '(' :: back ∧ ∀ c ∈ front.getLast?, ¬Identifying c := by
  constructor
  · rintro ⟨front, ⟨-, back, rfl⟩, hedge⟩
    exact ⟨front, back, by simp only [List.append_assoc, List.singleton_append], hedge⟩
  · rintro ⟨front, back, rfl, hedge⟩
    refine ⟨front, ⟨counted_of_not_mem h front, back, ?_⟩, hedge⟩
    simp only [List.append_assoc, List.singleton_append]

/-! ## Rules -/

/-- A rule by which a method is found. -/
inductive Rule where
  /-- The names are equal. -/
  | equal
  /-- One name contains the other. -/
  | related
  /-- The test calls the method. -/
  | called
deriving DecidableEq, Repr

namespace Rule

/-- All rules, the strongest in front. -/
def all : List Rule :=
  [equal, related, called]

/-- The place of a rule among all; stronger rules have lower places. -/
def rank : Rule → Nat
  | equal => 0
  | related => 1
  | called => 2

/-- Confidence of a pair that the rule finds. -/
def confidence : Rule → Float
  | equal => 0.9
  | related => 0.7
  | called => 0.8

/-- Why a pair that the rule finds belongs together. -/
def link : Rule → Link
  | equal => .namingConvention
  | related => .namingConvention
  | called => .callGraph

/-- A method meets the rule for a test. -/
def Holds (t : TestCase) (m : Method) : Rule → Prop
  | equal =>
    normalizeName t.name.toList ≠ [] ∧ lower m.name.toList = normalizeName t.name.toList
  | related =>
    normalizeName t.name.toList ≠ [] ∧ lower m.name.toList ≠ [] ∧
      (lower m.name.toList <:+: normalizeName t.name.toList ∨
        normalizeName t.name.toList <:+: lower m.name.toList)
  | called => m.name.toList ≠ [] ∧ Calls t.body.toList m.name.toList

/-- Different rules have different places. -/
theorem rank_injective : Function.Injective rank := by
  intro r r' h
  cases r <;> cases r' <;> first | rfl | cases h

/-- Whether a method meets the rule for a test. -/
def meets (t : TestCase) (m : Method) : Rule → Bool
  | equal =>
    !(normalizeName t.name.toList).isEmpty && lower m.name.toList == normalizeName t.name.toList
  | related =>
    !(normalizeName t.name.toList).isEmpty &&
      Pairing.related (normalizeName t.name.toList) (lower m.name.toList)
  | called => !m.name.toList.isEmpty && calls t.body.toList m.name.toList

/-- The check of a rule decides whether a method meets it. -/
theorem meets_iff (r : Rule) : r.meets t m = true ↔ r.Holds t m := by
  cases r with
  | equal =>
    simp only [meets, Holds, Bool.and_eq_true, Bool.not_eq_true', List.isEmpty_eq_false_iff,
      beq_iff_eq]
  | related =>
    simp only [meets, Holds, Pairing.related, Bool.and_eq_true, Bool.not_eq_true',
      List.isEmpty_eq_false_iff, Bool.or_eq_true, contains_iff]
  | called =>
    simp only [meets, Holds, Bool.and_eq_true, Bool.not_eq_true', List.isEmpty_eq_false_iff,
      calls_iff]

end Rule

/-! ## Choices -/

/-- A method of the pool is chosen for a test by a rule. -/
structure Chosen (methods : List Method) (t : TestCase) (r : Rule) (i : Nat) (m : Method) :
    Prop where
  /-- It stands at this place of the pool. -/
  method : methods[i]? = some m
  /-- It meets the rule. -/
  holds : r.Holds t m
  /-- No method before it does. -/
  first : ∀ j < i, ∀ m', methods[j]? = some m' → ¬r.Holds t m'
  /-- No method meets a stronger rule. -/
  strongest : ∀ r' : Rule, r'.rank < r.rank → ∀ m' ∈ methods, ¬r'.Holds t m'

/-- The first method that meets the strongest rule, as the rule and the place. -/
def chosen? (methods : List Method) (t : TestCase) : Option (Rule × Nat) :=
  Rule.all.findSome? fun r => (methods.findIdx? (r.meets t)).map (r, ·)

/-- The first method that meets a rule. -/
theorem findIdx?_meets_eq_some_iff {r : Rule} :
    methods.findIdx? (r.meets t) = some i ↔
      (∃ m, methods[i]? = some m ∧ r.Holds t m) ∧
        ∀ j < i, ∀ m, methods[j]? = some m → ¬r.Holds t m := by
  rw [List.findIdx?_eq_some_iff_getElem]
  constructor
  · rintro ⟨hi, hmeets, hfirst⟩
    refine ⟨⟨methods[i], List.getElem?_eq_getElem hi, r.meets_iff.mp hmeets⟩, fun j hj m hm => ?_⟩
    obtain ⟨hlength, rfl⟩ := List.getElem?_eq_some_iff.mp hm
    exact mt r.meets_iff.mpr (hfirst j hj)
  · rintro ⟨⟨m, hm, hholds⟩, hfirst⟩
    obtain ⟨hi, rfl⟩ := List.getElem?_eq_some_iff.mp hm
    refine ⟨hi, r.meets_iff.mpr hholds, fun j hj => ?_⟩
    exact mt r.meets_iff.mp (hfirst j hj _ (List.getElem?_eq_getElem _))

/-- No method meets a rule. -/
theorem findIdx?_meets_eq_none_iff {r : Rule} :
    methods.findIdx? (r.meets t) = none ↔ ∀ m ∈ methods, ¬r.Holds t m := by
  simp only [List.findIdx?_eq_none_iff, ← Bool.not_eq_true, r.meets_iff]

/-- The stronger rules are tried on the whole pool before a rule is. -/
private theorem chosen?_eq_some_iff_findIdx? {r : Rule} :
    chosen? methods t = some (r, i) ↔
      methods.findIdx? (r.meets t) = some i ∧
        ∀ r' : Rule, r'.rank < r.rank → methods.findIdx? (r'.meets t) = none := by
  have hall : ∀ q : Rule → Prop, (∀ r, q r) ↔ q .equal ∧ q .related ∧ q .called :=
    fun q => ⟨fun h => ⟨h _, h _, h _⟩, fun ⟨he, hr, hc⟩ r => by cases r <;> assumption⟩
  rw [hall]
  simp only [chosen?, Rule.all, List.findSome?_cons, List.findSome?_nil]
  cases r <;> cases methods.findIdx? (Rule.equal.meets t) <;>
    cases methods.findIdx? (Rule.related.meets t) <;>
    cases methods.findIdx? (Rule.called.meets t) <;> simp [Rule.rank]

/-- The choice is the method that the rules single out. -/
theorem chosen?_eq_some_iff {r : Rule} :
    chosen? methods t = some (r, i) ↔ ∃ m, Chosen methods t r i m := by
  rw [chosen?_eq_some_iff_findIdx?, findIdx?_meets_eq_some_iff]
  simp only [findIdx?_meets_eq_none_iff]
  constructor
  · rintro ⟨⟨⟨m, hm, hholds⟩, hfirst⟩, hstrongest⟩
    exact ⟨m, hm, hholds, hfirst, hstrongest⟩
  · rintro ⟨m, hm, hholds, hfirst, hstrongest⟩
    exact ⟨⟨⟨m, hm, hholds⟩, hfirst⟩, hstrongest⟩

private theorem findIdx?_congr {p q : Method → Bool} (h : ∀ m, p m = q m) :
    methods.findIdx? p = methods.findIdx? q :=
  congrArg (methods.findIdx? ·) (funext h)

/-- The program tries the rules in their order. -/
theorem choose?_eq :
    choose? t.name.toList t.body.toList (methods.map fun m => m.name.toList) =
      (chosen? methods t).map fun (r, i) => (i, r.confidence, r.link) := by
  have hcalled : (methods.findIdx? fun m =>
      !m.name.toList.isEmpty && calls t.body.toList m.name.toList) =
        methods.findIdx? (Rule.called.meets t) := findIdx?_congr fun _ => rfl
  unfold choose?
  simp only [chosen?, Rule.all, List.findSome?_cons, List.findSome?_nil,
    List.findIdx?_map, Function.comp_def, hcalled]
  -- without a name left, neither rule of names can be met
  by_cases hempty : (normalizeName t.name.toList).isEmpty = true
  · have hequal : methods.findIdx? (Rule.equal.meets t) = none := by
      simp [List.findIdx?_eq_none_iff, Rule.meets, hempty]
    have hrelated : methods.findIdx? (Rule.related.meets t) = none := by
      simp [List.findIdx?_eq_none_iff, Rule.meets, hempty]
    rw [if_pos hempty, hequal, hrelated]
    cases methods.findIdx? (Rule.called.meets t) <;> rfl
  · have hequal : (methods.findIdx? fun m =>
        lower m.name.toList == normalizeName t.name.toList) =
          methods.findIdx? (Rule.equal.meets t) :=
      findIdx?_congr fun _ => by simp [Rule.meets, hempty]
    have hrelated : (methods.findIdx? fun m =>
        Pairing.related (normalizeName t.name.toList) (lower m.name.toList)) =
          methods.findIdx? (Rule.related.meets t) :=
      findIdx?_congr fun _ => by simp [Rule.meets, hempty]
    rw [if_neg hempty, hequal, hrelated]
    cases methods.findIdx? (Rule.equal.meets t) <;>
      cases methods.findIdx? (Rule.related.meets t) <;>
      cases methods.findIdx? (Rule.called.meets t) <;> rfl

/-- A method is chosen where any method meets a rule. -/
theorem exists_chosen {r : Rule} (hm : m ∈ methods) (h : r.Holds t m) :
    ∃ r' i m', Chosen methods t r' i m' ∧ r'.rank ≤ r.rank := by
  have hsome : (chosen? methods t).isSome := by
    rw [chosen?, List.findSome?_isSome_iff]
    refine ⟨r, by cases r <;> decide, ?_⟩
    rw [Option.isSome_map, Option.isSome_iff_ne_none, Ne, findIdx?_meets_eq_none_iff]
    exact fun hnone => hnone m hm h
  obtain ⟨⟨r', i⟩, hchosen⟩ := Option.isSome_iff_exists.mp hsome
  obtain ⟨m', hchosen⟩ := chosen?_eq_some_iff.mp hchosen
  refine ⟨r', i, m', hchosen, ?_⟩
  by_contra hrank
  exact hchosen.strongest r (Nat.not_le.mp hrank) m hm h

/-- More methods at the end leave a choice as it is, or a stronger rule makes another. -/
theorem Chosen.append {r : Rule} (h : Chosen methods t r i m) :
    Chosen (methods ++ more) t r i m ∨
      ∃ r' i' m', Chosen (methods ++ more) t r' i' m' ∧ r'.rank < r.rank := by
  obtain ⟨hi, -⟩ := List.getElem?_eq_some_iff.mp h.method
  by_cases hstronger : ∃ r' : Rule, r'.rank < r.rank ∧ ∃ m' ∈ more, r'.Holds t m'
  · obtain ⟨r', hrank, m', hm', hholds⟩ := hstronger
    obtain ⟨r'', i', m'', hchosen, hle⟩ := exists_chosen (List.mem_append_right methods hm') hholds
    exact .inr ⟨r'', i', m'', hchosen, hle.trans_lt hrank⟩
  · refine .inl ⟨?_, h.holds, fun j hj m' hm' => ?_, fun r' hrank m' hm' hholds => ?_⟩
    · rw [List.getElem?_append_left hi]
      exact h.method
    · rw [List.getElem?_append_left (hj.trans hi)] at hm'
      exact h.first j hj m' hm'
    · rcases List.mem_append.mp hm' with hm' | hm'
      · exact h.strongest r' hrank m' hm' hholds
      · exact hstronger ⟨r', hrank, m', hm', hholds⟩

/-! ## Pairs -/

/-- The pair of a test, where the pool has a method for it. -/
def pairOf? (methods : List Method) (t : TestCase) : Option Pair :=
  pairFor? methods (methods.map fun m => m.name.toList) t

/-- A test is paired with the method that the rules single out. -/
theorem pairOf?_eq_some_iff :
    pairOf? methods t = some p ↔
      ∃ r i m, Chosen methods t r i m ∧ p = ⟨t, m, r.confidence, r.link⟩ := by
  have hpair : pairOf? methods t =
      (chosen? methods t).bind fun (r, i) =>
        methods[i]?.map fun m => ⟨t, m, r.confidence, r.link⟩ := by
    rw [pairOf?, pairFor?, choose?_eq]
    cases chosen? methods t with
    | none => rfl
    | some choice => cases h : methods[choice.2]? <;> simp [h]
  rw [hpair, Option.bind_eq_some_iff]
  constructor
  · rintro ⟨⟨r, i⟩, hchosen, hpair⟩
    obtain ⟨m, hchosen⟩ := chosen?_eq_some_iff.mp hchosen
    obtain ⟨m', hm', rfl⟩ := Option.map_eq_some_iff.mp hpair
    obtain rfl : m = m' := Option.some.inj (hchosen.method.symm.trans hm')
    exact ⟨r, i, m, hchosen, rfl⟩
  · rintro ⟨r, i, m, hchosen, rfl⟩
    exact ⟨(r, i), chosen?_eq_some_iff.mpr ⟨m, hchosen⟩,
      Option.map_eq_some_iff.mpr ⟨m, hchosen.method, rfl⟩⟩

/-- A test has no pair exactly where no rule helps. -/
theorem pairOf?_eq_none_iff :
    pairOf? methods t = none ↔ ∀ r : Rule, ∀ m ∈ methods, ¬r.Holds t m := by
  rw [Option.eq_none_iff_forall_ne_some]
  constructor
  · intro hnone r m hm hholds
    obtain ⟨r', i, m', hchosen, -⟩ := exists_chosen hm hholds
    exact hnone _ (pairOf?_eq_some_iff.mpr ⟨r', i, m', hchosen, rfl⟩)
  · intro hnone p hp
    obtain ⟨r, i, m, hchosen, -⟩ := pairOf?_eq_some_iff.mp hp
    exact hnone r m (List.mem_of_getElem? hchosen.method) hchosen.holds

/-- The pairs follow the tests, at most one of each. A test is paired with the first method that
meets the strongest rule met in the pool, and has no pair where none is met. A method of an equal
name wins over all others. Methods at the end of the pool replace a method only by one that meets
a stronger rule. Only a name with a parenthesis can have a call that the search passes over. -/
theorem pairs_strongest_first (tests : List TestCase) (methods more : List Method) :
    pairs tests methods = tests.filterMap (pairOf? methods) ∧
      (∀ t p, pairOf? methods t = some p ↔
        ∃ r i m, Chosen methods t r i m ∧ p = ⟨t, m, r.confidence, r.link⟩) ∧
      (∀ t, pairOf? methods t = none ↔ ∀ r : Rule, ∀ m ∈ methods, ¬r.Holds t m) ∧
      (∀ t, ∀ m ∈ methods, Rule.equal.Holds t m →
        ∃ i m', Chosen methods t .equal i m' ∧
          pairOf? methods t = some ⟨t, m', 0.9, .namingConvention⟩) ∧
      (∀ t r i m, Chosen methods t r i m →
        ∃ r' i' m', Chosen (methods ++ more) t r' i' m' ∧
          ((r', i', m') = (r, i, m) ∨ r'.rank < r.rank)) ∧
      ∀ body name, '(' ∉ name →
        (Calls body name ↔
          ∃ front back, body = front ++ name ++ '(' :: back ∧
            ∀ c ∈ front.getLast?, ¬Identifying c) := by
  refine ⟨rfl, fun t p => pairOf?_eq_some_iff, fun t => pairOf?_eq_none_iff, ?_, ?_,
    fun body name => calls_iff_of_not_mem⟩
  · intro t m hm hequal
    obtain ⟨r, i, m', hchosen, hrank⟩ := exists_chosen hm hequal
    obtain rfl : r = .equal := Rule.rank_injective (Nat.le_zero.mp hrank)
    exact ⟨i, m', hchosen, pairOf?_eq_some_iff.mpr ⟨.equal, i, m', hchosen, rfl⟩⟩
  · intro t r i m hchosen
    rcases hchosen.append with happend | ⟨r', i', m', happend, hrank⟩
    · exact ⟨r, i, m, happend, .inl rfl⟩
    · exact ⟨r', i', m', happend, .inr hrank⟩

/-- The search goes on behind a call, so it passes over a call that overlaps one behind an
identifier. -/
theorem overlapping_call_is_passed_over :
    ∃ (t : TestCase) (m : Method) (front back : List Char),
      m.name.toList ≠ [] ∧ t.body.toList = front ++ m.name.toList ++ '(' :: back ∧
        (∀ c ∈ front.getLast?, ¬Identifying c) ∧ pairs [t] [m] = [] := by
  refine ⟨⟨"zzz", default, 1, 1, default, [], "xa(a(a("⟩,
    ⟨"a(a", default, 1, 1, [], none, "", none⟩, "xa(".toList, [], by decide, by decide, ?_,
    List.isEmpty_iff.mp (by decide)⟩
  intro c hc
  obtain rfl := Option.some.inj hc
  decide

end Adjudicator.Pairing
