import Adjudicator.Proofs.Divergence.Inference
import Adjudicator.Proofs.Outline.Unexplained
import Adjudicator.Proofs.Value.Shown

/-!
# Numbers of reports

A reported disagreement between numbers names two of them. Main statement: they are never the same
number, and up to a trillion their texts differ too unless a percentage that is not whole is held
against the whole percentage next to it.
-/

namespace Adjudicator

open Number Value

variable {x y e a : Float} {v w : ℚ}

/-- Two numbers of a report are different. Up to a trillion they are shown by different texts, or
the first is a percentage after a discount, and the second a whole number next to it. -/
def ReportedApart (e a : Float) : Prop :=
  ∀ v w, value? e = some v → value? a = some w → v ≠ w ∧
    (|v| ≤ 10 ^ 12 → |w| ≤ 10 ^ 12 → Static.shownText e = Static.shownText a →
      (80 ≤ v ∧ v < 100) ∧ (∃ n : ℤ, w = n) ∧ |v - w| ≤ 1 / 1250)

/-! ## Distances -/

/-- The computed distance of numbers that are close. -/
private theorem exists_value?_distance (hx : value? x = some v) (hy : value? y = some w)
    (h : |v - w| ≤ 1 / 1250) : ∃ g, value? (abs (x - y)) = some g ∧ g < 1 / 1000 := by
  have hsmall : |v - w| < 2 ^ 0 := by
    norm_num at *
    linarith
  obtain ⟨hbound, herror⟩ := rounded_bounds (k := 0) (by decide) hsmall
  refine ⟨_, value?_abs (value?_sub hx hy hbound), ?_⟩
  calc
    |rounded (v - w)| ≤ |rounded (v - w) - (v - w)| + |v - w| := by
      have htriangle := abs_add_le (rounded (v - w) - (v - w)) (v - w)
      rwa [sub_add_cancel] at htriangle
    _ ≤ 2 ^ (((0 : ℕ) : ℤ) - 54) + 1 / 1250 := add_le_add herror h
    _ < 1 / 1000 := by norm_num

/-- Whether two numbers are apart by their computed distance. -/
private def FarApart (x y : Float) : Prop :=
  ¬abs (x - y) < 0.001 ∨ ¬abs (x - y) < 0.01 ∨ 1.0 ≤ abs (x - y)

private theorem not_close (h : FarApart x y) (hx : value? x = some v) (hy : value? y = some w) :
    ¬|v - w| ≤ 1 / 1250 := by
  intro hclose
  obtain ⟨g, hg, hlt⟩ := exists_value?_distance hx hy hclose
  have hthousandth : value? 0.001 = some (1152921504606847 / 1152921504606846976) := by
    decide +kernel
  have hhundredth : value? 0.01 = some (5764607523034235 / 576460752303423488) := by
    decide +kernel
  rcases h with h | h | h
  · rw [lt_iff hg hthousandth] at h
    refine h (hlt.trans ?_)
    norm_num
  · rw [lt_iff hg hhundredth] at h
    refine h (hlt.trans ?_)
    norm_num
  · rw [le_iff value?_one hg] at h
    norm_num at *
    linarith

private theorem reportedApart_of_farApart (h : FarApart e a ∨ FarApart a e) :
    ReportedApart e a := by
  intro v w he ha
  have hclose : ¬|v - w| ≤ 1 / 1250 := by
    rcases h with h | h
    · exact not_close h he ha
    · rw [abs_sub_comm]
      exact not_close h ha he
  refine ⟨?_, fun hv hw htext => ?_⟩
  · rintro rfl
    refine hclose ?_
    rw [sub_self, abs_zero]
    norm_num
  · have hshown : shown e = shown a := String.ofList_injective htext
    exact absurd (abs_sub_le_of_shown_eq he ha hv hw hshown) hclose

/-! ## Percentages -/

private theorem abs_rounded_self_sub (v : ℚ) : |rounded (v - v)| = 0 := by
  rw [sub_self, rounded_of_nonneg le_rfl, nearest_zero, abs_zero]

private theorem not_zero_lt_distance (hx : value? x = some v) (hy : value? y = some v) :
    ¬(0.0 : Float) < abs (x - y) := by
  have hbound : |rounded (v - v)| < 2 ^ 1024 := by
    rw [abs_rounded_self_sub]
    positivity
  rw [lt_iff value?_zero (value?_abs (value?_sub hx hy hbound)), abs_rounded_self_sub]
  exact lt_irrefl 0

/-- The percentage of a rate is a whole number. -/
private theorem exists_percentage {r : Float} (hr : Static.isRate r = true) :
    ∃ n : ℤ, value? (round (r * 100.0)) = some (n : ℚ) ∧ |n| ≤ 128 := by
  rw [Static.isRate, Bool.and_eq_true, decide_eq_true_eq, decide_eq_true_eq] at hr
  obtain ⟨u, hu⟩ := exists_value?_of_lt value?_zero value?_one hr.1 hr.2
  have hlow := (lt_iff value?_zero hu).mp hr.1
  have hhigh := (lt_iff hu value?_one).mp hr.2
  have hproduct : |u * 100| < 2 ^ 7 := by
    rw [abs_of_nonneg (by positivity)]
    linarith
  obtain ⟨hbound, -⟩ := rounded_bounds (k := 7) (by decide) hproduct
  obtain ⟨n, hn, herror⟩ := exists_value?_round (value?_mul hu value?_hundred hbound)
  refine ⟨n, hn, ?_⟩
  have hsize : |(n : ℚ)| < 129 := by
    calc
      |(n : ℚ)| ≤ |(n : ℚ) - rounded (u * 100)| + |rounded (u * 100)| := by
        have htriangle := abs_add_le ((n : ℚ) - rounded (u * 100)) (rounded (u * 100))
        rwa [sub_add_cancel] at htriangle
      _ ≤ 1 / 2 + 2 ^ 7 := add_le_add herror (abs_rounded_le hproduct.le)
      _ < 129 := by norm_num
  have hsize' : |n| < 129 := by exact_mod_cast hsize
  omega

/-- What a whole percentage leaves is exact, and so is what that leaves. -/
private theorem value?_hundred_sub {n : ℤ} (hx : value? x = some (n : ℚ)) (hn : |n| ≤ 128) :
    value? (100.0 - x) = some ((100 - n : ℤ) : ℚ) ∧
      ∀ y, value? y = some ((100 - n : ℤ) : ℚ) → value? (100.0 - y) = some (n : ℚ) := by
  have hexact : ∀ {z : Float} {k : ℤ}, value? z = some (k : ℚ) → |100 - k| < 2 ^ 53 →
      value? (100.0 - z) = some ((100 - k : ℤ) : ℚ) := by
    intro z k hz hk
    have hrounded : rounded (100 - (k : ℚ)) = ((100 - k : ℤ) : ℚ) := by
      have h := rounded_intCast hk
      push_cast at h ⊢
      exact h
    have hbound : |rounded (100 - (k : ℚ))| < 2 ^ 1024 := by
      rw [hrounded]
      calc
        |((100 - k : ℤ) : ℚ)| < 2 ^ 53 := by exact_mod_cast hk
        _ ≤ 2 ^ 1024 := pow_le_pow_right₀ one_le_two (by decide)
    rw [← hrounded]
    exact value?_sub value?_hundred hz hbound
  rw [abs_le] at hn
  refine ⟨hexact hx (by rw [abs_lt]; omega), fun y hy => ?_⟩
  have h := hexact hy (by rw [abs_lt]; omega)
  rwa [sub_sub_cancel] at h

private theorem reportedApart_of_percentage {r : Float} (hd : Static.isDiscounted e = true)
    (hr : Static.isRate r = true) (hgap : 0.0 < (Static.impliedPercentage e r).2) :
    ReportedApart e (Static.impliedPercentage e r).1 := by
  intro v w he ha
  have heighty : value? 80.0 = some 80 := by decide +kernel
  obtain ⟨n, hn, hsize⟩ := exists_percentage hr
  rw [Static.isDiscounted, Bool.and_eq_true, decide_eq_true_eq, decide_eq_true_eq,
    le_iff heighty he, lt_iff he value?_hundred] at hd
  have hwhole : v ≠ w ∧ ∃ n : ℤ, w = n := by
    by_cases hhalf : 0.5 ≤ r
    · have himplied : Static.impliedPercentage e r =
          (round (r * 100.0), abs (round (r * 100.0) - e)) := if_pos hhalf
      rw [himplied] at ha hgap
      obtain rfl : (n : ℚ) = w := Option.some.inj (hn.symm.trans ha)
      refine ⟨?_, n, rfl⟩
      rintro rfl
      exact not_zero_lt_distance hn he hgap
    · have himplied : Static.impliedPercentage e r =
          (100.0 - round (r * 100.0), abs (100.0 - e - round (r * 100.0))) := if_neg hhalf
      rw [himplied] at ha hgap
      obtain ⟨hw, hexact⟩ := value?_hundred_sub hn hsize
      obtain rfl : ((100 - n : ℤ) : ℚ) = w := Option.some.inj (hw.symm.trans ha)
      refine ⟨?_, 100 - n, rfl⟩
      rintro rfl
      exact not_zero_lt_distance (hexact e he) hn hgap
  refine ⟨hwhole.1, fun hv hw htext => ⟨hd, hwhole.2, ?_⟩⟩
  exact abs_sub_le_of_shown_eq he ha hv hw (String.ofList_injective htext)

/-! ## Reports -/

/-- The divergence of a detection, when it is one between numbers. -/
def Detection.numbers? (d : Detection) : Option Divergence :=
  d.reported?.filter fun dv => dv.kind = .returnValue

/-- A divergence shows two numbers that are apart. -/
def ShowsApart (dv : Divergence) : Prop :=
  ∃ e a : Float, dv.expected = Static.shownText e ∧ dv.actual = Static.shownText a ∧
    ReportedApart e a

/-- What outlines disagree about is apart. -/
private theorem reportedApart_of_compare {test source : Outline} {m : Outline.Mismatch}
    (h : Outline.compare test source = .mismatch m) : ReportedApart m.expected m.actual := by
  apply reportedApart_of_farApart
  by_cases hreturns : Outline.numericReturns source = []
  · obtain ⟨x, c, hx, hc, rfl⟩ := ((Outline.compare_by_rates hreturns).2.2 m).mp h
    exact .inr (.inr (.inl fun hleft => hx.holds.1 ⟨c, hc.mem, hleft⟩))
  · obtain ⟨x, r, ⟨_, _, _, _, hnot⟩, ⟨_, _, hsplit, _, _⟩, rfl⟩ :=
      ((Outline.compare_by_returns hreturns).2.2 m).mp h
    have hr : r ∈ Outline.numericReturns source :=
      hsplit ▸ List.mem_append_right _ List.mem_cons_self
    exact .inr (.inl fun hnear => hnot ⟨r, hr, hnear⟩)

/-- Numbers that are held against each other are apart. -/
private theorem reportedApart_of_opposes {pair : Pair} {file : Option (List Char)}
    {grammars : Outline.Grammars} {e a : Float} (h : Static.Opposes pair file grammars e a) :
    ReportedApart e a := by
  cases h with
  | outlines hm => exact reportedApart_of_compare hm
  | ratio _ _ hmiss =>
    simp only [Static.isCloseMiss, Bool.and_eq_true, decide_eq_true_eq] at hmiss
    exact reportedApart_of_farApart (.inr (.inr (.inr hmiss.1.1)))
  | rate _ _ hdiscounted hrate hgap => exact reportedApart_of_percentage hdiscounted hrate hgap

private theorem showsApart_of_static {pair : Pair} {file : Option (List Char)}
    {grammars : Outline.Grammars} {d : Detection} {dv : Divergence}
    (h : Static.detect? pair file grammars = some d) (hd : d.numbers? = some dv) :
    ShowsApart dv := by
  cases Static.reports_of_detect? h with
  | numbers hopposes =>
    obtain rfl := Option.some.inj hd
    exact ⟨_, _, rfl, rfl, reportedApart_of_opposes hopposes⟩
  | error => cases hd

/-- The numbers of an inference are apart. -/
private theorem reportedApart_of_ofPair? {pair : Pair} {i : Inference}
    (h : Inference.ofPair? pair = some i) : ReportedApart i.expected i.actual := by
  obtain ⟨infer?, hinfer, hfirst⟩ := List.exists_of_findSome?_eq_some h
  obtain ⟨e, he, hvalues⟩ := List.exists_of_findSome?_eq_some hfirst
  obtain ⟨v, hv, hi⟩ := List.exists_of_findSome?_eq_some hvalues
  have hunmentioned : ¬near v.value e.value = true := by
    have hnone := (List.mem_filter.mp he).2
    rw [Bool.not_eq_true', ← Bool.not_eq_true, List.any_eq_true] at hnone
    exact fun hnear => hnone ⟨v, hv, hnear⟩
  have hfar : FarApart v.value e.value :=
    .inl fun hclose => hunmentioned (decide_eq_true hclose)
  simp only [List.mem_cons, List.not_mem_nil, or_false] at hinfer
  rcases hinfer with rfl | rfl | rfl
  · simp only [Inference.nearMiss?, Option.ite_none_right_eq_some, Option.some.injEq] at hi
    obtain ⟨-, rfl⟩ := hi
    exact reportedApart_of_farApart (.inr hfar)
  · rw [Inference.percentage?] at hi
    dsimp only at hi
    split at hi
    next hrate =>
      obtain rfl := Option.some.inj hi
      simp only [Bool.and_eq_true, decide_eq_true_eq] at hrate
      exact reportedApart_of_percentage hrate.1.1.1 hrate.1.1.2 hrate.1.2
    · cases hi
  · simp only [Inference.threshold?, Option.ite_none_right_eq_some, Option.some.injEq] at hi
    obtain ⟨-, rfl⟩ := hi
    exact reportedApart_of_farApart (.inr hfar)

private theorem showsApart_of_inference {pair : Pair} {d : Detection} {dv : Divergence}
    (h : Inference.detect? pair = some d) (hd : d.numbers? = some dv) : ShowsApart dv := by
  obtain ⟨i, hi, rfl⟩ := Option.map_eq_some_iff.mp h
  obtain rfl := Option.some.inj hd
  exact ⟨i.expected, i.actual, rfl, rfl, reportedApart_of_ofPair? hi⟩

/-- A reported disagreement between numbers shows two numbers that are not the same. Up to a
trillion their texts are not the same either, unless the expected number is a percentage after a
discount and the other one the whole percentage next to it. -/
theorem reported_numbers_apart {pair : Pair} {file : Option (List Char)}
    {grammars : Outline.Grammars} {d : Detection} {dv : Divergence}
    (h : Static.detect? pair file grammars = some d ∨ Inference.detect? pair = some d)
    (hd : d.reported? = some dv) (hkind : dv.kind = .returnValue) :
    ∃ e a : Float, dv.expected = Static.shownText e ∧ dv.actual = Static.shownText a ∧
      ∀ v w, value? e = some v → value? a = some w → v ≠ w ∧
        (|v| ≤ 10 ^ 12 → |w| ≤ 10 ^ 12 → dv.expected = dv.actual →
          (80 ≤ v ∧ v < 100) ∧ (∃ n : ℤ, w = n) ∧ |v - w| ≤ 1 / 1250) := by
  have hnumbers : d.numbers? = some dv := by
    rw [Detection.numbers?, hd, Option.filter_some, if_pos (decide_eq_true hkind)]
  have hshows : ShowsApart dv := by
    rcases h with h | h
    · exact showsApart_of_static h hnumbers
    · exact showsApart_of_inference h hnumbers
  obtain ⟨e, a, he, ha, hapart⟩ := hshows
  rw [he, ha]
  exact ⟨e, a, rfl, rfl, hapart⟩

/-- A percentage that is not whole, and a rate next to it. -/
def hairsbreadth : Pair :=
  Static.expecting "90.00001" "return price * 0.9003;"

/-- The texts of a report between numbers. -/
def reportedTexts (d : Option Detection) : Option (DivergenceKind × String × String) :=
  (d.bind Detection.reported?).map fun dv => (dv.kind, dv.expected, dv.actual)

private theorem reportedTexts_hairsbreadth :
    reportedTexts (Static.detect? hairsbreadth none) = some (.returnValue, "90", "90") := by
  decide +kernel

/-- A percentage that is not whole is reported against the whole one next to it. -/
theorem hairsbreadth_numbers_apart :
    ∃ d dv, Static.detect? hairsbreadth none = some d ∧ d.reported? = some dv ∧
      dv.kind = .returnValue ∧
      ∃ e a : Float, dv.expected = Static.shownText e ∧ dv.actual = Static.shownText a ∧
        ∀ v w, value? e = some v → value? a = some w → v ≠ w ∧
          (|v| ≤ 10 ^ 12 → |w| ≤ 10 ^ 12 → dv.expected = dv.actual →
            (80 ≤ v ∧ v < 100) ∧ (∃ n : ℤ, w = n) ∧ |v - w| ≤ 1 / 1250) := by
  obtain ⟨dv, hdv, htexts⟩ := Option.map_eq_some_iff.mp reportedTexts_hairsbreadth
  obtain ⟨d, hd, hreported⟩ := Option.bind_eq_some_iff.mp hdv
  have hkind : dv.kind = .returnValue := congrArg Prod.fst htexts
  exact ⟨d, dv, hd, hreported, hkind, reported_numbers_apart (.inl hd) hreported hkind⟩

/-- Both stages can report a text against the same text: a percentage with more than four decimals
against a whole one, and numbers that are too large for the word or for the decimals that are
shown. -/
theorem equal_texts_reported :
    reportedTexts (Static.detect? hairsbreadth none) = some (.returnValue, "90", "90") ∧
      reportedTexts (Inference.detect? (Static.expecting "90.00001" "return price * 0.9;")) =
        some (.returnValue, "90", "90") ∧
      reportedTexts (Static.detect?
        (Static.expecting "10000000000000000000" "return 20000000000000000000;") none) =
        some (.returnValue, "9223372036854775807", "9223372036854775807") ∧
      reportedTexts (Static.detect?
        (Static.expecting "14411518807585.589" "return 14411518807585.591;") none) =
        some (.returnValue, "14411518807585.59", "14411518807585.59") := by
  refine ⟨reportedTexts_hairsbreadth, ?_⟩
  decide +kernel

end Adjudicator
