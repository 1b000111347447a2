import Adjudicator.Divergence.Failure
import Adjudicator.Proofs.Pattern.Taken
import Adjudicator.Proofs.Text.Trim

/-!
# Messages of the frameworks

Every form reads the message that its framework writes about two numbers. A form needs a word that
no message of a later form has, so no earlier form reads a message. Main statement: the divergence
that a message reports has the expected number as expected and the actual number as actual.
-/

namespace Adjudicator.Failure

open Text Pattern

/-! ## Numbers -/

/-- A text of one or more digits. -/
structure IsNumber (x : List Char) : Prop where
  /-- It has a digit. -/
  ne_nil : x ≠ []
  /-- It has nothing else. -/
  digits : ∀ c ∈ x, isDigit c = true

/-- The code points of blanks. -/
private def blankPoints : List Nat :=
  [9, 10, 11, 12, 13, 0x20, 0x85, 0xA0, 0x1680, 0x2000, 0x2001, 0x2002, 0x2003, 0x2004, 0x2005,
    0x2006, 0x2007, 0x2008, 0x2009, 0x200A, 0x2028, 0x2029, 0x202F, 0x205F, 0x3000]

private theorem mem_blankPoints {c : Char} (h : isBlank c = true) : c.toNat ∈ blankPoints := by
  simp only [isBlank, Bool.or_eq_true, Bool.and_eq_true, decide_eq_true_eq, beq_iff_eq] at h
  simp only [blankPoints, List.mem_cons, List.not_mem_nil, or_false]
  omega

/-- A digit is no blank. -/
theorem isBlank_of_isDigit {c : Char} (h : isDigit c = true) : isBlank c = false := by
  rw [Bool.eq_false_iff]
  intro hblank
  have hdigit : ∀ n ∈ blankPoints, isDigit (Char.ofNat n) = false := by decide
  have hc := hdigit _ (mem_blankPoints hblank)
  rw [Char.ofNat_toNat, h] at hc
  cases hc

variable {x y w v rest : List Char}

/-- A digit is no other character. -/
theorem ne_of_isDigit {c d : Char} (hc : isDigit c = true) (hd : isDigit d = false) : c ≠ d := by
  rintro rfl
  rw [hc] at hd
  cases hd

namespace IsNumber

/-- In front of a number there is no blank. -/
theorem head?_append (hx : IsNumber x) : ∀ c ∈ (x ++ rest).head?, isBlank c = false := by
  obtain ⟨c, x, rfl⟩ := List.exists_cons_of_ne_nil hx.ne_nil
  intro d hd
  obtain rfl := Option.some.inj hd
  exact isBlank_of_isDigit (hx.digits c List.mem_cons_self)

/-- Cleaning leaves a number as it is. -/
theorem clean_eq (hx : IsNumber x) : clean x = x := by
  have hblank : ∀ c ∈ x, isBlank c = false := fun c hc => isBlank_of_isDigit (hx.digits c hc)
  have htrim : trim x = x :=
    trim_eq_self (fun c hc => hblank c (List.mem_of_mem_head? hc))
      fun c hc => hblank c (List.mem_of_getLast? hc)
  have hother {d : Char} (hd : isDigit d = false) : ∀ c ∈ x, (c == d) = false :=
    fun c hc => beq_false_of_ne (ne_of_isDigit (hx.digits c hc) hd)
  have hstops : dropEndWhile (fun c => c == ',' || c == '.') x = x := by
    refine dropEndWhile_eq_self fun c hc => ?_
    rw [hother (by decide) c hc, hother (by decide) c hc, Bool.or_false]
  have hquote : ∀ c ∈ x, (c == Code.backtick) = false := hother (by decide)
  have hquotes : x.dropWhile (· == Code.backtick) = x := by
    obtain ⟨c, x, rfl⟩ := List.exists_cons_of_ne_nil hx.ne_nil
    rw [List.dropWhile_cons, hquote c List.mem_cons_self]
    rfl
  rw [clean, htrim, hstops, hquotes, dropEndWhile_eq_self hquote, htrim]

end IsNumber

/-! ## Parts of forms -/

/-- A pattern takes a word, whatever follows. -/
def Always (p : Pattern) (w : List Char) : Prop :=
  ∀ rest : List Char, p.Takes w rest

/-- A pattern takes a word where no blank follows. -/
def Leads (p : Pattern) (w : List Char) : Prop :=
  ∀ rest : List Char, (∀ c ∈ rest.head?, isBlank c = false) → p.Takes w rest

section Parts

variable {p q first second lead middle : Pattern}

/-- A text takes itself. -/
theorem always_text (word : String) : Always word word.toList :=
  fun _ => takes_text word

/-- What is always taken is taken in front of anything but a blank. -/
theorem Always.leads (hp : Always p w) : Leads p w :=
  fun rest _ => hp rest

/-- Behind a part that leads on, another part begins with no blank. -/
theorem Leads.append (hp : Leads p w) (hq : Always q v)
    (hv : ∃ c ∈ v.head?, isBlank c = false) : Always (p ++ q) (w ++ v) := by
  intro rest
  refine (hp (v ++ rest) ?_).append (hq rest)
  obtain ⟨c, hc, hblank⟩ := hv
  intro d hd
  rw [List.head?_append, hc, Option.some_or, Option.mem_some_iff] at hd
  exact hd ▸ hblank

/-- A gap takes nothing where no blank follows. -/
theorem Leads.gap (hp : Leads p w) : Leads (p ++ Pattern.gap) w := by
  intro rest hrest
  have hgap : Pattern.gap.Takes [] rest := takes_star_one (List.forall_mem_nil _) hrest
  rw [← List.append_nil w]
  exact (hp rest hrest).append hgap

/-- A space is taken as a gap. -/
theorem Always.gap (hp : Always p w) : Leads (p ++ Pattern.gap) (w ++ [' ']) :=
  fun _ hrest => (hp _).append (takes_star_one (List.forall_mem_singleton.mpr rfl) hrest)

/-- A space is taken as blanks. -/
theorem Always.space (hp : Always p w) : Leads (p ++ Pattern.space) (w ++ [' ']) :=
  fun _ hrest => (hp _).append
    (takes_plus_one (List.cons_ne_nil _ _) (List.forall_mem_singleton.mpr rfl) hrest)

/-- A gap leaves the line feed that is needed behind it. -/
theorem leads_gap_newline : Leads (Pattern.gap ++ "\n") ['\n'] := by
  intro rest hrest c hc
  have hgap : Pattern.gap.offers c = [c.past ['\n'] rest, c] := by
    rw [Pattern.gap, Pattern.blank, offers_star_one_cons hc, if_pos (by decide),
      offers_star_one_of_not hrest]
    rfl
  -- the gap would rather take the line feed itself, but then none is left
  have hbehind : (text "\n").offers (c.past ['\n'] rest) = [] := by
    rw [List.eq_nil_iff_forall_not_mem]
    intro d hd
    obtain ⟨_, rfl, rest', hsplit, -⟩ := (reads_text "\n" _ d).mp hd
    obtain rfl : rest = '\n' :: rest' := hsplit
    exact absurd (hrest '\n' rfl) (by decide)
  have hnewline : (text "\n").tryAt c = some (c.past ['\n'] rest) := takes_text "\n" c hc
  have hoffers : (Pattern.gap ++ "\n").offers c =
      (Pattern.gap.offers c).flatMap (text "\n").offers := rfl
  rw [tryAt_eq_head?] at hnewline ⊢
  rw [hoffers, hgap, List.flatMap_cons, hbehind, List.nil_append, List.flatMap_singleton]
  exact hnewline

/-! ## Forms of two sides -/

/-- Digits are no blanks, so a gap leaves them to what is behind it. -/
theorem rejects_gap_append (hq : q.Rejects isDigit) : (Pattern.gap ++ q).Rejects isDigit :=
  hq.star_one_append fun _ => isBlank_of_isDigit

/-- Digits are outside a text without digits. -/
theorem noneOf_of_isDigit {s : String} (hs : s.toList.all (fun c => !isDigit c) = true) {c : Char}
    (hc : isDigit c = true) : (!s.toList.contains c) = true := by
  rw [Bool.not_eq_true', List.contains_eq_mem, decide_eq_false_iff_not]
  intro hmem
  have hnot := List.all_eq_true.mp hs c hmem
  rw [hc] at hnot
  cases hnot

/-- A lazy part takes a number. -/
theorem IsNumber.lazy_before (hx : IsNumber x) {accepts : Char → Bool}
    (haccepts : ∀ c, isDigit c = true → accepts c = true) (hq : q.Rejects isDigit) :
    (one accepts).plusLazy.TakesBefore q x rest :=
  plusLazy_one_before hx.ne_nil hx.digits (fun c hc => haccepts c (hx.digits c hc)) hq

/-- A greedy part takes a number in front of what is not of its class. -/
theorem IsNumber.plus_before (hx : IsNumber x) {accepts : Char → Bool}
    (haccepts : ∀ c, isDigit c = true → accepts c = true)
    (hrest : ∀ c ∈ rest.head?, accepts c = false) :
    (one accepts).plus.TakesBefore q x rest :=
  (takes_plus_one hx.ne_nil (fun c hc => haccepts c (hx.digits c hc)) hrest).before

/-- The digits of a number are taken together when no accepted character follows. -/
theorem IsNumber.star_before (hx : IsNumber x) {accepts : Char → Bool}
    (haccepts : ∀ c, isDigit c = true → accepts c = true)
    (hrest : ∀ c ∈ rest.head?, accepts c = false) :
    (one accepts).star.TakesBefore q x rest :=
  (takes_star_one (fun c hc => haccepts c (hx.digits c hc)) hrest).before

/-- A form finds two numbers between fixed texts. -/
def Finds (p : Pattern) (w₀ w₁ w₂ : List Char) : Prop :=
  ∀ x y, IsNumber x → IsNumber y →
    ∃ m, p.find? (w₀ ++ (x ++ (w₁ ++ (y ++ w₂)))) = some m ∧ m.group 1 = x ∧ m.group 2 = y

/-- Sides in front of a closing mark are found. -/
theorem finds_enclosed {closing : String} {k : Char} {w₀ w₁ : List Char}
    (hclosing : closing.toList = [k]) (hk : isDigit k = false)
    (hlead : Leads lead w₀) (hmiddle : Leads middle w₁) (hw₁ : w₁.head? = some k)
    (hp : p.tryAt = (lead ++ (group 1 (noneOf closing).star ++
      (middle ++ (group 2 (noneOf closing).star ++ closing)))).tryAt) :
    Finds p w₀ w₁ closing.toList := by
  intro x y hx hy
  have hdigits : ∀ c, isDigit c = true → (!closing.toList.contains c) = true := by
    refine fun c hc => noneOf_of_isDigit ?_ hc
    rw [hclosing, List.all_cons, hk]
    rfl
  have hstops {w rest : List Char} (hw : w.head? = some k) :
      ∀ c ∈ (w ++ rest).head?, (!closing.toList.contains c) = false := by
    intro c hc
    rw [List.head?_append, hw, Option.some_or, Option.mem_some_iff] at hc
    rw [hclosing, ← hc, List.contains_cons, beq_self_eq_true]
    rfl
  have hend : closing.toList.head? = some k := by rw [hclosing, List.head?_cons]
  have hafter : ∀ c ∈ (closing.toList ++ []).head?, _ := hstops hend
  rw [List.append_nil] at hafter
  exact find?_of_groups hp (hlead _ hx.head?_append) (hx.star_before hdigits (hstops hw₁))
    (hmiddle _ hy.head?_append) (hy.star_before hdigits hafter) (takes_text closing)

/-- Sides on lines of their own are found. -/
theorem finds_onTwoLines {w₀ w₁ : List Char} (hfirst : Always first w) (hsecond : Always second v)
    (hv : ∃ c ∈ v.head?, isBlank c = false) (hw₀ : w ++ [' '] = w₀)
    (hw₁ : '\n' :: (v ++ [' ']) = w₁) : Finds (onTwoLines first second) w₀ w₁ [] := by
  intro x y hx hy
  subst hw₀ hw₁
  have hrejects : (Pattern.gap ++ "\n" ++ Pattern.gap ++ second ++ Pattern.gap).Rejects isDigit :=
    (rejects_gap_append (rejects_text (w := []) rfl (by decide))).append.append.append
  have hmiddle : Leads (Pattern.gap ++ "\n" ++ Pattern.gap ++ second ++ Pattern.gap)
      ('\n' :: (v ++ [' '])) :=
    (leads_gap_newline.gap.append hsecond hv).gap
  have hparts : (onTwoLines first second).tryAt =
      (first ++ Pattern.gap ++ (group 1 span ++
        (Pattern.gap ++ "\n" ++ Pattern.gap ++ second ++ Pattern.gap ++
          (group 2 restOfLine ++ here)))).tryAt := rfl
  refine find?_of_groups hparts (hfirst.gap _ hx.head?_append)
    (hx.lazy_before (fun _ _ => rfl) hrejects.append) (hmiddle _ hy.head?_append)
    (hy.plus_before (fun c hc => noneOf_of_isDigit (by decide) hc) nofun) takes_here

/-- Sides in one line are found, where something parts them. -/
theorem finds_inLine {w₀ w₁ : List Char}
    (hlead : Leads lead w₀) (hmiddle : Leads middle w₁) (hrejects : middle.Rejects isDigit)
    (hp : p.tryAt = (lead ++ (group 1 dot.plusLazy ++
      (middle ++ (group 2 dot.plusLazy ++ (Pattern.gap ++ lineEnd))))).tryAt) :
    Finds p w₀ w₁ [] := by
  intro x y hx hy
  have hdots : ∀ c, isDigit c = true → (c != '\n') = true :=
    fun c hc => bne_iff_ne.mpr (ne_of_isDigit hc (by decide))
  have hgap : Pattern.gap.Takes [] [] := takes_star_one (List.forall_mem_nil _) nofun
  have hend : (Pattern.gap ++ lineEnd).Takes [] [] := hgap.append takes_lineEnd
  exact find?_of_groups hp (hlead _ hx.head?_append) (hx.lazy_before hdots hrejects.append)
    (hmiddle _ hy.head?_append)
    (hy.lazy_before hdots (rejects_gap_append (rejects_lineEnd (by decide)))) hend

/-- Sides between blanks are found. -/
theorem finds_apart (word : String) (hword : ∃ c ∈ word.toList.head?, isBlank c = false) :
    Finds (group 1 solid ++ Pattern.gap ++ word ++ Pattern.gap ++ group 2 solid) []
      (' ' :: (word.toList ++ [' '])) [] := by
  intro x y hx hy
  have hsolid : ∀ c, isDigit c = true → (!isBlank c) = true := by
    intro c hc
    rw [isBlank_of_isDigit hc]
    rfl
  have hspace {rest : List Char} : ∀ c ∈ (' ' :: rest).head?, (!isBlank c) = false := by
    intro c hc
    obtain rfl := Option.some.inj hc
    decide
  have hgap : Leads Pattern.gap [' '] :=
    fun _ hrest => takes_star_one (List.forall_mem_singleton.mpr rfl) hrest
  have hmiddle : Leads (Pattern.gap ++ word ++ Pattern.gap) (' ' :: (word.toList ++ [' '])) :=
    (hgap.append (always_text word) hword).gap
  have hparts :
      (group 1 solid ++ Pattern.gap ++ word ++ Pattern.gap ++ group 2 solid : Pattern).tryAt =
        (here ++ (group 1 solid ++
          (Pattern.gap ++ word ++ Pattern.gap ++ (group 2 solid ++ here)))).tryAt := rfl
  exact find?_of_groups hparts takes_here
    (hx.plus_before hsolid hspace) (hmiddle _ hy.head?_append) (hy.plus_before hsolid nofun)
    takes_here

/-- A form with its sides on two lines needs what its second side needs. -/
theorem needs_onTwoLines (hsecond : second.Needs w) : (onTwoLines first second).Needs w :=
  hsecond.behind.append.append

end Parts

/-! ## Messages -/

/-- Messages of a framework, as fixed texts around two sides. -/
structure Template where
  /-- Name of the form. -/
  label : String
  /-- The side that is named first. -/
  order : Order
  /-- A word that the form needs. -/
  word : String
  /-- What stands in front of both sides. -/
  front : String
  /-- What stands between the sides. -/
  middle : String
  /-- What stands behind both sides. -/
  back : String

namespace Template

/-- A message with a first and a second side. -/
def write (t : Template) (first second : String) : String :=
  t.front ++ first ++ t.middle ++ second ++ t.back

/-- The message of a failed comparison. -/
def message (t : Template) (expected actual : String) : String :=
  match t.order with
  | .expectedFirst => t.write expected actual
  | .actualFirst => t.write actual expected

/-- Whether a word without digits stands in no message about numbers. -/
def lacks (t : Template) (w : String) : Bool :=
  w.toList.all (fun c => !isDigit c) && !contains w.toList t.front.toList &&
    !contains w.toList t.middle.toList && !contains w.toList t.back.toList

end Template

/-- What the frameworks write, in the order of the forms. -/
def templates : List Template :=
  [⟨"JUnit", .expectedFirst, ">", "expected: <", "> but was: <", ">"⟩,
    ⟨"TestNG", .expectedFirst, "]", "expected [", "] but found [", "]"⟩,
    ⟨"Jest", .expectedFirst, "Received:", "Expected: ", "\nReceived: ", ""⟩,
    ⟨"Chai", .actualFirst, "equal ", "expected ", " to equal ", ""⟩,
    ⟨"testify", .expectedFirst, "actual", "expected: ", "\nactual  : ", ""⟩,
    ⟨"NUnit", .expectedFirst, "But was:", "Expected: ", "\nBut was: ", ""⟩,
    ⟨"xUnit", .expectedFirst, "Actual:", "Expected: ", "\nActual: ", ""⟩,
    ⟨"assert_eq", .actualFirst, "right:", "left: ", "\nright: ", ""⟩,
    ⟨"pytest", .actualFirst, " == ", "assert ", " == ", ""⟩,
    ⟨"unittest", .actualFirst, " != ", "AssertionError: ", " != ", ""⟩,
    ⟨"strict equality", .actualFirst, "!==", "", " !== ", ""⟩,
    ⟨"generic", .expectedFirst, "", "Expected ", ", but got ", ""⟩]

/-- A form reads the messages of a template, and needs its word. -/
structure Form.Reads (f : Form) (t : Template) : Prop where
  label : f.label = t.label
  order : f.order = t.order
  needs : f.pattern.Needs t.word.toList
  finds : Finds f.pattern t.front.toList t.middle.toList t.back.toList

section Parts

/-- The mark of the expected side, with a space behind its colon. -/
theorem leads_junit_first :
    Leads ("expected:" ++ Pattern.gap ++ "<" : Pattern) "expected: <".toList :=
  ((always_text "expected:").gap.append (always_text "<") ⟨'<', rfl, by decide⟩).leads

/-- The mark between both sides, with a space behind its colon. -/
theorem leads_junit_second :
    Leads (">" ++ Pattern.gap ++ "but was:" ++ Pattern.gap ++ "<" : Pattern)
      "> but was: <".toList :=
  ((((always_text ">").gap.append (always_text "but was:") ⟨'b', rfl, by decide⟩).gap).append
    (always_text "<") ⟨'<', rfl, by decide⟩).leads

/-- No adverb stands in front of the verb. -/
theorem leads_chai_second :
    Leads (" to " ++ opt (choice ["deeply ", "strictly "]) ++ "equal " : Pattern)
      " to equal ".toList := by
  intro rest _
  have hadverb : (choice ["deeply ", "strictly "]).Rejects (· == 'e') :=
    (rejects_text rfl (by decide)).either (rejects_text rfl (by decide))
  have hopt : (opt (choice ["deeply ", "strictly "])).Takes [] ("equal ".toList ++ rest) :=
    hadverb.takes_opt (by decide)
  exact ((takes_text " to ").append hopt).append (takes_text "equal ")

/-- The mark of the actual side, aligned with two spaces. -/
theorem always_testify_second :
    Always ("actual" ++ Pattern.gap ++ ":" : Pattern) "actual  :".toList := by
  intro rest
  have hcolon : ∀ c ∈ (":".toList ++ rest).head?, isBlank c = false := by
    intro c hc
    obtain rfl := Option.some.inj hc
    decide
  have hgap : Pattern.gap.Takes "  ".toList (":".toList ++ rest) :=
    takes_star_one (List.all_eq_true.mp rfl) hcolon
  exact ((takes_text "actual").append hgap).append (takes_text ":")

/-- The word for the expected side with its blank. -/
theorem leads_generic_first : Leads (anyCase "expected" ++ space) "Expected ".toList :=
  Always.space (w := "Expected".toList) fun _ => takes_anyCase (by decide)

/-- What stands between both sides in the general form. -/
theorem leads_generic_second :
    Leads (opt "," ++ space ++ anyCase "but" ++ space ++
      choice [anyCase "got", anyCase "was", anyCase "received"] ++ space) ", but got ".toList := by
  have hcomma : Always (opt ",") ",".toList := fun _ => (takes_text ",").either
  have hbut : Always (anyCase "but") "but".toList := fun _ => takes_anyCase (by decide)
  have hgot : Always (choice [anyCase "got", anyCase "was", anyCase "received"]) "got".toList :=
    fun _ => Takes.either (takes_anyCase (by decide))
  exact ((hcomma.space.append hbut ⟨'b', rfl, by decide⟩).space.append hgot
    ⟨'g', rfl, by decide⟩).space

/-- What stands between both sides begins with no digit. -/
theorem rejects_generic_second :
    (opt "," ++ space ++ anyCase "but" ++ space ++
      choice [anyCase "got", anyCase "was", anyCase "received"] ++ space).Rejects isDigit := by
  have hspace : space.Rejects isDigit := (rejects_one fun _ => isBlank_of_isDigit).append
  have hcomma : (text ",").Rejects isDigit := rejects_text rfl (by decide)
  exact (hcomma.opt_append hspace).append.append.append.append

end Parts

/-- Every form reads what its framework writes. -/
theorem forms_read : List.Forall₂ Form.Reads forms templates := by
  refine .cons ?junit (.cons ?testng (.cons ?jest (.cons ?chai (.cons ?testify (.cons ?nunit
    (.cons ?xunit (.cons ?assertEq (.cons ?pytest (.cons ?unittest (.cons ?strict
      (.cons ?generic .nil)))))))))))
  case junit =>
    exact ⟨rfl, rfl, (needs_text ">").behind,
      finds_enclosed (k := '>') rfl (by decide) leads_junit_first leads_junit_second rfl rfl⟩
  case testng =>
    exact ⟨rfl, rfl, (needs_text "]").behind, finds_enclosed (k := ']') rfl (by decide)
      (always_text "expected [").leads (always_text "] but found [").leads rfl rfl⟩
  case jest =>
    exact ⟨rfl, rfl, needs_onTwoLines (needs_text "Received:"),
      finds_onTwoLines (always_text "Expected:") (always_text "Received:") ⟨'R', rfl, by decide⟩
        rfl rfl⟩
  case chai =>
    exact ⟨rfl, rfl, (needs_text "equal ").behind.append,
      finds_inLine (always_text "expected ").leads leads_chai_second
        (rejects_text rfl (by decide)).append.append rfl⟩
  case testify =>
    exact ⟨rfl, rfl, needs_onTwoLines (needs_text "actual").append.append,
      finds_onTwoLines (always_text "expected:") always_testify_second ⟨'a', rfl, by decide⟩
        rfl rfl⟩
  case nunit =>
    exact ⟨rfl, rfl, needs_onTwoLines (needs_text "But was:"),
      finds_onTwoLines (always_text "Expected:") (always_text "But was:") ⟨'B', rfl, by decide⟩
        rfl rfl⟩
  case xunit =>
    exact ⟨rfl, rfl, needs_onTwoLines (needs_text "Actual:"),
      finds_onTwoLines (always_text "Expected:") (always_text "Actual:") ⟨'A', rfl, by decide⟩
        rfl rfl⟩
  case assertEq =>
    exact ⟨rfl, rfl, needs_onTwoLines (needs_text "right:"),
      finds_onTwoLines (always_text "left:") (always_text "right:") ⟨'r', rfl, by decide⟩
        rfl rfl⟩
  case pytest =>
    exact ⟨rfl, rfl, (needs_text " == ").behind.append, finds_inLine
      (always_text "assert ").leads (always_text " == ").leads (rejects_text rfl (by decide)) rfl⟩
  case unittest =>
    exact ⟨rfl, rfl, (needs_text " != ").behind.append, finds_inLine
      (always_text "AssertionError:").gap (always_text " != ").leads
      (rejects_text rfl (by decide)) rfl⟩
  case strict =>
    exact ⟨rfl, rfl, (needs_text "!==").behind.append.append,
      finds_apart "!==" ⟨'!', rfl, by decide⟩⟩
  case generic =>
    exact ⟨rfl, rfl, fun _ _ _ => List.nil_infix,
      finds_inLine leads_generic_first leads_generic_second rejects_generic_second rfl⟩

/-! ## What messages report -/

variable {f : Form} {fs : List Form} {t t' : Template} {ts : List Template} {e a : String}

/-- A message is what stands in front of, between and behind its two sides. -/
theorem Template.toList_write (t : Template) (first second : String) :
    (t.write first second).toList = t.front.toList ++
      (first.toList ++ (t.middle.toList ++ (second.toList ++ t.back.toList))) := by
  simp only [write, String.toList_append, List.append_assoc]

/-- A word that a template lacks is in no message about numbers. -/
theorem not_infix_of_lacks {word : String} (h : t.lacks word = true) (he : IsNumber e.toList)
    (ha : IsNumber a.toList) : ¬word.toList <:+: (t.message e a).toList := by
  simp only [Template.lacks, Bool.and_eq_true, Bool.not_eq_true', List.all_eq_true] at h
  obtain ⟨⟨⟨hword, hfront⟩, hmiddle⟩, hback⟩ := h
  have hwrite {first second : String} (hfirst : IsNumber first.toList)
      (hsecond : IsNumber second.toList) : ¬word.toList <:+: (t.write first second).toList := by
    have houtside {x : List Char} (hx : IsNumber x) : ∀ c ∈ x, c ∉ word.toList :=
      fun c hc hmem => ne_of_isDigit (hx.digits c hc) (hword c hmem) rfl
    have habsent {s : List Char} (hs : contains word.toList s = false) : ¬word.toList <:+: s :=
      fun hinfix => Bool.eq_false_iff.mp hs (contains_iff.mpr hinfix)
    rw [t.toList_write]
    intro hinfix
    rcases infix_or_of_infix_append hfirst.ne_nil (houtside hfirst) hinfix with h | h
    · exact habsent hfront h
    · rcases infix_or_of_infix_append hsecond.ne_nil (houtside hsecond) h with h | h
      · exact habsent hmiddle h
      · exact habsent hback h
  unfold Template.message
  split
  · exact hwrite he ha
  · exact hwrite ha he

/-- A form passes over the messages of a template that lacks the form's word. -/
theorem Form.Reads.sides?_eq_none (h : f.Reads t) (hlacks : t'.lacks t.word = true)
    (he : IsNumber e.toList) (ha : IsNumber a.toList) :
    f.sides? (t'.message e a).toList = none := by
  rw [Form.sides?, h.needs.find?_eq_none (not_infix_of_lacks hlacks he ha), Option.bind_none]

/-- A form finds the sides of a message, which need no cleaning. -/
theorem Form.Reads.exists_match (h : f.Reads t) {first second : String}
    (hfirst : IsNumber first.toList) (hsecond : IsNumber second.toList) :
    ∃ m, f.pattern.find? (t.write first second).toList = some m ∧
      clean (m.group 1) = first.toList ∧ clean (m.group 2) = second.toList := by
  obtain ⟨m, hm, hone, htwo⟩ := h.finds _ _ hfirst hsecond
  refine ⟨m, ?_, ?_, ?_⟩
  · rw [t.toList_write, hm]
  · rw [hone, hfirst.clean_eq]
  · rw [htwo, hsecond.clean_eq]

/-- A form reads both sides of a message of its framework. -/
theorem Form.Reads.sides?_eq_some (h : f.Reads t) (he : IsNumber e.toList)
    (ha : IsNumber a.toList) (hne : e ≠ a) :
    f.sides? (t.message e a).toList = some (e.toList, a.toList) := by
  have hempty : (e.toList.isEmpty || a.toList.isEmpty || e.toList == a.toList) = false := by
    rw [List.isEmpty_eq_false_iff.mpr he.ne_nil, List.isEmpty_eq_false_iff.mpr ha.ne_nil,
      beq_false_of_ne (mt String.toList_inj.mp hne)]
    rfl
  unfold Template.message
  split
  next horder =>
    obtain ⟨m, hm, hfirst, hsecond⟩ := h.exists_match he ha
    simp only [Form.sides?, hm, Option.bind_some, h.order, horder, hfirst, hsecond, hempty,
      Bool.false_eq_true, if_false]
  next horder =>
    obtain ⟨m, hm, hfirst, hsecond⟩ := h.exists_match ha he
    simp only [Form.sides?, hm, Option.bind_some, h.order, horder, hfirst, hsecond, hempty,
      Bool.false_eq_true, if_false]

/-- The first form that reads a message is that of its framework. -/
theorem findSome?_sides? (hreads : List.Forall₂ Form.Reads fs ts)
    (hlacks : ts.Pairwise fun t t' => t'.lacks t.word = true) (ht : t ∈ ts)
    (he : IsNumber e.toList) (ha : IsNumber a.toList) (hne : e ≠ a) :
    ∃ f, f.label = t.label ∧
      (fs.findSome? fun f => (f.sides? (t.message e a).toList).map (f, ·)) =
        some (f, e.toList, a.toList) := by
  induction hreads with
  | nil => cases ht
  | @cons f t₀ fs ts hf _ ih =>
    obtain ⟨hfirst, hlacks⟩ := List.pairwise_cons.mp hlacks
    rcases List.mem_cons.mp ht with rfl | ht
    · refine ⟨f, hf.label, ?_⟩
      rw [List.findSome?_cons, hf.sides?_eq_some he ha hne, Option.map_some]
    · obtain ⟨g, hlabel, hg⟩ := ih hlacks ht
      refine ⟨g, hlabel, ?_⟩
      rw [List.findSome?_cons, hf.sides?_eq_none (hfirst t ht) he ha, Option.map_none]
      exact hg

/-- No template has a word that an earlier form needs. -/
theorem templates_lack : templates.Pairwise fun t t' => t'.lacks t.word = true := by
  decide

/-- Whatever two different numbers a framework writes into its message, the expected number is read
as expected and the actual number as actual. -/
theorem interpret_message (t : Template) (ht : t ∈ templates) (e a : String)
    (he : IsNumber e.toList) (ha : IsNumber a.toList) (hne : e ≠ a) (testLine codeLine : Nat) :
    interpret (t.message e a).toList testLine codeLine =
      .reported .failure
        { kind := .returnValue
          description := s!"Test expected {e} but got {a}"
          testLine, codeLine, expected := e, actual := a }
        0.95 s!"Parsed {t.label} failure message" := by
  obtain ⟨f, hlabel, hsides⟩ := findSome?_sides? forms_read templates_lack ht he ha hne
  rw [interpret, sides?, hsides]
  simp only [String.ofList_toList, hlabel, structured]

/-- A pytest message names the actual side first. -/
theorem interpret_message_pytest :
    interpret "assert 85 == 90".toList 3 7 =
      .reported .failure
        { kind := .returnValue
          description := "Test expected 90 but got 85"
          testLine := 3, codeLine := 7, expected := "90", actual := "85" }
        0.95 "Parsed pytest failure message" :=
  interpret_message ⟨"pytest", .actualFirst, " == ", "assert ", " == ", ""⟩
    (by simp [templates]) "90" "85" ⟨by decide, List.all_eq_true.mp rfl⟩
    ⟨by decide, List.all_eq_true.mp rfl⟩ (by decide) 3 7

end Adjudicator.Failure
