import Adjudicator.Proofs.Code.Contents
import Adjudicator.Proofs.Mutation.Masked

/-!
# Masked and stripped lines

A masked line has blanks where the stripped line has nothing. The two are read by scans of their
own, which differ in one rule: behind an ampersand or an angle bracket both take a single quote for
the mark of a lifetime, but stripping does so only when no other quote is among the next three
characters. Main statement: a masked line has as many bytes as the line, and the stripped line holds
exactly the characters that the masked line shows when no short literal stands right behind one of
these two characters. When one does, and it is not empty, the two differ.
-/

namespace Adjudicator.Mutation

open Text

variable {quote : Option Char} {prev c : Char} {source rest : List Char}
  {marks : List (Char × Bool)} {cs : List Cell} {i : Nat}

/-! ## Short literals -/

/-- The characters of cells that are code. -/
def visible (cs : List Cell) : List Char :=
  chars (cs.filter Cell.isCode)

/-- Of cells that are no code nothing is visible. -/
theorem visible_hidden (s : List Char) : visible (s.map fun c => ⟨c, false⟩) = [] := by
  have hnone : (s.map fun c => (⟨c, false⟩ : Cell)).filter Cell.isCode = [] := by
    simp
  rw [visible, hnone]
  rfl

/-- At a place of a text that two scans have marked, both take a single quote for code, it stands
behind an ampersand or an angle bracket, and another one is among the next three characters. The
character before the text is `prev`. -/
structure ShortIn (prev : Char) (source : List Char) (marks : List (Char × Bool)) (cs : List Cell)
    (i : Nat) : Prop where
  /-- The character before the quote could begin a lifetime. -/
  behind : (prev :: source)[i]? = some '&' ∨ (prev :: source)[i]? = some '<'
  /-- The literal ends soon. -/
  short : '\'' ∈ (source.drop (i + 1)).take 3
  /-- Stripping reads the quote outside literals. -/
  outside : marks[i]? = some ('\'', false)
  /-- Masking shows the quote. -/
  shown : cs[i]? = some ⟨'\'', true⟩

instance : Decidable (ShortIn prev source marks cs i) :=
  decidable_of_iff
    (((prev :: source)[i]? = some '&' ∨ (prev :: source)[i]? = some '<') ∧
      '\'' ∈ (source.drop (i + 1)).take 3 ∧ marks[i]? = some ('\'', false) ∧
      cs[i]? = some ⟨'\'', true⟩)
    ⟨fun ⟨hbehind, hshort, houtside, hshown⟩ => ⟨hbehind, hshort, houtside, hshown⟩,
      fun h => ⟨h.behind, h.short, h.outside, h.shown⟩⟩

/-- A literal of at most two characters begins at a place of a line, right behind an ampersand or an
angle bracket. -/
def ShortLiteral (source : List Char) (i : Nat) : Prop :=
  ShortIn (Char.ofNat 0) source (Code.scanned source) (cells source) i

instance : DecidablePred (ShortLiteral source) :=
  fun i => inferInstanceAs (Decidable (ShortIn _ _ _ _ i))

/-- The places of short literals move on by one behind a character. -/
theorem shortIn_cons_iff {mark : Char × Bool} {cell : Cell} :
    ShortIn prev (c :: source) (mark :: marks) (cell :: cs) (i + 1) ↔ ShortIn c source marks cs i :=
  ⟨fun ⟨hbehind, hshort, houtside, hshown⟩ => ⟨hbehind, hshort, houtside, hshown⟩,
    fun ⟨hbehind, hshort, houtside, hshown⟩ => ⟨hbehind, hshort, houtside, hshown⟩⟩

/-- A property of the places of short literals goes over the first character where none begins. -/
theorem forall_shortIn_cons {mark : Char × Bool} {cell : Cell} {P : Nat → Prop}
    (hfirst : ¬ShortIn prev (c :: source) (mark :: marks) (cell :: cs) 0) :
    (∀ i, ShortIn prev (c :: source) (mark :: marks) (cell :: cs) i → P i) ↔
      ∀ i, ShortIn c source marks cs i → P (i + 1) := by
  constructor
  · exact fun h i hi => h (i + 1) (shortIn_cons_iff.mpr hi)
  · intro h i hi
    cases i with
    | zero => exact absurd hi hfirst
    | succ i => exact h i (shortIn_cons_iff.mp hi)

/-! ## One rule apart -/

/-- Both scans open the same literal, unless a short one stands behind an ampersand or an angle
bracket. -/
theorem opened?_eq_or (prev c : Char) (rest : List Char) :
    Code.opened? prev c rest = opened? prev c rest ∨
      c = '\'' ∧ (prev = '&' ∨ prev = '<') ∧ '\'' ∈ rest.take 3 := by
  by_cases hshort : c = '\'' ∧ (prev = '&' ∨ prev = '<') ∧ '\'' ∈ rest.take 3
  · exact .inr hshort
  · left
    simp only [Code.opened?, opened?, Code.marksLifetime]
    grind

/-- A short literal behind such a character is opened by stripping alone. -/
theorem opened?_of_short (hprev : prev = '&' ∨ prev = '<') (hshort : '\'' ∈ rest.take 3) :
    Code.opened? prev '\'' rest = some '\'' ∧ opened? prev '\'' rest = none := by
  have hmem : '\'' ∈ rest := List.mem_of_mem_take hshort
  refine ⟨?_, ?_⟩
  · rw [Code.opened?, if_neg (by decide), if_pos]
    simp [Code.marksLifetime, hshort, hmem]
  · rw [opened?, if_neg (by decide), if_neg]
    rintro ⟨-, hand, hangle, -⟩
    exact hprev.elim hand hangle

/-! ## Inside a literal -/

/-- Inside a literal, what stood before does not matter. -/
theorem cellsFrom_some_prev (q p p' : Char) (escaped : Bool) (s : List Char) :
    cellsFrom (some q) escaped p s = cellsFrom (some q) escaped p' s := by
  cases s <;> rfl

/-- The first character of what is left of a literal is read inside it. -/
theorem snd_of_mem_head?_scannedFrom {q : Char} {mark : Char × Bool}
    (h : mark ∈ (Code.scannedFrom (some q) prev source).head?) : mark.2 = true := by
  cases source with
  | nil => cases h
  | cons c source =>
    by_cases hc : c = '\\'
    · subst hc
      cases source with
      | nil => obtain rfl := Option.some.inj h; rfl
      | cons d source => obtain rfl := Option.some.inj h; rfl
    · rw [Code.scannedFrom_inside hc] at h
      obtain rfl := Option.some.inj h
      rfl

/-- No literal begins where one is open. -/
theorem not_shortIn_of_inside : ¬ShortIn prev source ((c, true) :: marks) cs 0 :=
  fun h => nomatch h.outside

/-- What is left of an open literal is at most its end and what follows. -/
theorem head?_stripFrom_inside (q p : Char) (s : List Char) :
    ∀ x ∈ (Code.stripFrom (some q) p s).head?, x = q := by
  generalize hquote : some q = quote
  fun_induction Code.stripFrom quote p s with
  | case1 => nofun
  | case2 => nofun
  | case3 _ _ _ _ ih => exact ih hquote
  | case4 => exact fun x hx => (Option.some.inj hx).symm.trans (Option.some.inj hquote).symm
  | case5 _ _ _ _ _ _ ih => exact ih hquote
  | case6 => cases hquote
  | case7 => cases hquote

/-- Where stripping opens a short literal that is not empty and masking opens none, the code behind
the quote begins with another character. -/
theorem stripFrom_ne_visible (hshort : '\'' ∈ source.take 3) (hfirst : source[0]? ≠ some '\'') :
    Code.stripFrom (some '\'') prev source ≠ visible (cellsFrom none false prev source) := by
  cases source with
  | nil => cases hshort
  | cons x source =>
    have hx : x ≠ '\'' := fun hx => hfirst (congrArg some hx)
    have hhead := head?_stripFrom_inside '\'' prev (x :: source)
    rw [cellsFrom]
    split
    next hcomment =>
      -- a comment shows nothing, and the literal that ends behind its slashes shows the end
      obtain ⟨rfl, hslash⟩ := hcomment
      obtain ⟨source, rfl⟩ := List.head?_eq_some_iff.mp hslash
      obtain ⟨source, rfl⟩ : ∃ rest, source = '\'' :: rest := by
        cases source with
        | nil => simp at hshort
        | cons y source => exact ⟨source, by simpa [eq_comm] using hshort⟩
      rw [Code.stripFrom_inside (by decide), if_neg (by decide), Code.stripFrom_inside (by decide),
        if_neg (by decide), Code.stripFrom_inside (by decide), if_pos rfl, visible_hidden]
      exact List.cons_ne_nil _ _
    next =>
      intro heq
      rw [heq] at hhead
      exact hx (hhead x rfl)

/-! ## Comparison -/

/-- A stripped text is what cells show exactly where no short literal begins behind an ampersand or
an angle bracket, when no such literal is empty. -/
def AgreesUnlessShort (prev : Char) (source : List Char) (marks : List (Char × Bool))
    (cs : List Cell) (stripped : List Char) : Prop :=
  (∀ i, ShortIn prev source marks cs i → source[i + 1]? ≠ some '\'') →
    (stripped = visible cs ↔ ∀ i, ¬ShortIn prev source marks cs i)

namespace AgreesUnlessShort

variable {mark : Char × Bool} {stripped : List Char}

/-- A character that is no code and begins no short literal can be put in front of what agrees. -/
theorem hidden (h : AgreesUnlessShort c source marks cs stripped)
    (hfirst : ¬ShortIn prev (c :: source) (mark :: marks) (⟨c, false⟩ :: cs) 0) :
    AgreesUnlessShort prev (c :: source) (mark :: marks) (⟨c, false⟩ :: cs) stripped := by
  intro hfilled
  rw [forall_shortIn_cons hfirst] at hfilled
  exact (h hfilled).trans (forall_shortIn_cons (P := fun _ => False) hfirst).symm

/-- A character of the code that begins no short literal can be put in front, and is shown. -/
theorem shown (h : AgreesUnlessShort c source marks cs stripped)
    (hfirst : ¬ShortIn prev (c :: source) (mark :: marks) (⟨c, true⟩ :: cs) 0) :
    AgreesUnlessShort prev (c :: source) (mark :: marks) (⟨c, true⟩ :: cs) (c :: stripped) := by
  intro hfilled
  rw [forall_shortIn_cons hfirst] at hfilled
  have hcons : c :: stripped = visible (⟨c, true⟩ :: cs) ↔ stripped = visible cs :=
    List.cons_inj_right c
  exact hcons.trans ((h hfilled).trans (forall_shortIn_cons (P := fun _ => False) hfirst).symm)

/-- Inside a literal the character before the text does not matter. -/
theorem of_inside (h : AgreesUnlessShort prev source marks cs stripped)
    (hfirst : ∀ m ∈ marks.head?, m.2 = true) : AgreesUnlessShort c source marks cs stripped := by
  have hiff (i : Nat) : ShortIn c source marks cs i ↔ ShortIn prev source marks cs i := by
    cases i with
    | zero =>
      have hnone (p : Char) : ¬ShortIn p source marks cs 0 := fun hi =>
        absurd (hfirst _ (List.head?_eq_getElem?.trans hi.outside)) Bool.false_ne_true
      exact iff_of_false (hnone c) (hnone prev)
    | succ i =>
      exact ⟨fun ⟨hbehind, hshort, houtside, hshown⟩ => ⟨hbehind, hshort, houtside, hshown⟩,
        fun ⟨hbehind, hshort, houtside, hshown⟩ => ⟨hbehind, hshort, houtside, hshown⟩⟩
  simpa only [AgreesUnlessShort, hiff] using h

end AgreesUnlessShort

/-- The two scans of a text agree unless a short literal stands behind an ampersand or an angle
bracket. -/
theorem agrees_scans (quote : Option Char) (prev : Char) (source : List Char) :
    AgreesUnlessShort prev source (Code.scannedFrom quote prev source)
      (cellsFrom quote false prev source) (Code.stripFrom quote prev source) := by
  fun_induction Code.scannedFrom quote prev source with
  | case1 quote prev =>
    intro _
    refine iff_of_true ?_ fun i h => Option.some_ne_none _ h.outside.symm
    cases quote <;> rfl
  | case2 prev q =>
    refine fun _ => iff_of_true rfl fun i h => ?_
    have hmark := List.mem_of_getElem? h.outside
    simp at hmark
  | case3 prev q x rest ih =>
    rw [cellsFrom_some_prev q '\\' x] at ih
    refine .hidden (.hidden (ih.of_inside ?_) not_shortIn_of_inside) not_shortIn_of_inside
    exact fun m => snd_of_mem_head?_scannedFrom
  | case4 prev c rest q hc ih =>
    rw [Code.stripFrom_inside hc, cellsFrom, if_neg Bool.false_ne_true, if_neg hc]
    by_cases hq : c = q
    · rw [if_pos hq] at ih
      rw [if_pos hq, if_pos hq, if_pos hq]
      exact ih.shown not_shortIn_of_inside
    · rw [if_neg hq] at ih
      rw [if_neg hq, if_neg hq, if_neg hq]
      exact ih.hidden not_shortIn_of_inside
  | case5 prev c rest hc =>
    rw [Code.stripFrom, cellsFrom, if_pos hc, if_pos hc]
    refine fun _ => iff_of_true (visible_hidden _).symm fun i h => ?_
    have hcell := List.mem_of_getElem? h.shown
    simp at hcell
  | case6 prev c rest hc ih =>
    rw [Code.stripFrom, cellsFrom, if_neg hc, if_neg hc]
    by_cases hfirst : c = '\'' ∧ (prev = '&' ∨ prev = '<') ∧ '\'' ∈ rest.take 3
    · obtain ⟨rfl, hprev, hshort⟩ := hfirst
      obtain ⟨hstrip, hmask⟩ := opened?_of_short hprev hshort
      rw [hstrip, hmask]
      intro hfilled
      have hplace : ShortIn prev ('\'' :: rest)
          (('\'', false) :: Code.scannedFrom (some '\'') '\'' rest)
          (⟨'\'', true⟩ :: cellsFrom none false '\'' rest) 0 :=
        ⟨hprev.imp (congrArg some) (congrArg some), hshort, rfl, rfl⟩
      refine iff_of_false ?_ fun h => h 0 hplace
      intro heq
      exact stripFrom_ne_visible hshort (hfilled 0 hplace) (List.tail_eq_of_cons_eq heq)
    · rw [(opened?_eq_or prev c rest).resolve_right hfirst] at ih ⊢
      refine ih.shown fun h => hfirst ?_
      obtain ⟨rfl, -⟩ := Prod.mk.inj (Option.some.inj h.outside)
      exact ⟨rfl, h.behind.imp Option.some.inj Option.some.inj, h.short⟩

/-- The cells of a line hold its characters, and the masked line shows them with as many bytes.
Stripping deletes exactly what masking blanks out when no short literal begins right behind an
ampersand or an angle bracket, and it does not when one does and none of them is empty. -/
theorem stripped_eq_visible_iff (source : List Char) :
    chars (cells source) = source ∧ shown (cells source) = mask source ∧
      byteLength (mask source) = byteLength source ∧
      ((∀ i, ShortLiteral source i → source[i + 1]? ≠ some '\'') →
        (Code.stripLiterals source = visible (cells source) ↔ ∀ i, ¬ShortLiteral source i)) := by
  refine ⟨chars_cells source, (mask_eq_shown source).symm, ?_, agrees_scans none _ source⟩
  rw [mask_eq_shown, byteLength_shown, chars_cells]

/-- No place behind the end of a line begins a literal. -/
theorem ShortLiteral.lt_length (h : ShortLiteral source i) : i < source.length := by
  have hmark := (List.getElem?_eq_some_iff.mp h.outside).1
  rwa [Code.scanned, ← List.length_map Prod.fst, Code.map_fst_scannedFrom] at hmark

instance : Decidable (∀ i, ¬ShortLiteral source i) :=
  decidable_of_iff (∀ i < source.length, ¬ShortLiteral source i)
    ⟨fun h i hi => h i hi.lt_length hi, fun h i _ => h i⟩

/-- A lifetime, an escaped quote and a comment: the literals are deleted where they are blanked
out. -/
theorem stripped_eq_visible_of_lifetime :
    let source := "f(x: &'a T, '\\'', \"//\") // it's".toList
    (∀ i, ¬ShortLiteral source i) ∧ Code.stripLiterals source = visible (cells source) ∧
      Code.stripLiterals source = "f(x: &'a T, '', \"\") ".toList := by
  have hshort : ∀ i, ¬ShortLiteral "f(x: &'a T, '\\'', \"//\") // it's".toList i := by
    decide +kernel
  refine ⟨hshort, ?_, by decide +kernel⟩
  exact ((stripped_eq_visible_iff _).2.2.2 fun i hi => absurd hi (hshort i)).mpr hshort

/-- A masked line shows the character of a literal behind a reference mark, which stripping
deletes. -/
theorem referenced_character_stays :
    ¬∀ source : List Char, Code.stripLiterals source = visible (cells source) := by
  intro h
  exact absurd (h "set.contains(&'5')".toList) (by decide +kernel)

end Adjudicator.Mutation
