import Adjudicator.Proofs.Code.Arguments
import Adjudicator.Proofs.Code.Braces
import Adjudicator.Proofs.Pattern.Taken
import Adjudicator.Proofs.Reader.Placement

/-!
# Typed parameters

Functions of Rust declare a name and a type for each parameter, and a result type. Main statement:
the names and the types of a list are read back, and so are the parameters and the result type of a
function on one line, when no parameter has a lifetime in its type. The result type may have any.
The quote of a lifetime opens a literal for the cut of a list and for the search of its end.
-/

namespace Adjudicator.Reader.Rust

open Text Code Pattern Cursor

/-! ## Types -/

/-- A name. The word that follows result types is none. -/
structure IsName (name : List Char) : Prop extends IsIdentifier name where
  /-- It is a name and no keyword. -/
  ne_where : name ≠ "where".toList

instance (name : List Char) : Decidable (IsName name) :=
  decidable_of_iff (IsIdentifier name ∧ name ≠ "where".toList)
    ⟨fun h => ⟨h.1, h.2⟩, fun h => ⟨h.toIsIdentifier, h.2⟩⟩

/-- What stands in front of a type and makes another one of it. -/
def marks : List (List Char) :=
  ["&".toList, "&mut ".toList, "dyn ".toList, "impl ".toList]

/-- What the parameters of a function type follow. -/
def heads : List (List Char) :=
  ["fn".toList, "Fn".toList, "FnMut".toList, "FnOnce".toList]

/-- What a text is written for. -/
inductive Form where
  /-- A path. -/
  | path
  /-- A type. -/
  | type
  /-- What follows the parameters of a function type. -/
  | result

/-- The texts of types and of their parts. -/
inductive IsWritten : Form → List Char → Prop
  /-- A name. -/
  | name {name : List Char} (h : IsName name) : IsWritten .path name
  /-- A name in a path. -/
  | inside {path name : List Char} (hpath : IsWritten .path path) (hname : IsName name) :
      IsWritten .path (path ++ "::".toList ++ name)
  /-- A path with type arguments. -/
  | generic {path : List Char} {args : List (List Char)} (hpath : IsWritten .path path)
      (hargs : ∀ a ∈ args, IsWritten .type a) :
      IsWritten .path (path ++ bracketed '<' '>' (joinArguments args))
  /-- The type that a path names. -/
  | named {path : List Char} (h : IsWritten .path path) : IsWritten .type path
  /-- A tuple. -/
  | tuple {items : List (List Char)} (h : ∀ t ∈ items, IsWritten .type t) :
      IsWritten .type (bracketed '(' ')' (joinArguments items))
  /-- A tuple of one item. -/
  | single {item : List Char} (h : IsWritten .type item) :
      IsWritten .type (bracketed '(' ')' (item ++ [',']))
  /-- A slice. -/
  | slice {type : List Char} (h : IsWritten .type type) : IsWritten .type (bracketed '[' ']' type)
  /-- A function. -/
  | function {head result : List Char} {params : List (List Char)} (hhead : head ∈ heads)
      (hparams : ∀ p ∈ params, IsWritten .type p) (hresult : IsWritten .result result) :
      IsWritten .type (head ++ bracketed '(' ')' (joinArguments params) ++ result)
  /-- A reference or an object of a trait. -/
  | marked {mark type : List Char} (hmark : mark ∈ marks) (h : IsWritten .type type) :
      IsWritten .type (mark ++ type)
  /-- A reference with a lifetime. -/
  | lifetime {name mark type : List Char} (hname : IsName name)
      (hmark : mark ∈ [" ".toList, " mut ".toList]) (h : IsWritten .type type) :
      IsWritten .type ('&' :: '\'' :: (name ++ mark ++ type))
  /-- No result. -/
  | noResult : IsWritten .result []
  /-- A result. -/
  | result {type : List Char} (h : IsWritten .type type) :
      IsWritten .result (" -> ".toList ++ type)

section Types

variable {form : Form} {text : List Char}

namespace IsWritten

/-- What is written in place of a type begins with a word or a bracket, or it is a reference. -/
theorem exists_head (h : IsWritten form text) (hform : form ≠ .result) :
    ∃ c rest, text = c :: rest ∧ (isWord c = true ∨ c ∈ "([&".toList) := by
  induction h with
  | name h =>
    obtain ⟨c, rest, rfl⟩ := List.exists_cons_of_ne_nil h.ne_nil
    exact ⟨c, rest, rfl, .inl (h.word c List.mem_cons_self)⟩
  | inside _ _ ih =>
    obtain ⟨c, rest, rfl, hc⟩ := ih nofun
    exact ⟨c, _, rfl, hc⟩
  | generic _ _ ih _ =>
    obtain ⟨c, rest, rfl, hc⟩ := ih nofun
    exact ⟨c, _, rfl, hc⟩
  | named _ ih => exact ih nofun
  | tuple _ _ => exact ⟨'(', _, rfl, .inr (by decide)⟩
  | single _ _ => exact ⟨'(', _, rfl, .inr (by decide)⟩
  | slice _ _ => exact ⟨'[', _, rfl, .inr (by decide)⟩
  | function hhead _ _ _ _ =>
    have hheads : ∀ head ∈ heads, head ≠ [] ∧ ∀ c ∈ head, isWord c = true := by decide
    obtain ⟨hne, hword⟩ := hheads _ hhead
    obtain ⟨c, rest, rfl⟩ := List.exists_cons_of_ne_nil hne
    exact ⟨c, _, rfl, .inl (hword c List.mem_cons_self)⟩
  | marked hmark _ _ =>
    have hmarks : ∀ mark ∈ marks, mark ≠ [] ∧
        ∀ c ∈ mark.take 1, isWord c = true ∨ c ∈ "([&".toList := by
      decide
    obtain ⟨hne, hfirst⟩ := hmarks _ hmark
    obtain ⟨c, rest, rfl⟩ := List.exists_cons_of_ne_nil hne
    exact ⟨c, _, rfl, hfirst c List.mem_cons_self⟩
  | lifetime _ _ _ _ => exact ⟨'&', _, rfl, .inr (by decide)⟩
  | noResult => exact absurd rfl hform
  | result _ _ => exact absurd rfl hform

/-- Only a result may be empty. -/
theorem ne_nil (h : IsWritten form text) (hform : form ≠ .result) : text ≠ [] := by
  obtain ⟨c, rest, rfl, -⟩ := h.exists_head hform
  exact List.cons_ne_nil c rest

/-- No blank is in front of a text that is written, except of a result. -/
theorem isBlank_head (h : IsWritten form text) (hform : form ≠ .result) :
    ∀ c ∈ text.head?, isBlank c = false := by
  have hbrackets : ∀ c ∈ "([&".toList, isBlank c = false := by decide
  obtain ⟨c, rest, rfl, hc⟩ := h.exists_head hform
  rintro _ ⟨⟩
  exact hc.elim isBlank_of_isWord (hbrackets c)

/-- What is written for a type or a part of one ends in a word or a bracket. -/
theorem last (h : IsWritten form text) :
    ∀ c ∈ text.getLast?, isWord c = true ∨ c ∈ ">)]".toList := by
  have hbehind {form : Form} (front : List Char) {type : List Char} (htype : IsWritten form type)
      (hform : form ≠ .result) (ih : ∀ c ∈ type.getLast?, isWord c = true ∨ c ∈ ">)]".toList) :
      ∀ c ∈ (front ++ type).getLast?, isWord c = true ∨ c ∈ ">)]".toList := by
    rwa [List.getLast?_append_of_ne_nil front (htype.ne_nil hform)]
  have hbracket {closing : Char} (front : List Char) (opening : Char) (t : List Char)
      (hclosing : closing ∈ ">)]".toList) : ∀ c ∈ (front ++ bracketed opening closing t).getLast?,
      isWord c = true ∨ c ∈ ">)]".toList := by
    rw [List.getLast?_append, getLast?_bracketed]
    rintro _ ⟨⟩
    exact .inr hclosing
  have hname {name : List Char} (h : IsName name) :
      ∀ c ∈ name.getLast?, isWord c = true ∨ c ∈ ">)]".toList :=
    fun c hc => .inl (h.word c (List.mem_of_getLast? hc))
  induction h with
  | name h => exact hname h
  | inside _ h _ => exact hbehind _ (.name h) nofun (hname h)
  | generic _ _ _ _ => exact hbracket _ _ _ (by decide)
  | named _ ih => exact ih
  | tuple _ _ => exact hbracket [] _ _ (by decide)
  | single _ _ => exact hbracket [] _ _ (by decide)
  | slice _ _ => exact hbracket [] _ _ (by decide)
  | function _ _ _ _ ih =>
    intro c hc
    rw [List.getLast?_append, Option.mem_def, Option.or_eq_some_iff] at hc
    rcases hc with hc | ⟨-, hc⟩
    · exact ih c hc
    · exact hbracket _ _ _ (by decide) c hc
  | marked _ h ih => exact hbehind _ h nofun ih
  | lifetime _ _ h ih => exact hbehind ('&' :: '\'' :: (_ ++ _)) h nofun ih
  | noResult => exact nofun
  | result h ih => exact hbehind _ h nofun ih

/-- No blank is behind a text that is written. -/
theorem isBlank_last (h : IsWritten form text) : ∀ c ∈ text.getLast?, isBlank c = false := by
  have hbrackets : ∀ c ∈ ">)]".toList, isBlank c = false := by decide
  exact fun c hc => (h.last c hc).elim isBlank_of_isWord (hbrackets c)

/-- No blanks are around a text that is written, except around a result. -/
theorem trim_eq_self (h : IsWritten form text) (hform : form ≠ .result) : trim text = text :=
  Text.trim_eq_self (h.isBlank_head hform) h.isBlank_last

end IsWritten

/-! ## Words and punctuation -/

/-- The characters between the words of a type. -/
def punctuation : List Char :=
  " :<>()[],-&'".toList

/-- Names with punctuation between them. -/
inductive Punctuated : List Char → Prop
  /-- No text. -/
  | nil : Punctuated []
  /-- A name. -/
  | name {name : List Char} (h : IsName name) : Punctuated name
  /-- Two texts with a character between them. -/
  | join {s t : List Char} {c : Char} (hs : Punctuated s) (hc : c ∈ punctuation)
      (ht : Punctuated t) : Punctuated (s ++ c :: t)

namespace Punctuated

variable {s t : List Char} {c : Char}

/-- Punctuation may be put in front. -/
theorem cons (hc : c ∈ punctuation) (ht : Punctuated t) : Punctuated (c :: t) :=
  join nil hc ht

/-- Punctuation may be put behind. -/
theorem concat (hs : Punctuated s) (hc : c ∈ punctuation) : Punctuated (s ++ [c]) :=
  join hs hc nil

/-- Punctuated items are joined to a punctuated text. -/
theorem joinArguments {items : List (List Char)} (h : ∀ p ∈ items, Punctuated p) :
    Punctuated (joinArguments items) :=
  joinArguments_of_forall nil (fun _ _ hs ht => join hs (by decide) (cons (by decide) ht)) h

/-- Names with punctuation between them have no other characters. -/
theorem isWord_or_mem (h : Punctuated t) : ∀ c ∈ t, isWord c = true ∨ c ∈ punctuation := by
  induction h with
  | nil => exact nofun
  | name h => exact fun c hc => .inl (h.word c hc)
  | join _ hc _ ihs iht =>
    intro d hd
    rcases List.mem_append.mp hd with hd | hd
    · exact ihs d hd
    · rcases List.mem_cons.mp hd with rfl | hd
      · exact .inr hc
      · exact iht d hd

end Punctuated

/-- Types are names with punctuation between them. -/
theorem IsWritten.punctuated (h : IsWritten form text) : Punctuated text := by
  induction h with
  | name h => exact .name h
  | inside _ hname ih =>
    rw [List.append_assoc]
    exact .join ih (by decide) (.cons (by decide) (.name hname))
  | generic _ _ ih ihargs =>
    exact .join ih (by decide) (.concat (.joinArguments ihargs) (by decide))
  | named _ ih => exact ih
  | tuple _ ih => exact .cons (by decide) (.concat (.joinArguments ih) (by decide))
  | single _ ih => exact .cons (by decide) (.concat (.concat ih (by decide)) (by decide))
  | slice _ ih => exact .cons (by decide) (.concat ih (by decide))
  | @function head result params hhead _ _ ihparams ihresult =>
    have hheads : ∀ head ∈ heads, IsName head := by decide
    have hjoin : head ++ bracketed '(' ')' (joinArguments params) ++ result =
        head ++ '(' :: (joinArguments params ++ ')' :: result) := by
      simp [bracketed]
    rw [hjoin]
    exact .join (.name (hheads _ hhead)) (by decide)
      (.join (.joinArguments ihparams) (by decide) ihresult)
  | marked hmark _ ih =>
    have hkeyword {w t : List Char} (hw : IsName w) (ht : Punctuated t) :
        Punctuated (w ++ ' ' :: t) :=
      .join (.name hw) (by decide) ht
    simp only [marks, List.mem_cons, List.not_mem_nil, or_false] at hmark
    rcases hmark with rfl | rfl | rfl | rfl
    · exact .cons (by decide) ih
    · exact .cons (by decide) (hkeyword (w := "mut".toList) (by decide) ih)
    · exact hkeyword (w := "dyn".toList) (by decide) ih
    · exact hkeyword (w := "impl".toList) (by decide) ih
  | lifetime hname hmark _ ih =>
    have hmut : IsName "mut".toList := by decide
    simp only [List.mem_cons, List.not_mem_nil, or_false] at hmark
    refine .cons (by decide) (.cons (by decide) ?_)
    rw [List.append_assoc]
    rcases hmark with rfl | rfl
    · exact .join (.name hname) (by decide) ih
    · exact .join (.name hname) (by decide) (.join (.name hmut) (by decide) ih)
  | noResult => exact .nil
  | result _ ih =>
    exact .cons (by decide) (.cons (by decide) (.cons (by decide) (.cons (by decide) ih)))

section Alone

variable {s t w front back : List Char} {c : Char}

/-- A word stands alone on one side of a character that is of no word. -/
theorem standsAlone_of_join (hw : ∀ x ∈ w, isWord x = true) (hc : isWord c = false)
    (h : StandsAlone {w} (s ++ c :: t)) : StandsAlone {w} s ∨ StandsAlone {w} t := by
  have hcw : c ∉ w := fun hmem => Bool.false_ne_true (hc.symm.trans (hw c hmem))
  obtain ⟨front, v, rfl, back, hsplit, hfront, hback⟩ := h
  rcases List.append_eq_append_iff.mp hsplit with ⟨inner, rfl, hinner⟩ | ⟨inner, rfl, hinner⟩
  · -- the word is behind the place in front of the character
    cases inner with
    | nil =>
      rcases v with _ | ⟨x, v⟩
      · exact .inl ⟨s, [], rfl, [], by simp, by simpa using hfront, rfl⟩
      · obtain ⟨rfl, -⟩ := List.cons.inj hinner
        exact absurd List.mem_cons_self hcw
    | cons d inner =>
      obtain ⟨rfl, rfl⟩ := List.cons.inj hinner
      refine .inr ⟨inner, v, rfl, back, rfl, ?_, hback⟩
      cases hlast : inner.getLast? with
      | none => rfl
      | some y =>
        rw [List.getLast?_append, List.getLast?_cons, hlast] at hfront
        exact hfront
  · rcases List.append_eq_append_iff.mp hinner with ⟨more, rfl, hmore⟩ | ⟨more, rfl, hmore⟩
    · refine .inl ⟨front, v, rfl, more, rfl, hfront, ?_⟩
      cases more with
      | nil => rfl
      | cons y more =>
        obtain rfl : back = y :: more ++ c :: t := hmore
        exact hback
    · cases more with
      | nil => exact .inl ⟨front, inner ++ [], rfl, [], by simp, hfront, rfl⟩
      | cons y more =>
        obtain ⟨rfl, -⟩ := List.cons.inj hmore
        exact absurd (List.mem_append_right inner List.mem_cons_self) hcw

/-- The word that follows result types does not stand alone in a name. -/
theorem not_standsAlone_name {name : List Char} (h : IsName name) :
    ¬StandsAlone {"where".toList} name := by
  rintro ⟨front, _, rfl, back, rfl, hfront, hback⟩
  have hword := h.word
  obtain rfl : front = [] := by
    by_contra hne
    have hlast := hword _ (List.mem_append_left _ (List.getLast_mem hne))
    rw [List.getLast?_eq_some_getLast hne, Option.any_some, hlast] at hfront
    cases hfront
  obtain rfl : back = [] := by
    cases back with
    | nil => rfl
    | cons y back =>
      have hfirst := hword y (by simp)
      rw [List.head?_cons, Option.any_some, hfirst] at hback
      cases hback
  exact h.ne_where (by simp)

/-- The word behind result types does not stand alone in a text of names and punctuation. -/
theorem Punctuated.not_standsAlone (h : Punctuated t) : ¬StandsAlone {"where".toList} t := by
  have hpunctuation : ∀ c ∈ punctuation, isWord c = false := by decide
  induction h with
  | nil =>
    rintro ⟨front, _, rfl, back, hsplit, -⟩
    have hlength := congrArg List.length hsplit
    simp at hlength
  | name h => exact not_standsAlone_name h
  | join _ hc _ ihs iht =>
    intro h
    rcases standsAlone_of_join (by decide) (hpunctuation _ hc) h with h | h
    · exact ihs h
    · exact iht h

end Alone

/-! ## Brackets -/

/-- A text of a kind that no parenthesis is of has none. -/
theorem count_eq_of_kind {t : List Char} {kind : Char → Bool} (h : ∀ c ∈ t, kind c = true)
    (hnone : ∀ c ∈ ['(', ')'], kind c = false) : t.count '(' = t.count ')' := by
  have hzero (c : Char) (hc : c ∈ ['(', ')']) : t.count c = 0 :=
    List.count_eq_zero_of_not_mem fun hmem =>
      Bool.false_ne_true ((hnone c hc).symm.trans (h c hmem))
  rw [hzero '(' (by decide), hzero ')' (by decide)]

namespace IsWritten

/-- No type ends like an arrow without its point. -/
theorem not_mem_last (h : IsWritten form text) : ∀ c ∈ text.getLast?, c ∉ ['-', '='] := by
  have hnone : ∀ c ∈ ['-', '='], ¬(isWord c = true ∨ c ∈ ">)]".toList) := by decide
  exact fun c hc hmem => hnone c hmem (h.last c hc)

/-- Without lifetimes, types close their brackets and have commas only in them. -/
theorem keeps (h : IsWritten form text) (hplain : '\'' ∉ text) {level : Nat} :
    Keeps level text := by
  have hname {name : List Char} (h : IsName name) {level : Nat} : Keeps level name :=
    .of_isPlain fun c hc => isPlain_of_isWord (h.word c hc)
  have hitems {items : List (List Char)} (h : ∀ t ∈ items, IsWritten .type t)
      (ih : ∀ t ∈ items, '\'' ∉ t → ∀ {level : Nat}, Keeps level t)
      (hplain : '\'' ∉ joinArguments items) :
      Keeps 1 (joinArguments items) ∧ ∀ c ∈ (joinArguments items).getLast?, c ∉ ['-', '='] :=
    ⟨.joinArguments fun t ht => ih t ht fun hc => hplain (mem_joinArguments ht hc),
      forall_getLast?_joinArguments fun t ht => ⟨(h t ht).ne_nil nofun, (h t ht).not_mem_last⟩⟩
  induction h generalizing level with
  | name h => exact hname h
  | inside _ h ih =>
    simp only [List.mem_append, not_or] at hplain
    exact ((ih hplain.1.1).append (.of_isPlain (by decide))).append (hname h)
  | generic _ hargs ih ihargs =>
    simp only [List.mem_append, bracketed, List.mem_cons, not_or] at hplain
    obtain ⟨hkeeps, hlast⟩ := hitems hargs ihargs hplain.2.2.1
    exact (ih hplain.1).append (hkeeps.bracketed (by decide) hlast)
  | named _ ih => exact ih hplain
  | tuple h ih =>
    simp only [List.mem_append, bracketed, List.mem_cons, not_or] at hplain
    obtain ⟨hkeeps, hlast⟩ := hitems h ih hplain.2.1
    exact hkeeps.bracketed (by decide) hlast
  | single h ih =>
    simp only [List.mem_append, bracketed, List.mem_cons, not_or] at hplain
    refine ((ih hplain.2.1.1).append .comma).bracketed (by decide) ?_
    rw [List.getLast?_concat]
    rintro _ ⟨⟩
    decide
  | slice h ih =>
    simp only [List.mem_append, bracketed, List.mem_cons, not_or] at hplain
    exact (ih hplain.2.1).bracketed (by decide) h.not_mem_last
  | function hhead hparams _ ihparams ih =>
    have hheads : ∀ head ∈ heads, ∀ c ∈ head, isPlain c = true := by decide
    simp only [List.mem_append, bracketed, List.mem_cons, not_or] at hplain
    obtain ⟨hkeeps, hlast⟩ := hitems hparams ihparams hplain.1.2.2.1
    exact ((Keeps.of_isPlain (hheads _ hhead)).append (hkeeps.bracketed (by decide) hlast)).append
      (ih hplain.2)
  | marked hmark _ ih =>
    have hmarks : ∀ mark ∈ marks, ∀ c ∈ mark, isPlain c = true := by decide
    simp only [List.mem_append, not_or] at hplain
    exact (Keeps.of_isPlain (hmarks _ hmark)).append (ih hplain.2)
  | lifetime _ _ _ _ => exact absurd (by simp) hplain
  | noResult => exact .nil
  | result _ ih =>
    simp only [List.mem_append, not_or] at hplain
    exact (((Keeps.of_isPlain (by decide : ∀ c ∈ [' '], isPlain c = true)).append .arrow).append
      (.of_isPlain (by decide : ∀ c ∈ [' '], isPlain c = true))).append (ih hplain.2)

/-- Types close as many parentheses as they open. -/
theorem count_eq (h : IsWritten form text) : text.count '(' = text.count ')' := by
  have hword {w : List Char} (hw : ∀ c ∈ w, isWord c = true) : w.count '(' = w.count ')' :=
    count_eq_of_kind hw (by decide)
  have hitems {items : List (List Char)} (h : ∀ t ∈ items, t.count '(' = t.count ')') :
      (joinArguments items).count '(' = (joinArguments items).count ')' :=
    joinArguments_of_forall (P := fun t => t.count '(' = t.count ')') rfl
      (fun s t hs ht => by simp [hs, ht]) h
  induction h with
  | name h => exact hword h.word
  | inside _ hname ih => simp [ih, hword hname.word]
  | generic _ _ ih ihargs => simp [bracketed, ih, hitems ihargs]
  | named _ ih => exact ih
  | tuple _ ih => simp [bracketed, hitems ih]
  | single _ ih => simp [bracketed, ih]
  | slice _ ih => simp [bracketed, ih]
  | function hhead _ _ ihparams ih =>
    have hheads : ∀ head ∈ heads, ∀ c ∈ head, isWord c = true := by decide
    simp only [List.count_append, hword (hheads _ hhead), ih, bracketed, List.count_cons,
      hitems ihparams]
    simp
  | marked hmark _ ih =>
    have hmarks : ∀ mark ∈ marks, mark.count '(' = mark.count ')' := by decide
    simp [hmarks _ hmark, ih]
  | lifetime hname hmark _ ih =>
    have hmarks : ∀ mark ∈ [" ".toList, " mut ".toList], mark.count '(' = mark.count ')' := by
      decide
    simp [hmarks _ hmark, hword hname.word, ih]
  | noResult => rfl
  | result _ ih => simp [ih]

end IsWritten

/-! ## Literals -/

/-- In front of any rest, stripping keeps a text as it is and leaves no literal open. -/
def Strips (text : List Char) : Prop :=
  ∀ prev rest, ∃ prev', stripFrom none prev (text ++ rest) = text ++ stripFrom none prev' rest

namespace Strips

variable {t u : List Char} {c : Char} {items : List (List Char)}

/-- The empty text begins no literal and no comment. -/
theorem nil : Strips [] :=
  fun prev _ => ⟨prev, rfl⟩

/-- Where no literal and no comment begins in two texts, none begins in one behind the other. -/
theorem append (ht : Strips t) (hu : Strips u) : Strips (t ++ u) := by
  intro prev rest
  obtain ⟨prev₁, h₁⟩ := ht prev (u ++ rest)
  obtain ⟨prev₂, h₂⟩ := hu prev₁ rest
  exact ⟨prev₂, by rw [List.append_assoc, h₁, h₂, List.append_assoc]⟩

/-- A text without quotes and slashes begins no literal and no comment. -/
theorem of_forall (h : ∀ c ∈ t, ListScan.isQuote c = false ∧ c ≠ '/') : Strips t := by
  induction t with
  | nil => exact nil
  | cons c t ih =>
    obtain ⟨⟨hquote, hslash⟩, ht⟩ := List.forall_mem_cons.mp h
    refine append (t := [c]) (fun prev rest => ⟨c, ?_⟩) (ih ht)
    have hopened : opened? prev c rest = none := by
      simp only [ListScan.isQuote, Bool.or_eq_false_iff, beq_eq_false_iff_ne] at hquote
      simp only [opened?, hquote, false_or, false_and, if_false]
    have hcomment : ¬(c = '/' ∧ rest.head? = some '/') := fun hc => hslash hc.1
    rw [List.singleton_append, stripFrom, if_neg hcomment, hopened]
    rfl

/-- Stripping keeps texts of a kind that no quote and no slash is of. -/
theorem of_kind {kind : Char → Bool} (h : ∀ c ∈ t, kind c = true)
    (hnone : ∀ c ∈ ['"', '\'', backtick, '/'], kind c = false) : Strips t := by
  refine of_forall fun c hc => ?_
  have hmem : c ∉ ['"', '\'', backtick, '/'] := fun hmem =>
    Bool.false_ne_true ((hnone c hmem).symm.trans (h c hc))
  simpa [ListScan.isQuote, and_assoc] using hmem

/-- No literal and no comment begins in a name. -/
theorem of_isWord (h : ∀ c ∈ t, isWord c = true) : Strips t :=
  of_kind h (by decide)

/-- Brackets begin no literal and no comment. -/
theorem bracketed {opening closing : Char} (ht : Strips t)
    (hbrackets : ∀ c ∈ [opening, closing], ListScan.isQuote c = false ∧ c ≠ '/') :
    Strips (bracketed opening closing t) :=
  append (t := [opening]) (of_forall (List.forall_mem_singleton.mpr (hbrackets _ (by simp))))
    (ht.append (of_forall (List.forall_mem_singleton.mpr (hbrackets _ (by simp)))))

/-- Joined items begin none if no item does. -/
theorem joinArguments (h : ∀ p ∈ items, Strips p) : Strips (joinArguments items) := by
  have hcomma : Strips [',', ' '] := of_forall (by decide)
  exact joinArguments_of_forall nil (fun _ _ hs ht => hs.append (hcomma.append ht)) h

/-- The quote of a lifetime begins no literal when no quote is near. -/
theorem lifetime (ht : Strips t) (hnear : '\'' ∉ t.take 3) (hlength : 3 ≤ t.length) :
    Strips ('&' :: '\'' :: t) := by
  intro prev rest
  obtain ⟨prev', h⟩ := ht '\'' rest
  have hlifetime : marksLifetime '&' (t ++ rest) = true := by
    have htake : (t ++ rest).take 3 = t.take 3 := List.take_append_of_le_length hlength
    simp [marksLifetime, htake, hnear]
  refine ⟨prev', ?_⟩
  have hfirst : opened? prev '&' ('\'' :: (t ++ rest)) = none := rfl
  have hsecond : opened? '&' '\'' (t ++ rest) = none := by
    simp [opened?, hlifetime, backtick]
  rw [List.cons_append, List.cons_append, stripFrom, if_neg (by simp), hfirst, stripFrom,
    if_neg (by simp), hsecond, h, List.cons_append, List.cons_append]

end Strips

/-- Types are kept by stripping, with all their lifetimes. -/
theorem IsWritten.strips (h : IsWritten form text) : Strips text := by
  induction h with
  | name h => exact .of_isWord h.word
  | inside _ hname ih => exact (ih.append (.of_forall (by decide))).append (.of_isWord hname.word)
  | generic _ _ ih ihargs => exact ih.append ((Strips.joinArguments ihargs).bracketed (by decide))
  | named _ ih => exact ih
  | tuple _ ih => exact (Strips.joinArguments ih).bracketed (by decide)
  | single _ ih => exact (ih.append (.of_forall (by decide))).bracketed (by decide)
  | slice _ ih => exact ih.bracketed (by decide)
  | function hhead _ _ ihparams ih =>
    have hheads : ∀ head ∈ heads, ∀ c ∈ head, isWord c = true := by decide
    exact ((Strips.of_isWord (hheads _ hhead)).append
      ((Strips.joinArguments ihparams).bracketed (by decide))).append ih
  | marked hmark _ ih =>
    have hmarks : ∀ mark ∈ marks, ∀ c ∈ mark, ListScan.isQuote c = false ∧ c ≠ '/' := by decide
    exact (Strips.of_forall (hmarks _ hmark)).append ih
  | @lifetime name mark type hname hmark h ih =>
    have hmarks : ∀ mark ∈ [" ".toList, " mut ".toList], mark ≠ [] ∧ '\'' ∉ mark ∧
        ∀ c ∈ mark, ListScan.isQuote c = false ∧ c ≠ '/' := by
      decide
    obtain ⟨hne, hmark, hplain⟩ := hmarks _ hmark
    obtain ⟨c, rest, rfl, hc⟩ := h.exists_head nofun
    have hname' : '\'' ∉ name := fun hmem => absurd (hname.word _ hmem) (by decide)
    have hc' : '\'' ≠ c := by
      rintro rfl
      revert hc
      decide
    -- a name, a blank and the first character of the type are at least three characters
    have hlength : 3 ≤ (name ++ mark ++ [c]).length := by
      have hname := List.length_pos_iff.mpr hname.ne_nil
      have hmark := List.length_pos_iff.mpr hne
      simp only [List.length_append, List.length_singleton]
      omega
    have hsplit : name ++ mark ++ c :: rest = name ++ mark ++ [c] ++ rest := by simp
    refine Strips.lifetime (((Strips.of_isWord hname.word).append (.of_forall hplain)).append ih)
      ?_ ?_
    · rw [hsplit, List.take_append_of_le_length hlength]
      intro hmem
      have hmem := List.mem_of_mem_take hmem
      simp only [List.mem_append, List.mem_singleton] at hmem
      rcases hmem with (hmem | hmem) | hmem
      · exact hname' hmem
      · exact hmark hmem
      · exact hc' hmem
    · rw [hsplit, List.length_append]
      exact Nat.le_add_right_of_le hlength
  | noResult => exact .nil
  | result _ ih => exact (Strips.of_forall (by decide)).append ih

end Types

/-! ## Parameters -/

/-- A parameter with its type. -/
structure TypedName where
  /-- The name. -/
  name : List Char
  /-- The type. -/
  type : List Char
  /-- The name is an identifier. -/
  name_identifier : IsIdentifier name
  /-- The type is one. -/
  type_written : IsWritten .type type

namespace TypedName

variable (p : TypedName)

/-- The text of the parameter. -/
def text : List Char :=
  p.name ++ ": ".toList ++ p.type

/-- What is read of it. -/
def parameter : Parameter :=
  ⟨String.ofList p.name, String.ofList p.type, none⟩

/-- The type is on one line. -/
theorem not_mem_type : '\n' ∉ p.type := by
  have hnone : ¬(isWord '\n' = true ∨ '\n' ∈ punctuation) := by decide
  exact fun hc => hnone (p.type_written.punctuated.isWord_or_mem _ hc)

/-- No word in front of the name is taken. -/
theorem takes_mut {rest : List Char} :
    (opt ("mut" ++ space)).Takes [] (p.name ++ ':' :: rest) := by
  refine takes_opt_of_none fun c hc => tryAt_eq_none_iff.mpr fun d hd => ?_
  obtain ⟨e, he, hd⟩ := mem_offers_append.mp hd
  obtain ⟨_, rfl, behind, hmut, rfl⟩ := (reads_text "mut" c e).mp he
  obtain ⟨blanks, behind', hne, hbehind, hblanks, -⟩ := mem_offers_plus_one.mp hd
  obtain ⟨x, blanks, rfl⟩ := List.exists_cons_of_ne_nil hne
  have hx : isBlank x = true := hblanks x List.mem_cons_self
  obtain rfl : behind = x :: (blanks ++ behind') := hbehind
  rw [hc] at hmut
  rcases List.append_eq_append_iff.mp hmut with ⟨more, hname, hmore⟩ | ⟨more, hname, hmore⟩
  · cases more with
    | nil =>
      obtain ⟨rfl, -⟩ := List.cons.inj hmore
      revert hx
      decide
    | cons y more =>
      obtain ⟨rfl, -⟩ := List.cons.inj hmore
      have hcolon : ':' ∈ "mut".toList := hname ▸ List.mem_append_right _ List.mem_cons_self
      revert hcolon
      decide
  · cases more with
    | nil =>
      obtain ⟨rfl, -⟩ := List.cons.inj hmore
      revert hx
      decide
    | cons y more =>
      obtain ⟨rfl, -⟩ := List.cons.inj hmore
      have hmem : x ∈ p.name := hname ▸ List.mem_append_right _ List.mem_cons_self
      rw [p.name_identifier.isBlank x hmem] at hx
      cases hx

/-- The parts of the pattern behind the start of the text. -/
theorem tryAt_parameterPattern (s : List Char) : parameterPattern.tryAt (.start s) =
    (opt ("mut" ++ space) ++ (group 1 dot.plusLazy ++ ((gap ++ (Pattern.text ":" ++ gap)) ++
      (group 2 dot.plus ++ textEnd)))).tryAt (.start s) :=
  rfl

/-- The pattern of a parameter takes its name and its type. -/
theorem exists_find?_eq : ∃ m, parameterPattern.find? p.text = some m ∧ m.group 1 = p.name ∧
    m.group 2 = p.type := by
  have htext : p.text = [] ++ (p.name ++ (": ".toList ++ (p.type ++ []))) := by
    simp [TypedName.text]
  have hdot {t : List Char} (ht : '\n' ∉ t) : ∀ c ∈ t, (c != '\n') = true := by
    intro c hc
    rw [bne_iff_ne]
    rintro rfl
    exact ht hc
  have hcolon : ": ".toList = [] ++ (":".toList ++ [' ']) := by decide
  refine find?_of_tryAt_groups htext (tryAt_parameterPattern p.text) p.takes_mut ?_ ?_
    (takes_plus_one (p.type_written.ne_nil nofun) (hdot p.not_mem_type)
      (fun c hc => by cases hc)).before
    takes_textEnd
  · refine plusLazy_one_before p.name_identifier.ne_nil p.name_identifier.word (hdot ?_)
      (Rejects.append (Rejects.star_one_append (fun _ => isBlank_of_isWord) (Rejects.append
        (rejects_text (x := ':') rfl (by decide)))))
    exact fun hc => absurd (p.name_identifier.word _ hc) (by decide)
  · rw [hcolon]
    refine Takes.append (takes_star_one nofun ?_) ((takes_text ":").append (takes_star_one
      (List.forall_mem_singleton.mpr rfl) ?_))
    · rintro _ ⟨⟩
      decide
    · rw [List.append_nil]
      exact p.type_written.isBlank_head nofun

/-- A parameter is an argument when its type has no lifetimes. -/
theorem isArgument (hplain : '\'' ∉ p.type) : IsArgument p.text := by
  have hname : Keeps 0 p.name :=
    .of_isPlain fun c hc => isPlain_of_isWord (p.name_identifier.word c hc)
  refine ((hname.append (.of_isPlain (by decide))).append
    (p.type_written.keeps hplain)).isArgument ?_ ?_
  · exact List.append_ne_nil_of_right_ne_nil _ (p.type_written.ne_nil nofun)
  · refine trim_eq_self ?_ ?_
    · intro c hc
      rw [List.append_assoc, List.head?_append_of_ne_nil _ p.name_identifier.ne_nil] at hc
      exact p.name_identifier.isBlank c (List.mem_of_mem_head? hc)
    · rw [List.getLast?_append_of_ne_nil _ (p.type_written.ne_nil nofun)]
      exact p.type_written.isBlank_last

/-- A parameter has letters, digits and punctuation only. -/
theorem isWord_or_mem : ∀ c ∈ p.text, isWord c = true ∨ c ∈ punctuation := by
  have hcolon : ∀ c ∈ ": ".toList, c ∈ punctuation := by decide
  intro c hc
  simp only [TypedName.text, List.mem_append] at hc
  rcases hc with (hc | hc) | hc
  · exact .inl (p.name_identifier.word c hc)
  · exact .inr (hcolon c hc)
  · exact p.type_written.punctuated.isWord_or_mem c hc

/-- The parentheses of a parameter are balanced. -/
theorem count_eq : p.text.count '(' = p.text.count ')' := by
  have hname : p.name.count '(' = p.name.count ')' :=
    count_eq_of_kind p.name_identifier.word (by decide)
  simp [TypedName.text, p.type_written.count_eq, hname]

/-- No literal and no comment begins in a parameter. -/
theorem strips : Strips p.text :=
  ((Strips.of_isWord p.name_identifier.word).append (.of_forall (by decide))).append
    p.type_written.strips

/-- No literal of a parameter ends in a backslash, as a parameter has none. -/
theorem endsPlainly : Reading.start.EndsPlainly p.text := by
  have hbackslash : ¬(isWord '\\' = true ∨ '\\' ∈ punctuation) := by decide
  exact Reading.endsPlainly_of_not_mem fun hmem => hbackslash (p.isWord_or_mem _ hmem)

end TypedName

/-- The parameters of a list are read back when no type has lifetimes. -/
theorem parameters_joinArguments {params : List TypedName}
    (hplain : ∀ p ∈ params, '\'' ∉ p.type) :
    parameters (joinArguments (params.map TypedName.text)) = params.map TypedName.parameter := by
  have hitems : ∀ t ∈ params.map TypedName.text, IsArgument t ∧ Reading.start.EndsPlainly t := by
    intro t ht
    obtain ⟨p, hp, rfl⟩ := List.mem_map.mp ht
    exact ⟨p.isArgument (hplain p hp), p.endsPlainly⟩
  rw [parameters, splitTopLevel_joinArguments (fun t ht => (hitems t ht).1) fun t ht =>
    (hitems t ht).2, List.filterMap_map]
  refine List.filterMap_eq_map_iff_forall_eq_some.mpr fun p _ => ?_
  obtain ⟨m, hfind, hname, htype⟩ := p.exists_find?_eq
  have hreceiver : isReceiver p.text = false := by
    simp [isReceiver, TypedName.text]
  simp only [Function.comp_apply, hreceiver, hfind, Option.map_some, hname, htype,
    p.type_written.trim_eq_self nofun, Bool.false_eq_true, if_false]
  rfl

/-! ## Functions -/

/-- A function on one line, up to the brace that opens its body. -/
structure Declaration where
  /-- The blanks in front. -/
  indent : List Char
  /-- The name. -/
  name : List Char
  /-- The parameters. -/
  params : List TypedName
  /-- The result type. -/
  result : List Char
  /-- The indentation is blank. -/
  indent_blank : ∀ c ∈ indent, isBlank c = true
  /-- The name is an identifier. -/
  name_identifier : IsIdentifier name
  /-- The result type is a type. -/
  result_written : IsWritten .type result

namespace Declaration

variable (d : Declaration)

/-- The parameters as they are written. -/
def list : List Char :=
  joinArguments (d.params.map TypedName.text)

/-- What follows the parameters. -/
def tail : List Char :=
  " -> ".toList ++ d.result ++ " \x7b".toList

/-- The line without its indentation. -/
def signature : List Char :=
  "fn ".toList ++ d.name ++ (bracketed '(' ')' d.list ++ d.tail)

/-- The line. -/
def line : List Char :=
  d.indent ++ d.signature

/-! ### The scans of the line -/

/-- The balance of parentheses is counted. -/
theorem callDelta_eq (s : List Char) : callDelta s = s.count '(' - s.count ')' := by
  have hfrom (balance : Int) : s.foldl (fun balance c =>
      if c = '(' then balance + 1 else if c = ')' then balance - 1 else balance) balance =
        balance + s.count '(' - s.count ')' := by
    induction s generalizing balance with
    | nil => simp
    | cons c s ih =>
      rw [List.foldl_cons, ih, List.count_cons, List.count_cons]
      split_ifs <;> simp_all <;> omega
  rw [callDelta, hfrom, Int.zero_add]

/-- The lines from a place on begin with the line there. -/
theorem drop_eq_cons {code : List (List Char)} {i : Nat} {line : List Char}
    (h : code[i]? = some line) : code.drop i = line :: code.drop (i + 1) := by
  obtain ⟨hi, hget⟩ := List.getElem?_eq_some_iff.mp h
  rw [List.drop_eq_getElem_cons hi, hget]

/-- The line has no semicolon. -/
theorem semicolon_not_mem : ';' ∉ d.line := by
  have hindent : ';' ∉ d.indent := fun hc => absurd (d.indent_blank _ hc) (by decide)
  have hname : ';' ∉ d.name := fun hc => absurd (d.name_identifier.word _ hc) (by decide)
  have hlist : ';' ∉ d.list := by
    refine joinArguments_of_forall (P := (';' ∉ ·)) List.not_mem_nil
      (fun s t hs ht => by simp [hs, ht]) fun t ht => ?_
    obtain ⟨p, -, rfl⟩ := List.mem_map.mp ht
    exact fun hc => absurd (p.isWord_or_mem _ hc) (by decide)
  have hresult : ';' ∉ d.result := fun hc =>
    absurd (d.result_written.punctuated.isWord_or_mem _ hc) (by decide)
  simp [line, signature, bracketed, tail, hindent, hname, hlist, hresult]

/-- The parentheses of the line are balanced. -/
theorem count_eq : d.line.count '(' = d.line.count ')' := by
  have hlist : d.list.count '(' = d.list.count ')' := by
    refine joinArguments_of_forall (P := fun t => t.count '(' = t.count ')') rfl
      (fun s t hs ht => by simp [hs, ht]) fun t ht => ?_
    obtain ⟨p, -, rfl⟩ := List.mem_map.mp ht
    exact p.count_eq
  have hindent : d.indent.count '(' = d.indent.count ')' :=
    count_eq_of_kind d.indent_blank (by decide)
  have hname : d.name.count '(' = d.name.count ')' :=
    count_eq_of_kind d.name_identifier.word (by decide)
  simp [line, signature, bracketed, tail, hlist, d.result_written.count_eq, hindent, hname]
  omega

/-- The line has no literals and no comments. -/
theorem stripLiterals_line : stripLiterals d.line = d.line := by
  have hindent : Strips d.indent := .of_kind d.indent_blank (by decide)
  have hlist : Strips d.list := by
    refine .joinArguments fun t ht => ?_
    obtain ⟨p, -, rfl⟩ := List.mem_map.mp ht
    exact p.strips
  have hsignature : Strips d.signature :=
    ((Strips.of_forall (by decide)).append (.of_isWord d.name_identifier.word)).append
      ((hlist.bracketed (by decide)).append
        (((Strips.of_forall (by decide)).append d.result_written.strips).append
          (.of_forall (by decide))))
  obtain ⟨prev, hline⟩ := hindent.append hsignature (Char.ofNat 0) []
  rw [List.append_nil] at hline
  exact hline.trans (List.append_nil _)

/-- Without its indentation the line is the signature. -/
theorem trim_line : trim d.line = d.signature := by
  rw [line, trim_blanks_append d.indent_blank]
  have hfirst : d.signature.head? = some 'f' := rfl
  have hlast : d.signature.getLast? = some '{' := by
    rw [signature, tail, ← List.append_assoc, ← List.append_assoc]
    exact List.getLast?_append_of_ne_nil _ (List.cons_ne_nil _ _)
  exact trim_eq_self_of_ends hfirst hlast (by decide)

/-- The signature ends on its line. -/
theorem joinSignature_eq {code : List (List Char)} {i limit : Nat} (hline : code[i]? = some d.line)
    (hlimit : limit ≠ 0) : (joinSignature code i limit).1 = d.signature := by
  have hdelta : callDelta d.line = 0 := by
    rw [callDelta_eq, d.count_eq, Int.sub_self]
  obtain ⟨limit, rfl⟩ := Nat.exists_eq_succ_of_ne_zero hlimit
  rw [joinSignature, drop_eq_cons hline, joinFrom, stripLiterals_line, hdelta, trim_line]
  simp

/-- A body in braces begins on the line. -/
theorem exists_braceBody?_eq {code : List (List Char)} {i : Nat} (hline : code[i]? = some d.line)
    (lookahead : Nat) : ∃ span, braceBody? code i lookahead = some span := by
  rw [← Option.isSome_iff_exists, ← Option.ne_none_iff_isSome, Ne, braceBody?_eq_none_iff]
  have hprefix : d.line <+: codeFrom code i (lookahead + 1) := by
    have hfirst : codeFrom code i 1 = d.line := by
      rw [codeFrom, drop_eq_cons hline, List.take_succ_cons, List.take_zero, codeOf,
        List.flatMap_singleton, d.stripLiterals_line]
    exact hfirst ▸ isPrefix_codeFrom code i (Nat.le_add_left 1 lookahead)
  have hbrace : '{' ∈ d.line := by simp [line, signature, tail]
  obtain ⟨rest, hrest⟩ := hprefix
  rw [← hrest, unopened_append_of_mem hbrace]
  exact fun hsemicolon => d.semicolon_not_mem ((List.takeWhile_prefix _).subset hsemicolon)

/-! ### The parts of the line -/

/-- The pattern behind the start of the text. -/
theorem tryAt_functionStart : functionStart.tryAt = (textStart ++
    ((gap ++ (opt ("pub" ++ opt ("(" ++ (noneOf ")").star ++ ")") ++ space) ++
      (opt ("const" ++ space) ++ (opt ("async" ++ space) ++ (opt ("unsafe" ++ space) ++
        (opt ("extern" ++ space ++ "\"" ++ (noneOf "\"").star ++ "\"" ++ space) ++
          (Pattern.text "fn" ++ space))))))) ++ group 1 word)).tryAt :=
  rfl

/-- Everything up to the name is taken. -/
theorem takes_fn {rest : List Char} (hrest : ∀ c ∈ rest.head?, isBlank c = false) :
    (gap ++ (opt ("pub" ++ opt ("(" ++ (noneOf ")").star ++ ")") ++ space) ++
      (opt ("const" ++ space) ++ (opt ("async" ++ space) ++ (opt ("unsafe" ++ space) ++
        (opt ("extern" ++ space ++ "\"" ++ (noneOf "\"").star ++ "\"" ++ space) ++
          (Pattern.text "fn" ++ space))))))).Takes (d.indent ++ "fn ".toList) rest := by
  have hword : "fn ".toList = [] ++ ([] ++ ([] ++ ([] ++ ([] ++ ("fn".toList ++ [' ']))))) := by
    decide
  have hother {word : String} {x : Char} {w : List Char} (h : word.toList = x :: w)
      (hx : (x == 'f') = false) : (Pattern.text word).Rejects (· == 'f') := rejects_text h hx
  have hpub : ("pub" ++ opt ("(" ++ (noneOf ")").star ++ ")") ++ space).Rejects (· == 'f') :=
    (Rejects.append (hother rfl (by decide))).append
  have hconst : ("const" ++ space).Rejects (· == 'f') := .append (hother rfl (by decide))
  have hasync : ("async" ++ space).Rejects (· == 'f') := .append (hother rfl (by decide))
  have hunchecked : ("unsafe" ++ space).Rejects (· == 'f') := .append (hother rfl (by decide))
  have hforeign : ("extern" ++ space ++ "\"" ++ (noneOf "\"").star ++ "\"" ++ space).Rejects
      (· == 'f') :=
    ((((Rejects.append (hother rfl (by decide))).append).append).append).append
  have hf : ('f' == 'f') = true := rfl
  rw [hword]
  refine Takes.append (takes_star_one d.indent_blank ?_) ((hpub.takes_opt hf).append
    ((hconst.takes_opt hf).append ((hasync.takes_opt hf).append ((hunchecked.takes_opt hf).append
      ((hforeign.takes_opt hf).append ((takes_text "fn").append (takes_plus_one
        (List.cons_ne_nil _ _) (List.forall_mem_singleton.mpr rfl) hrest)))))))
  rintro _ ⟨⟩
  decide

/-- A function with the name begins on the line. -/
theorem exists_functionStart_eq :
    ∃ m, functionStart.find? d.line = some m ∧ m.group 1 = d.name := by
  have hhead : ∀ c ∈ (d.name ++ (bracketed '(' ')' d.list ++ d.tail)).head?, isBlank c = false := by
    intro c hc
    rw [List.head?_append_of_ne_nil _ d.name_identifier.ne_nil] at hc
    exact d.name_identifier.isBlank c (List.mem_of_mem_head? hc)
  have hname : word.Takes d.name (bracketed '(' ')' d.list ++ d.tail) := by
    refine takes_plus_one d.name_identifier.ne_nil d.name_identifier.word ?_
    rintro _ ⟨⟩
    decide
  obtain ⟨m, hm, hgroup⟩ :=
    ((d.takes_fn hhead).records.append (hname.records_group 1)).exists_find? tryAt_functionStart
  have hline : d.line =
      d.indent ++ "fn ".toList ++ d.name ++ (bracketed '(' ')' d.list ++ d.tail) := by
    simp only [line, signature, List.append_assoc]
  refine ⟨m, hline ▸ hm, hgroup 1 _ d.name rfl ?_⟩
  rw [List.append_nil]
  exact List.prefix_append _ _

/-- Behind the name follow the parameters in parentheses. -/
theorem cutAt?_signature : cutAt? ("fn ".toList ++ d.name) d.signature =
    some ([], bracketed '(' ')' d.list ++ d.tail) := by
  have hprefix : ("fn ".toList ++ d.name).isPrefixOf? d.signature =
      some (bracketed '(' ')' d.list ++ d.tail) :=
    List.isPrefixOf?_eq_some_iff_append_eq.mpr rfl
  obtain ⟨c, rest, hsignature⟩ : ∃ c rest, d.signature = c :: rest := ⟨'f', _, rfl⟩
  rw [hsignature] at hprefix ⊢
  rw [cutAt?, hprefix]

/-- The word behind result types stands nowhere alone behind the parameters. -/
theorem not_standsAlone_tail : ¬StandsAlone {"where".toList} d.tail := by
  have hword : ∀ x ∈ "where".toList, isWord x = true := by decide
  intro h
  rcases standsAlone_of_join (s := " -> ".toList ++ d.result) hword (by decide) h with h | h
  · exact (IsWritten.result d.result_written).punctuated.not_standsAlone h
  · rcases standsAlone_of_join (s := []) hword (by decide) h with h | h
    · exact Punctuated.nil.not_standsAlone h
    · exact Punctuated.nil.not_standsAlone h

/-- What ends a result type is not inside of it. -/
theorem tryAt_end_none (front more back : List Char) {c : Cursor} (hprev : c.prev = front.getLast?)
    (hc : c.rest = more ++ back) (hlast : ∃ y ∈ more.getLast?, isBlank y = false)
    (hbrace : '{' ∉ more) (hsemicolon : ';' ∉ more)
    (halone : ¬StandsAlone {"where".toList} (front ++ (more ++ back))) :
    (gap ++ choice [boundary ++ "where" ++ boundary, "\x7b", ";", textEnd]).tryAt c = none := by
  refine tryAt_eq_none_iff.mpr fun d hd => ?_
  obtain ⟨blanks, inner, rfl, hne, hd⟩ := exists_of_mem_offers_gap hlast hc hd
  obtain ⟨x, inner, rfl⟩ := List.exists_cons_of_ne_nil hne
  have hx : x ∈ blanks ++ x :: inner := List.mem_append_right _ List.mem_cons_self
  rcases List.mem_append.mp hd with hwhere | hd
  · obtain ⟨e, he, hend⟩ := mem_offers_append.mp hwhere
    obtain ⟨_, hat, hword⟩ := mem_offers_append.mp he
    obtain ⟨hstart, rfl⟩ := mem_offers_look.mp hat
    obtain ⟨_, rfl, behind, hrest, rfl⟩ := (reads_text "where" _ e).mp hword
    have hend := (mem_offers_look.mp hend).1
    have hsplit : x :: inner ++ back = "where".toList ++ behind := hrest
    refine halone ⟨front ++ blanks, _, rfl, behind, ?_, ?_, ?_⟩
    · rw [← hsplit]
      simp only [List.append_assoc]
    · have hfirst : (x :: inner ++ back).head?.any isWord = true := by
        rw [hsplit]
        exact (by decide : isWord 'w' = true)
      have hbefore : (c.past blanks (x :: inner ++ back)).prev = (front ++ blanks).getLast? := by
        rw [List.getLast?_append, ← hprev]
        rfl
      rw [hbefore] at hstart
      simpa only [Cursor.past, hfirst, Bool.bne_true, Bool.not_eq_true'] using hstart
    · have hlast : isWord 'e' = true := by decide
      have hbefore : ((c.past blanks (x :: inner ++ back)).past "where".toList behind).prev =
          some 'e' := rfl
      rw [hbefore, Option.any_some, hlast] at hend
      simpa only [Cursor.past, Bool.true_bne, Bool.not_eq_true'] using hend
  · have hchar {w : String} (hd : d ∈ (Pattern.text w).offers
        (c.past blanks (x :: inner ++ back))) : w.toList <+: x :: inner ++ back := by
      obtain ⟨_, rfl, rest, hrest, -⟩ := (reads_text w _ d).mp hd
      exact ⟨rest, hrest.symm⟩
    rcases List.mem_append.mp hd with hd | hd
    · obtain ⟨rfl, -⟩ := List.cons_prefix_cons.mp (hchar (w := "\x7b") hd)
      exact hbrace hx
    · rcases List.mem_append.mp hd with hd | hd
      · obtain ⟨rfl, -⟩ := List.cons_prefix_cons.mp (hchar (w := ";") hd)
        exact hsemicolon hx
      · exact absurd (mem_offers_look.mp hd).1 Bool.false_ne_true

/-- The brace ends the result type. -/
theorem takes_brace :
    (gap ++ choice [boundary ++ "where" ++ boundary, "\x7b", ";", textEnd]).Takes
      ([' '] ++ "\x7b".toList) [] := by
  refine Takes.append (takes_star_one (List.forall_mem_singleton.mpr rfl) ?_) fun c hc => ?_
  · rintro _ ⟨⟩
    decide
  · have hneeds : (boundary ++ "where" ++ boundary).Needs "where".toList :=
      (needs_boundary "where").append
    have hwhere : (boundary ++ "where" ++ boundary).tryAt c = none :=
      tryAt_eq_none_iff.mpr fun e he => absurd (hneeds c e he) (by rw [hc]; decide)
    exact (tryAt_either_right hwhere).trans ((takes_text "\x7b").either c hc)

/-- The pattern, part by part. -/
theorem tryAt_resultPattern : resultPattern.tryAt = (Pattern.text "->" ++ (gap ++
    (group 1 dot.plusLazy ++
      (gap ++ choice [boundary ++ "where" ++ boundary, "\x7b", ";", textEnd])))).tryAt :=
  rfl

/-- What stands behind the arrow of a tail. -/
private theorem tail_eq :
    d.tail = [' '] ++ ("->".toList ++ ([' '] ++ (d.result ++ " \x7b".toList))) := by
  simp [tail]

/-- From the arrow on the pattern takes the result type and nothing behind it. -/
private theorem exists_tryAt_resultPattern : ∃ e, resultPattern.tryAt
    (between [' '] ("->".toList ++ ([' '] ++ (d.result ++ " \x7b".toList)))) = some e ∧
      e.marks = [(1, 4, 4 + d.result.length)] := by
  have hresult := d.result_written
  have hchars : ∀ c ∈ ['\n', '{', ';'], c ∉ d.result := by
    have hnone : ∀ c ∈ ['\n', '{', ';'], ¬(isWord c = true ∨ c ∈ punctuation) := by decide
    exact fun c hc hmem => hnone c hc (hresult.punctuated.isWord_or_mem c hmem)
  rw [tryAt_resultPattern]
  refine ⟨_, tryAt_append (tryAt_text rfl) (tryAt_append (takes_star_one
    (List.forall_mem_singleton.mpr rfl) ?_ _ rfl) (tryAt_group_plusLazy_one (hresult.ne_nil nofun)
      rfl ?_ ?_ (takes_brace _ rfl))), rfl⟩
  · intro c hc
    rw [List.head?_append_of_ne_nil _ (hresult.ne_nil nofun)] at hc
    exact hresult.isBlank_head nofun c hc
  · intro c hc
    rw [bne_iff_ne]
    rintro rfl
    exact hchars _ (by decide) hc
  · intro fewer more hsplit hmore
    have hmem : ∀ c ∈ more, c ∈ d.result := by
      rw [hsplit]
      exact fun c => List.mem_append_right fewer
    refine tryAt_end_none (" -> ".toList ++ fewer) more " \x7b".toList ?_ rfl ?_
      (fun hc => hchars _ (by decide) (hmem _ hc)) (fun hc => hchars _ (by decide) (hmem _ hc)) ?_
    · rw [List.getLast?_append]
      rfl
    · have hlast := hresult.isBlank_last
      rw [hsplit, List.getLast?_append_of_ne_nil _ hmore,
        List.getLast?_eq_some_getLast hmore] at hlast
      exact ⟨_, List.getLast?_eq_some_getLast hmore, hlast _ rfl⟩
    · have htail := d.not_standsAlone_tail
      rw [tail, hsplit] at htail
      simpa only [List.append_assoc] using htail

/-- In front of the arrow the pattern takes nothing. -/
private theorem tryAt_resultPattern_none {f b : List Char} (hsplit : [' '] = f ++ b) (hb : b ≠ [])
    (rest : List Char) : resultPattern.tryAt (between f (b ++ rest)) = none := by
  obtain ⟨x, b, rfl⟩ := List.exists_cons_of_ne_nil hb
  have hx : x ∈ [' '] := hsplit ▸ List.mem_append_right f List.mem_cons_self
  obtain rfl := List.mem_singleton.mp hx
  rw [tryAt_resultPattern]
  refine tryAt_append_none (tryAt_chars_none fun hprefix => ?_)
  exact absurd (List.cons_prefix_cons.mp hprefix).1 (by decide)

/-- Behind the parameters the result type is found. -/
theorem exists_resultPattern_eq : ∃ m, resultPattern.find? d.tail = some m ∧
    m.group 1 = d.result := by
  obtain ⟨e, htry, hmarks⟩ := d.exists_tryAt_resultPattern
  rw [tail_eq]
  refine ⟨_, find?_of_between (fun f b hsplit hb => tryAt_resultPattern_none hsplit hb _) htry, ?_⟩
  have hsplit : [' '] ++ ("->".toList ++ ([' '] ++ (d.result ++ " \x7b".toList))) =
      " -> ".toList ++ (d.result ++ " \x7b".toList) := rfl
  refine group_of_span? hsplit ?_
  rw [Match.span?, hmarks]
  rfl

/-- The line is no comment. -/
theorem isComment_trim_line : isComment (trim d.line) = false := by
  rw [d.trim_line]
  rfl

/-- From the first parenthesis on follow the parameters and what is behind them. -/
theorem dropWhile_signature :
    d.signature.dropWhile (· != '(') = '(' :: (d.list ++ ')' :: d.tail) := by
  have hname : ∀ c ∈ "fn ".toList ++ d.name, (c != '(') = true := by
    intro c hc
    rw [bne_iff_ne]
    rintro rfl
    rcases List.mem_append.mp hc with hc | hc
    · revert hc
      decide
    · exact absurd (d.name_identifier.word _ hc) (by decide)
  have hcall : bracketed '(' ')' d.list ++ d.tail = '(' :: (d.list ++ ')' :: d.tail) := by
    simp [bracketed]
  rw [signature, hcall, List.dropWhile_append_of_pos hname,
    List.dropWhile_cons_of_neg (by decide)]

/-- The list is found, and what follows it, when no parameter has a lifetime in its type. -/
theorem call_parts (hplain : ∀ p ∈ d.params, '\'' ∉ p.type) :
    balancedArguments? ('(' :: (d.list ++ ')' :: d.tail)) = some d.list ∧
      afterArguments? ('(' :: (d.list ++ ')' :: d.tail)) = some d.tail := by
  have harguments : ∀ t ∈ d.params.map TypedName.text, IsArgument t := by
    intro t ht
    obtain ⟨p, hp, rfl⟩ := List.mem_map.mp ht
    exact p.isArgument (hplain p hp)
  have hlist : balancedArguments? ('(' :: (d.list ++ ')' :: d.tail)) = some d.list :=
    balancedArguments?_joinArguments harguments d.tail
  have hcall : '(' :: (d.list ++ ')' :: d.tail) = '(' :: (d.list ++ [')']) ++ d.tail := by simp
  have hlength : ('(' :: (d.list ++ [')'])).length = d.list.length + 2 := by simp
  refine ⟨hlist, ?_⟩
  rw [afterArguments?, hlist, Option.bind_some, hcall, ← hlength,
    if_pos (by rw [List.length_append]; exact Nat.le_add_right _ _), List.drop_left]

/-- The method on the line has the parameters and the result type of the declaration. -/
theorem methodAt?_eq {code : List (List Char)} {i : Nat} (hline : code[i]? = some d.line)
    (hplain : ∀ p ∈ d.params, '\'' ∉ p.type) (file : Path) (types : List (Span × List Char)) :
    ∃ m, methodAt? file code types i d.line = some m ∧ m.line = i + 1 ∧
      m.name = String.ofList d.name ∧ m.parameters = d.params.map TypedName.parameter ∧
      m.result = some (String.ofList d.result) := by
  obtain ⟨start, hstart, hname⟩ := d.exists_functionStart_eq
  obtain ⟨span, hspan⟩ := d.exists_braceBody?_eq hline 8
  obtain ⟨found, hfound, hresult⟩ := d.exists_resultPattern_eq
  obtain ⟨hlist, hafter⟩ := d.call_parts hplain
  have hsignature : (joinSignature code i 12).1 = d.signature :=
    d.joinSignature_eq hline (by decide)
  have hdrop : (d.signature.drop ([] : List Char).length).dropWhile (· != '(') =
      '(' :: (d.list ++ ')' :: d.tail) := d.dropWhile_signature
  refine ⟨{ name := String.ofList d.name, file, line := span.first, endLine := span.last,
            parameters := parameters d.list, result := some (String.ofList d.result),
            body := String.ofList span.text, owner := ownerAt types i },
    ?_, first_of_braceBody? hspan, rfl, parameters_joinArguments hplain, rfl⟩
  simp only [methodAt?, d.isComment_trim_line, hstart, hname, hspan, hsignature,
    d.cutAt?_signature, Option.bind_eq_bind, Option.bind_some, Option.map_some, Option.getD_some,
    hdrop, hlist, hafter, hfound, hresult, Bool.false_eq_true, if_false]

end Declaration

/-- A list of parameters without lifetimes is read back, name by name and type by type, and so are
the parameters and the result type of each function on one line that has these parameters. Its
result type may have lifetimes. -/
theorem parameters_read_back (params : List TypedName) (hplain : ∀ p ∈ params, '\'' ∉ p.type) :
    parameters (joinArguments (params.map TypedName.text)) = params.map TypedName.parameter ∧
    ∀ (d : Declaration) (file : Path) (code : List (List Char)) (i : Nat), d.params = params →
      code[i]? = some d.line → ∃ m ∈ methods file code, m.line = i + 1 ∧
        (∀ m' ∈ methods file code, m'.line = i + 1 → m' = m) ∧
        m.name = String.ofList d.name ∧ m.parameters = params.map TypedName.parameter ∧
        m.result = some (String.ofList d.result) := by
  refine ⟨parameters_joinArguments hplain, ?_⟩
  rintro d file code i rfl hline
  obtain ⟨m, hm, hnumber, hname, hparameters, hresult⟩ :=
    d.methodAt?_eq hline hplain file (blocks code)
  refine ⟨m, List.mem_filterMap.mpr ⟨(d.line, i), List.mem_zipIdx_iff_getElem?.mpr hline, hm⟩,
    hnumber, fun m' hm' hnumber' => ?_, hname, hparameters, hresult⟩
  obtain ⟨⟨line, j⟩, hmem, hm'⟩ := List.mem_filterMap.mp hm'
  obtain ⟨span, hread, _⟩ := exists_readFrom hm'
  have hj := hread.line_eq_succ
  obtain rfl : j = i := by omega
  rw [List.mem_zipIdx_iff_getElem?.mp hmem] at hline
  obtain rfl := Option.some.inj hline
  exact Option.some.inj (hm'.symm.trans hm)

/-- A function of a pair and a number that returns a reference. -/
def pairAndNumber : Declaration where
  indent := []
  name := "f".toList
  params :=
    [⟨"pair".toList, bracketed '(' ')' (joinArguments ["u8".toList, "T".toList]), by decide,
        .tuple (List.forall_mem_cons.mpr ⟨.named (.name (by decide)),
          List.forall_mem_singleton.mpr (.named (.name (by decide)))⟩)⟩,
      ⟨"n".toList, "usize".toList, by decide, .named (.name (by decide))⟩]
  result := '&' :: '\'' :: ("a".toList ++ " ".toList ++ "str".toList)
  indent_blank := by decide
  name_identifier := by decide
  result_written := .lifetime (by decide) (by decide) (.named (.name (by decide)))

/-- A pair, a number and a borrowed result are read back from a declaration with a lifetime. -/
theorem pair_and_number_read_back :
    pairAndNumber.line = "fn f(pair: (u8, T), n: usize) -> &'a str \x7b".toList ∧
      (∀ p ∈ pairAndNumber.params, '\'' ∉ p.type) ∧
      ∃ m ∈ methods "lib.rs" [pairAndNumber.line, ['}']], m.name = "f" ∧
        m.parameters = [⟨"pair", "(u8, T)", none⟩, ⟨"n", "usize", none⟩] ∧
        m.result = some "&'a str" := by
  have hplain : ∀ p ∈ pairAndNumber.params, '\'' ∉ p.type := by decide
  obtain ⟨m, hm, -, -, hname, hparameters, hresult⟩ :=
    (parameters_read_back pairAndNumber.params hplain).2 pairAndNumber "lib.rs"
      [pairAndNumber.line, ['}']] 0 rfl rfl
  exact ⟨by decide, hplain, m, hm, hname, hparameters, hresult⟩

/-- A borrowed text and a number. -/
def borrowedAndNumber : List TypedName :=
  [⟨"a".toList, '&' :: '\'' :: ("a".toList ++ " ".toList ++ "str".toList), by decide,
      .lifetime (by decide) (by decide) (.named (.name (by decide)))⟩,
    ⟨"b".toList, "i32".toList, by decide, .named (.name (by decide))⟩]

/-- The number is taken for a part of the type with the lifetime. -/
theorem lifetime_takes_next :
    joinArguments (borrowedAndNumber.map TypedName.text) = "a: &'a str, b: i32".toList ∧
      parameters (joinArguments (borrowedAndNumber.map TypedName.text)) =
        [⟨"a", "&'a str, b: i32", none⟩] ∧
      parameters (joinArguments (borrowedAndNumber.map TypedName.text)) ≠
        borrowedAndNumber.map TypedName.parameter := by
  decide

end Adjudicator.Reader.Rust
