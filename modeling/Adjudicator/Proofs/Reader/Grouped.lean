import Adjudicator.Proofs.Code.Arguments
import Adjudicator.Reader.Go

/-!
# Grouped parameters

Parameters of Go that share a type are written as their names with commas between them and the type
behind the last one. Main statement: each name is read with the type of its group exactly when no
group in front of the last one has a directed channel in its type. The angle bracket of a direction
opens a bracket that nothing closes, so the commas behind it do not cut.
-/

namespace Adjudicator.Reader.Go

open Text Code

/-! ## Types -/

/-- What stands in front of a type and makes another one of it: pointers, slices and channels. -/
def marks : List (List Char) :=
  ["*".toList, "[]".toList, "chan ".toList, "chan<- ".toList, "<-chan ".toList]

/-- What a text is written for. -/
inductive Form where
  /-- A type. -/
  | type
  /-- The type of one or of any number of arguments. -/
  | operand
  /-- A parameter of a function type. -/
  | parameter
  /-- What follows the parameters of a function type. -/
  | result

/-- The texts of types and of their parts. -/
inductive IsWritten : Form → List Char → Prop
  /-- A name. -/
  | name {name : List Char} (h : IsIdentifier name) : IsWritten .type name
  /-- A name of a package. -/
  | qualified {package name : List Char} (hpackage : IsIdentifier package)
      (hname : IsIdentifier name) : IsWritten .type (package ++ '.' :: name)
  /-- A pointer, a slice or a channel. -/
  | marked {mark type : List Char} (hmark : mark ∈ marks) (h : IsWritten .type type) :
      IsWritten .type (mark ++ type)
  /-- A map. -/
  | map {key value : List Char} (hkey : IsWritten .type key) (hvalue : IsWritten .type value) :
      IsWritten .type ("map".toList ++ bracketed '[' ']' key ++ value)
  /-- A type in parentheses. -/
  | parenthesized {type : List Char} (h : IsWritten .type type) :
      IsWritten .type (bracketed '(' ')' type)
  /-- A function. -/
  | function {params : List (List Char)} {result : List Char}
      (hparams : ∀ p ∈ params, IsWritten .parameter p) (h : IsWritten .result result) :
      IsWritten .type ("func".toList ++ bracketed '(' ')' (joinArguments params) ++ result)
  /-- The type of one argument. -/
  | single {type : List Char} (h : IsWritten .type type) : IsWritten .operand type
  /-- The type of the arguments that are left. -/
  | rest {type : List Char} (h : IsWritten .type type) :
      IsWritten .operand ("...".toList ++ type)
  /-- A parameter without a name, or a name whose type follows. -/
  | unnamed {type : List Char} (h : IsWritten .operand type) : IsWritten .parameter type
  /-- A parameter with its name. -/
  | named {name type : List Char} (hname : IsIdentifier name) (h : IsWritten .operand type) :
      IsWritten .parameter (name ++ ' ' :: type)
  /-- No result. -/
  | noResult : IsWritten .result []
  /-- One result. -/
  | oneResult {type : List Char} (h : IsWritten .type type) : IsWritten .result (' ' :: type)
  /-- Results in parentheses. -/
  | results {params : List (List Char)} (hparams : ∀ p ∈ params, IsWritten .parameter p) :
      IsWritten .result (' ' :: bracketed '(' ')' (joinArguments params))

variable {text : List Char}

/-! ## What the cut takes for one piece -/

/-- From a depth on, the cut takes a text for a part of one piece. Of its brackets only the angle
brackets are left open. -/
def Passes (level : Nat) (text : List Char) : Prop :=
  ∀ s : ListScan, s.quote = none → level ≤ s.depth →
    ∃ s' : ListScan, s'.quote = none ∧ s'.depth = s.depth + text.count '<' ∧
      ∀ rest, piecesFrom s (text ++ rest) = (piecesFrom s' rest).modifyHead (text ++ ·)

namespace Passes

variable {level : Nat} {t u : List Char} {c : Char} {items : List (List Char)}

/-- What the cut takes for a part of a piece outside brackets, it takes for one inside. -/
theorem mono (h : Passes 0 t) : Passes level t :=
  fun s hquote _ => h s hquote (Nat.zero_le _)

/-- The empty text is a part of every piece. -/
theorem nil : Passes level [] :=
  fun s hquote _ => ⟨s, hquote, rfl, fun _ => (congrFun List.modifyHead_id _).symm⟩

/-- Two parts of pieces in a row are a part of a piece. -/
theorem append (ht : Passes level t) (hu : Passes level u) : Passes level (t ++ u) := by
  intro s hquote hlevel
  obtain ⟨s₁, hquote₁, hdepth₁, hpieces₁⟩ := ht s hquote hlevel
  obtain ⟨s₂, hquote₂, hdepth₂, hpieces₂⟩ := hu s₁ hquote₁ (by omega)
  refine ⟨s₂, hquote₂, ?_, fun rest => ?_⟩
  · rw [hdepth₂, hdepth₁, List.count_append, Nat.add_assoc]
  · rw [List.append_assoc, hpieces₁, hpieces₂, List.modifyHead_modifyHead]
    congr 1
    funext piece
    exact (List.append_assoc t u piece).symm

/-- Where one character does not separate, the cut takes it for a part of a piece. -/
theorem of_step (h : ∀ s : ListScan, s.quote = none → level ≤ s.depth → s.separates c = false ∧
      (s.step c).quote = none ∧ (s.step c).depth = s.depth + [c].count '<') :
    Passes level [c] := by
  intro s hquote hlevel
  obtain ⟨hjoins, hquote', hdepth⟩ := h s hquote hlevel
  exact ⟨s.step c, hquote', hdepth, fun rest => piecesFrom_cons hjoins⟩

/-- A plain character is a part of every piece. -/
theorem of_isPlain (h : isPlain c = true) : Passes level [c] := by
  have hless : c ≠ '<' := by
    rintro rfl
    cases h
  refine of_step fun s hquote _ => ?_
  obtain ⟨hjoins, hstep⟩ := ListScan.step_of_isPlain h hquote
  rw [hstep, List.count_singleton, if_neg (beq_iff_eq.not.mpr hless)]
  exact ⟨hjoins, hquote, rfl⟩

/-- An opening angle bracket is a part of every piece. -/
theorem less : Passes level ['<'] :=
  of_step fun s hquote _ => by
    simp [ListScan.separates, ListScan.step, ListScan.isQuote, backtick, ListScan.opens, hquote]

/-- In brackets, commas do not separate. -/
theorem comma : Passes 1 [','] :=
  of_step fun s hquote hlevel => by
    have hdepth : s.depth ≠ 0 := Nat.ne_of_gt hlevel
    simp [ListScan.separates, ListScan.step, ListScan.isQuote, backtick, ListScan.opens,
      ListScan.closes, hquote, hdepth]

/-- A text of plain characters and opening angle brackets is a part of every piece. -/
theorem of_forall (h : ∀ c ∈ t, isPlain c = true ∨ c = '<') : Passes level t := by
  induction t with
  | nil => exact nil
  | cons c t ih =>
    obtain ⟨hc, ht⟩ := List.forall_mem_cons.mp h
    have hfirst : Passes level [c] := by
      rcases hc with hplain | rfl
      · exact of_isPlain hplain
      · exact less
    exact hfirst.append (ih ht)

/-- An identifier is a part of every piece. -/
theorem of_isIdentifier (h : IsIdentifier t) : Passes level t :=
  of_forall fun c hc => .inl (isPlain_of_isWord (h.word c hc))

/-- Brackets make one piece of what they hold. -/
theorem bracketed {opening closing : Char}
    (hbrackets : (opening, closing) ∈ [('(', ')'), ('[', ']')]) (h : Passes 1 t) :
    Passes level (Code.bracketed opening closing t) := by
  intro s hquote _
  have hopening : s.separates opening = false ∧ (s.step opening).quote = none ∧
      (s.step opening).depth = s.depth + 1 := by
    simp only [List.mem_cons, Prod.mk.injEq, List.not_mem_nil, or_false] at hbrackets
    rcases hbrackets with ⟨rfl, -⟩ | ⟨rfl, -⟩ <;>
      simp [ListScan.separates, ListScan.step, ListScan.isQuote, backtick, ListScan.opens, hquote]
  have hclosing (s : ListScan) (hquote : s.quote = none) : s.separates closing = false ∧
      (s.step closing).quote = none ∧ (s.step closing).depth = s.depth - 1 := by
    simp only [List.mem_cons, Prod.mk.injEq, List.not_mem_nil, or_false] at hbrackets
    rcases hbrackets with ⟨-, rfl⟩ | ⟨-, rfl⟩ <;>
      simp [ListScan.separates, ListScan.step, ListScan.isQuote, backtick, ListScan.opens,
        ListScan.closes, hquote]
  have hcount : (Code.bracketed opening closing t).count '<' = t.count '<' := by
    simp only [List.mem_cons, Prod.mk.injEq, List.not_mem_nil, or_false] at hbrackets
    rcases hbrackets with ⟨rfl, rfl⟩ | ⟨rfl, rfl⟩ <;> simp [Code.bracketed]
  obtain ⟨hjoins, hquote₁, hdepth₁⟩ := hopening
  obtain ⟨s₂, hquote₂, hdepth₂, hpieces⟩ := h _ hquote₁ (by omega)
  obtain ⟨hjoins₃, hquote₃, hdepth₃⟩ := hclosing s₂ hquote₂
  refine ⟨s₂.step closing, hquote₃, by omega, fun rest => ?_⟩
  rw [Code.bracketed, List.cons_append, piecesFrom_cons hjoins, List.append_assoc, hpieces,
    List.singleton_append, piecesFrom_cons hjoins₃, List.modifyHead_modifyHead,
    List.modifyHead_modifyHead]
  congr 1
  funext piece
  simp

/-- In brackets, a list of items is a part of one piece. -/
theorem joinArguments (h : ∀ p ∈ items, Passes 1 p) : Passes 1 (joinArguments items) := by
  have hcomma : Passes 1 [',', ' '] := comma.append (of_isPlain (by decide))
  exact joinArguments_of_forall nil (fun _ _ hs ht => hs.append (hcomma.append ht)) h

end Passes

/-- The cut takes a type for a part of one piece. -/
theorem IsWritten.passes {form : Form} (h : IsWritten form text) {level : Nat} :
    Passes level text := by
  induction h generalizing level with
  | name h => exact .of_isIdentifier h
  | qualified hpackage hname =>
    exact (Passes.of_isIdentifier hpackage).append
      ((Passes.of_isPlain (c := '.') (by decide)).append (.of_isIdentifier hname))
  | marked hmark _ ih =>
    have hmarks : ∀ mark ∈ marks, mark = "[]".toList ∨ ∀ c ∈ mark, isPlain c = true ∨ c = '<' := by
      decide
    refine Passes.append ?_ ih
    rcases hmarks _ hmark with rfl | hplain
    · exact Passes.bracketed (by decide) .nil
    · exact .of_forall hplain
  | map _ _ ihkey ihvalue =>
    exact ((Passes.of_forall (by decide)).append (ihkey.bracketed (by decide))).append ihvalue
  | parenthesized _ ih => exact ih.bracketed (by decide)
  | function _ _ ihparams ih =>
    exact ((Passes.of_forall (by decide)).append
      ((Passes.joinArguments fun p hp => ihparams p hp).bracketed (by decide))).append ih
  | single _ ih => exact ih
  | rest _ ih => exact (Passes.of_forall (by decide)).append ih
  | unnamed _ ih => exact ih
  | named hname _ ih =>
    exact (Passes.of_isIdentifier hname).append
      ((Passes.of_isPlain (c := ' ') (by decide)).append ih)
  | noResult => exact .nil
  | oneResult _ ih => exact (Passes.of_isPlain (c := ' ') (by decide)).append ih
  | results _ ihparams =>
    exact (Passes.of_isPlain (c := ' ') (by decide)).append
      ((Passes.joinArguments fun p hp => ihparams p hp).bracketed (by decide))

/-! ## Trimmed types -/

namespace IsWritten

/-- A text in place of a type begins with a character that is no blank. -/
theorem exists_head {form : Form} (h : IsWritten form text) (hform : form ≠ .result) :
    ∃ c rest, text = c :: rest ∧ isBlank c = false := by
  have hidentifier {name : List Char} (hname : IsIdentifier name) :
      ∃ c rest, name = c :: rest ∧ isBlank c = false := by
    obtain ⟨c, rest, rfl⟩ := List.exists_cons_of_ne_nil hname.ne_nil
    exact ⟨c, rest, rfl, hname.isBlank c List.mem_cons_self⟩
  induction h with
  | name h => exact hidentifier h
  | qualified hpackage _ =>
    obtain ⟨c, rest, rfl, hc⟩ := hidentifier hpackage
    exact ⟨c, _, rfl, hc⟩
  | marked hmark _ ih =>
    have hmarks : ∀ mark ∈ marks, mark ≠ [] ∧ ∀ c ∈ mark.take 1, isBlank c = false := by decide
    obtain ⟨hne, hfirst⟩ := hmarks _ hmark
    obtain ⟨c, rest, rfl⟩ := List.exists_cons_of_ne_nil hne
    exact ⟨c, _, rfl, hfirst c List.mem_cons_self⟩
  | map _ _ _ _ => exact ⟨'m', _, rfl, by decide⟩
  | parenthesized _ _ => exact ⟨'(', _, rfl, by decide⟩
  | function _ _ _ _ => exact ⟨'f', _, rfl, by decide⟩
  | single _ ih => exact ih nofun
  | rest _ ih => exact ⟨'.', _, rfl, by decide⟩
  | unnamed _ ih => exact ih nofun
  | named h _ _ =>
    obtain ⟨c, rest, rfl, hc⟩ := hidentifier h
    exact ⟨c, _, rfl, hc⟩
  | noResult => exact absurd rfl hform
  | oneResult _ _ => exact absurd rfl hform
  | results _ _ => exact absurd rfl hform

/-- Only a result may be empty. -/
theorem ne_nil {form : Form} (h : IsWritten form text) (hform : form ≠ .result) : text ≠ [] := by
  obtain ⟨c, rest, rfl, -⟩ := h.exists_head hform
  exact List.cons_ne_nil c rest

/-- No text of a type or of a part of one ends in a blank. -/
theorem isBlank_last {form : Form} (h : IsWritten form text) :
    ∀ c ∈ text.getLast?, isBlank c = false := by
  have hbehind {form : Form} (front : List Char) {type : List Char} (htype : IsWritten form type)
      (hform : form ≠ .result) (ih : ∀ c ∈ type.getLast?, isBlank c = false) :
      ∀ c ∈ (front ++ type).getLast?, isBlank c = false := by
    rwa [List.getLast?_append_of_ne_nil front (htype.ne_nil hform)]
  have hround (front t : List Char) :
      ∀ c ∈ (front ++ bracketed '(' ')' t).getLast?, isBlank c = false := by
    rw [List.getLast?_append, getLast?_bracketed]
    rintro _ ⟨⟩
    decide
  induction h with
  | name h => exact fun c hc => h.isBlank c (List.mem_of_getLast? hc)
  | @qualified package name _ h =>
    rw [List.getLast?_append_of_ne_nil _ (List.cons_ne_nil _ _),
      List.getLast?_cons_of_ne_nil h.ne_nil]
    exact fun c hc => h.isBlank c (List.mem_of_getLast? hc)
  | marked _ h ih => exact hbehind _ h nofun ih
  | map _ h _ ih => exact hbehind _ h nofun ih
  | parenthesized _ _ => exact hround [] _
  | function _ h _ ih =>
    intro c hc
    rw [List.getLast?_append, Option.mem_def, Option.or_eq_some_iff] at hc
    rcases hc with hc | ⟨-, hc⟩
    · exact ih c hc
    · exact hround _ _ c hc
  | single _ ih => exact ih
  | rest h ih => exact hbehind _ h nofun ih
  | unnamed _ ih => exact ih
  | @named name type _ h ih =>
    rw [← List.singleton_append, ← List.append_assoc]
    exact hbehind _ h nofun ih
  | noResult => nofun
  | oneResult h ih => exact hbehind [' '] h nofun ih
  | results _ _ => exact hround [' '] _

/-- No blanks are around a text that is written, except around a result. -/
theorem trim_eq_self {form : Form} (h : IsWritten form text) (hform : form ≠ .result) :
    trim text = text := by
  refine Text.trim_eq_self ?_ h.isBlank_last
  obtain ⟨c, rest, rfl, hc⟩ := h.exists_head hform
  rintro _ ⟨⟩
  exact hc

end IsWritten

/-! ## The cut of a list -/

section Items

variable {s : ListScan} {p : List Char} {items : List (List Char)}

/-- Outside brackets, an item that leaves none open is one piece. -/
theorem piecesFrom_item (hp : Passes 0 p) (hless : '<' ∉ p) (hquote : s.quote = none)
    (hdepth : s.depth = 0) :
    ∃ s' : ListScan, s'.quote = none ∧ s'.depth = 0 ∧ ∀ rest,
      piecesFrom s (p ++ ',' :: ' ' :: rest) = p :: (piecesFrom s' rest).modifyHead (' ' :: ·) := by
  obtain ⟨⟨depth, quote, prev⟩, rfl, hdepth', hpieces⟩ := hp s hquote (Nat.zero_le _)
  obtain rfl : depth = 0 := by
    rw [List.count_eq_zero_of_not_mem hless, hdepth] at hdepth'
    exact hdepth'
  refine ⟨⟨0, none, ' '⟩, rfl, rfl, fun rest => ?_⟩
  have hcomma : piecesFrom ⟨0, none, prev⟩ (',' :: ' ' :: rest) =
      [] :: piecesFrom ⟨0, none, ','⟩ (' ' :: rest) := rfl
  have hspace : piecesFrom ⟨0, none, ','⟩ (' ' :: rest) =
      (piecesFrom ⟨0, none, ' '⟩ rest).modifyHead (' ' :: ·) := piecesFrom_cons rfl
  rw [hpieces, hcomma, hspace, List.modifyHead_cons, List.append_nil]

/-- Where only the last item leaves brackets open, the pieces are the items. -/
theorem map_trim_piecesFrom_items (hne : items ≠ []) (hpasses : ∀ p ∈ items, Passes 0 p)
    (htrim : ∀ p ∈ items, trim p = p) (hless : ∀ p ∈ items.dropLast, '<' ∉ p)
    (hquote : s.quote = none) (hdepth : s.depth = 0) :
    (piecesFrom s (joinArguments items)).map trim = items := by
  induction items generalizing s with
  | nil => exact absurd rfl hne
  | cons p items ih =>
    obtain ⟨hp, hpasses⟩ := List.forall_mem_cons.mp hpasses
    obtain ⟨hp', htrim⟩ := List.forall_mem_cons.mp htrim
    cases items with
    | nil =>
      obtain ⟨s', -, -, hpieces⟩ := hp s hquote (Nat.zero_le _)
      have hlast := hpieces []
      rw [List.append_nil] at hlast
      rw [joinArguments_singleton, hlast, piecesFrom, List.modifyHead_cons, List.append_nil,
        List.map_singleton, hp']
    | cons p' items =>
      rw [List.dropLast_cons_cons] at hless
      obtain ⟨hp'', hless⟩ := List.forall_mem_cons.mp hless
      obtain ⟨s', hquote', hdepth', hpieces⟩ := piecesFrom_item hp hp'' hquote hdepth
      rw [joinArguments_cons_cons, hpieces, List.map_cons, map_trim_modifyHead_cons, hp',
        ih (List.cons_ne_nil _ _) hpasses htrim hless hquote' hdepth']

/-- Behind an open bracket, a list is one piece. -/
theorem length_piecesFrom_of_depth {t : List Char} (ht : Passes 1 t) (hquote : s.quote = none)
    (hdepth : s.depth ≠ 0) : (piecesFrom s t).length = 1 := by
  obtain ⟨s', -, -, hpieces⟩ := ht s hquote (Nat.one_le_iff_ne_zero.mpr hdepth)
  have hall := hpieces []
  rw [List.append_nil] at hall
  rw [hall, List.length_modifyHead]
  rfl

/-- Where an item in front of the last leaves brackets open, there are fewer pieces than items. -/
theorem length_piecesFrom_lt (hpasses : ∀ p ∈ items, Passes 0 p)
    (hless : ∃ p ∈ items.dropLast, '<' ∈ p) (hquote : s.quote = none) (hdepth : s.depth = 0) :
    (piecesFrom s (joinArguments items)).length < items.length := by
  induction items generalizing s with
  | nil =>
    obtain ⟨p, hp, -⟩ := hless
    cases hp
  | cons p items ih =>
    obtain ⟨hp, hpasses⟩ := List.forall_mem_cons.mp hpasses
    cases items with
    | nil =>
      obtain ⟨p, hp, -⟩ := hless
      cases hp
    | cons p' items =>
      rw [joinArguments_cons_cons, List.length_cons]
      by_cases hmem : '<' ∈ p
      · obtain ⟨s', hquote', hdepth', hpieces⟩ := hp s hquote (Nat.zero_le _)
        have hpos : 0 < p.count '<' := List.count_pos_iff.mpr hmem
        have hrest : Passes 1 ([',', ' '] ++ joinArguments (p' :: items)) :=
          (Passes.comma.append (.of_isPlain (by decide))).append
            (.joinArguments fun p hp => (hpasses p hp).mono)
        have hone : (piecesFrom s' (',' :: ' ' :: joinArguments (p' :: items))).length = 1 :=
          length_piecesFrom_of_depth hrest hquote' (by omega)
        rw [hpieces, List.length_modifyHead, hone]
        exact Nat.succ_lt_succ (Nat.succ_pos _)
      · obtain ⟨s', hquote', hdepth', hpieces⟩ := piecesFrom_item hp hmem hquote hdepth
        rw [List.dropLast_cons_cons] at hless
        have hlater : ∃ p ∈ (p' :: items).dropLast, '<' ∈ p := by
          obtain ⟨q, hq, hless⟩ := hless
          rcases List.mem_cons.mp hq with rfl | hq
          · exact absurd hless hmem
          · exact ⟨q, hq, hless⟩
        rw [hpieces, List.length_cons, List.length_modifyHead]
        exact Nat.add_lt_add_right (ih hpasses hlater hquote' hdepth') 1

end Items

/-! ## Groups -/

/-- Parameters that share a type. -/
structure Group where
  /-- The names that the type does not follow. -/
  shared : List (List Char)
  /-- The name in front of the type. -/
  name : List Char
  /-- The type. -/
  type : List Char
  /-- The names are identifiers. -/
  names_identifiers : ∀ n ∈ shared ++ [name], IsIdentifier n
  /-- The type is one of arguments. -/
  type_written : IsWritten .operand type

namespace Group

/-- The names. -/
def names (g : Group) : List (List Char) :=
  g.shared ++ [g.name]

/-- The items that the names and the type are written as. -/
def items (g : Group) : List (List Char) :=
  g.shared ++ [g.name ++ ' ' :: g.type]

/-- Each name with the type. -/
def parameters (g : Group) : List Parameter :=
  g.names.map fun n => ⟨String.ofList n, String.ofList g.type, none⟩

end Group

/-- Groups as a declaration writes them. -/
def written (groups : List Group) : List Char :=
  joinArguments (groups.flatMap Group.items)

/-- The parameters of the groups, one for each name. -/
def listed (groups : List Group) : List Parameter :=
  groups.flatMap Group.parameters

/-- A text without separators is not cut. -/
theorem cutWhere?_eq_none {p : Char → Bool} {s : List Char} (h : ∀ c ∈ s, p c = false) :
    cutWhere? p s = none := by
  induction s with
  | nil => rfl
  | cons c s ih =>
    obtain ⟨hc, hs⟩ := List.forall_mem_cons.mp h
    rw [cutWhere?, hc, if_neg Bool.false_ne_true, ih hs]
    rfl

/-- A text is cut at its first separator. -/
theorem cutWhere?_append_cons {p : Char → Bool} {s : List Char} (h : ∀ c ∈ s, p c = false)
    {c : Char} (hc : p c = true) (t : List Char) : cutWhere? p (s ++ c :: t) = some (s, t) := by
  induction s with
  | nil => rw [List.nil_append, cutWhere?, if_pos hc]
  | cons d s ih =>
    obtain ⟨hd, hs⟩ := List.forall_mem_cons.mp h
    rw [List.cons_append, cutWhere?, hd, if_neg Bool.false_ne_true, ih hs]
    rfl

namespace Group

variable (g : Group) {item : List Char}

/-- An item is a part of one piece. -/
theorem items_passes {level : Nat} (h : item ∈ g.items) : Passes level item := by
  rcases List.mem_append.mp h with hmem | hmem
  · exact .of_isIdentifier (g.names_identifiers item (List.mem_append_left _ hmem))
  · obtain rfl := List.mem_singleton.mp hmem
    have hname : IsIdentifier g.name := g.names_identifiers g.name List.mem_concat_self
    exact IsWritten.passes (.named hname g.type_written)

/-- No blanks are around an item. -/
theorem trim_item (h : item ∈ g.items) : trim item = item := by
  rcases List.mem_append.mp h with hmem | hmem
  · have hname := g.names_identifiers item (List.mem_append_left _ hmem)
    exact (IsWritten.name hname).trim_eq_self nofun
  · obtain rfl := List.mem_singleton.mp hmem
    have hname : IsIdentifier g.name := g.names_identifiers g.name List.mem_concat_self
    exact (IsWritten.named hname g.type_written).trim_eq_self nofun

/-- An item is not empty. -/
theorem item_ne_nil (h : item ∈ g.items) : item ≠ [] := by
  rcases List.mem_append.mp h with hmem | hmem
  · exact (g.names_identifiers item (List.mem_append_left _ hmem)).ne_nil
  · obtain rfl := List.mem_singleton.mp hmem
    exact List.append_ne_nil_of_right_ne_nil _ (List.cons_ne_nil _ _)

/-- A list of a group and of what follows it gives the parameters of the group. -/
theorem namedParameters_items_append (rest : List (List Char)) :
    namedParameters (g.items ++ rest) = (g.parameters ++ (namedParameters rest).1, g.type) := by
  have hblank {n : List Char} (hn : n ∈ g.shared ++ [g.name]) : ∀ c ∈ n, isBlank c = false :=
    (g.names_identifiers n hn).isBlank
  have htyped : namedParameters ((g.name ++ ' ' :: g.type) :: rest) =
      (⟨String.ofList g.name, String.ofList g.type, none⟩ :: (namedParameters rest).1,
        g.type) := by
    simp only [namedParameters, cutWhere?_append_cons (hblank List.mem_concat_self)
      (by decide : isBlank ' ' = true), g.type_written.trim_eq_self nofun]
  -- the names in front carry the type on
  have hshared (names : List (List Char)) (hnames : names ⊆ g.shared) :
      namedParameters (names ++ (g.name ++ ' ' :: g.type) :: rest) =
        ((names ++ [g.name]).map (fun n => ⟨String.ofList n, String.ofList g.type, none⟩) ++
          (namedParameters rest).1, g.type) := by
    induction names with
    | nil => exact htyped
    | cons n names ih =>
      obtain ⟨hn, hnames⟩ := List.cons_subset.mp hnames
      simp only [List.cons_append, namedParameters, ih hnames,
        cutWhere?_eq_none (hblank (List.mem_append_left _ hn)), List.map_cons]
  rw [items, List.append_assoc]
  exact hshared g.shared (List.Subset.refl _)

/-- Items in front of the last one of a group leave no brackets open, and the last one leaves those
open that the type does. -/
theorem less_mem_item : (∀ n ∈ g.shared, '<' ∉ n) ∧
    ('<' ∈ g.name ++ ' ' :: g.type ↔ '<' ∈ g.type) := by
  have hname {n : List Char} (hn : n ∈ g.shared ++ [g.name]) : '<' ∉ n := fun hmem =>
    absurd ((g.names_identifiers n hn).word _ hmem) (by decide)
  refine ⟨fun n hn => hname (List.mem_append_left _ hn), ?_⟩
  rw [List.mem_append, List.mem_cons, or_iff_right (hname List.mem_concat_self),
    or_iff_right (by decide)]

end Group

/-- The items of groups give the parameters of the groups. -/
theorem namedParameters_items (groups : List Group) :
    (namedParameters (groups.flatMap Group.items)).1 = listed groups := by
  induction groups with
  | nil => rfl
  | cons g groups ih =>
    rw [List.flatMap_cons, g.namedParameters_items_append, ih]
    rfl

/-- A list has as many parameters as pieces with text. -/
theorem length_parameters (list : List Char) :
    (parameters list).length = (splitTopLevel list).length := by
  have hnamed (items : List (List Char)) : (namedParameters items).1.length = items.length := by
    induction items with
    | nil => rfl
    | cons item items ih => exact congrArg (· + 1) ih
  rw [parameters]
  split
  · exact hnamed _
  · exact List.length_map _

/-- There are as many parameters as items. -/
theorem length_listed (groups : List Group) :
    (listed groups).length = (groups.flatMap Group.items).length := by
  rw [listed, List.length_flatMap, List.length_flatMap]
  congr 2
  funext g
  rw [Group.parameters, List.length_map, Group.names, Group.items, List.length_append,
    List.length_append]
  rfl

/-- Items in front of the last one leave brackets open where groups in front of the last one do. -/
theorem less_mem_items (groups : List Group) :
    (∀ p ∈ (groups.flatMap Group.items).dropLast, '<' ∉ p) ↔
      ∀ g ∈ groups.dropLast, '<' ∉ g.type := by
  cases groups using List.reverseRec with
  | nil => exact iff_of_true nofun nofun
  | append_singleton groups g =>
    have hlast : ((groups ++ [g]).flatMap Group.items).dropLast =
        groups.flatMap Group.items ++ g.shared := by
      rw [List.flatMap_append, List.flatMap_singleton, Group.items, ← List.append_assoc,
        List.dropLast_concat]
    rw [hlast, List.dropLast_concat]
    constructor
    · intro h g' hg'
      have hmem : g'.name ++ ' ' :: g'.type ∈ groups.flatMap Group.items :=
        List.mem_flatMap.mpr ⟨g', hg', List.mem_concat_self⟩
      exact mt g'.less_mem_item.2.mpr (h _ (List.mem_append_left _ hmem))
    · intro h p hp
      rcases List.mem_append.mp hp with hp | hp
      · obtain ⟨g', hg', hp⟩ := List.mem_flatMap.mp hp
        rcases List.mem_append.mp hp with hp | hp
        · exact g'.less_mem_item.1 p hp
        · obtain rfl := List.mem_singleton.mp hp
          exact mt g'.less_mem_item.2.mp (h g' hg')
      · exact g.less_mem_item.1 p hp

/-- Where angle brackets are in the last item only, the written groups are cut into their items. -/
theorem splitTopLevel_written {groups : List Group} (hne : groups ≠ [])
    (hless : ∀ p ∈ (groups.flatMap Group.items).dropLast, '<' ∉ p) :
    splitTopLevel (written groups) = groups.flatMap Group.items := by
  have hitem {p : List Char} (hp : p ∈ groups.flatMap Group.items) : ∃ g : Group, p ∈ g.items :=
    (List.mem_flatMap.mp hp).imp fun _ h => h.2
  have hitems : groups.flatMap Group.items ≠ [] := by
    obtain ⟨g, groups, rfl⟩ := List.exists_cons_of_ne_nil hne
    exact List.ne_nil_of_mem (List.mem_flatMap.mpr ⟨g, List.mem_cons_self, List.mem_concat_self⟩)
  have hpieces : (piecesFrom .start (written groups)).map trim = groups.flatMap Group.items :=
    map_trim_piecesFrom_items hitems
      (fun p hp => (hitem hp).elim fun g hp => g.items_passes hp)
      (fun p hp => (hitem hp).elim fun g hp => g.trim_item hp) hless rfl rfl
  rw [splitTopLevel, hpieces, List.filter_eq_self]
  intro p hp
  obtain ⟨g, hp⟩ := hitem hp
  rw [Bool.not_eq_true', List.isEmpty_eq_false_iff]
  exact g.item_ne_nil hp

/-- Otherwise there are fewer pieces than items. -/
theorem length_splitTopLevel_written_lt {groups : List Group}
    (hless : ∃ p ∈ (groups.flatMap Group.items).dropLast, '<' ∈ p) :
    (splitTopLevel (written groups)).length < (groups.flatMap Group.items).length := by
  have hpasses : ∀ p ∈ groups.flatMap Group.items, Passes 0 p := by
    intro p hp
    obtain ⟨g, -, hp⟩ := List.mem_flatMap.mp hp
    exact g.items_passes hp
  calc (splitTopLevel (written groups)).length
      ≤ ((piecesFrom .start (written groups)).map trim).length := List.length_filter_le _ _
    _ = (piecesFrom .start (written groups)).length := List.length_map _
    _ < (groups.flatMap Group.items).length := length_piecesFrom_lt hpasses hless rfl rfl

/-- Each name of a list of groups has the type of its group, in order, exactly when no group in
front of the last one has a directed channel in its type: only those are written with an angle
bracket. -/
theorem parameters_written_iff (groups : List Group) :
    parameters (written groups) = listed groups ↔ ∀ g ∈ groups.dropLast, '<' ∉ g.type := by
  rw [← less_mem_items]
  constructor
  · intro heq
    by_contra hless
    push Not at hless
    -- a list with fewer pieces than items has fewer parameters than names
    have hlength := length_splitTopLevel_written_lt hless
    rw [← length_parameters, heq, length_listed] at hlength
    exact lt_irrefl _ hlength
  · intro hless
    rcases groups with _ | ⟨g, groups⟩
    · rfl
    have hblank : ((g :: groups).flatMap Group.items).any (fun item => item.any isBlank) := by
      rw [List.any_eq_true]
      refine ⟨g.name ++ ' ' :: g.type, ?_, ?_⟩
      · exact List.mem_flatMap.mpr ⟨g, List.mem_cons_self, List.mem_concat_self⟩
      · rw [List.any_append, List.any_cons]
        exact Bool.or_true _
    rw [parameters, splitTopLevel_written (List.cons_ne_nil _ _) hless]
    simp only [hblank, if_true]
    exact namedParameters_items _

example : parameters "a, b int, f func(x, y T) (T, error), m map[K][]*p.V, c <-chan T".toList =
    [⟨"a", "int", none⟩, ⟨"b", "int", none⟩, ⟨"f", "func(x, y T) (T, error)", none⟩,
      ⟨"m", "map[K][]*p.V", none⟩, ⟨"c", "<-chan T", none⟩] := by
  decide

/-- A channel to receive from and a number. -/
def receiverAndNumber : List Group :=
  have hint : IsWritten .type "int".toList := .name (by decide)
  [⟨[], "in".toList, "<-chan ".toList ++ "int".toList, by decide,
      .single (.marked (by decide) hint)⟩,
    ⟨[], "n".toList, "int".toList, by decide, .single hint⟩]

/-- The number is taken for a part of the channel's type. -/
theorem receiver_takes_next :
    written receiverAndNumber = "in <-chan int, n int".toList ∧
      parameters (written receiverAndNumber) = [⟨"in", "<-chan int, n int", none⟩] ∧
      parameters (written receiverAndNumber) ≠ listed receiverAndNumber := by
  decide

end Adjudicator.Reader.Go
