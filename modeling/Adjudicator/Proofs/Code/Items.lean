import Adjudicator.Code.Arguments
import Adjudicator.Proofs.Text.Trim

/-!
# The items of a list

A list is cut at the commas outside brackets and literals. Main statement: the items are trimmed,
only blanks and commas are lost, each item is its own only item, and items that leave nothing open
are found again where they are written with commas between them. The scan is never reset between
items. What makes up for it is that a comma separates only where nothing is open, and that neither
a comma nor a blank tells the scan anything about the character behind it.
-/

namespace Adjudicator.Code

open Text

/-- A character that neither quotes nor opens, closes or parts arguments. -/
def isPlain (c : Char) : Bool :=
  !(ListScan.isQuote c || ListScan.opens c || c == ')' || c == ']' || c == '}' || c == '>' ||
    c == ',')

/-- The characters of a class are plain that has none of the marks of a list. -/
theorem isPlain_of_forall {p : Char → Bool} {c : Char}
    (hnone : ∀ d ∈ ['"', '\'', backtick, '(', '[', '{', '<', ')', ']', '}', '>', ','], p d = false)
    (h : p c = true) : isPlain c = true := by
  have hmem : c ∉ ['"', '\'', backtick, '(', '[', '{', '<', ')', ']', '}', '>', ','] :=
    fun hmem => Bool.false_ne_true ((hnone c hmem).symm.trans h)
  simpa [isPlain, ListScan.isQuote, ListScan.opens, and_assoc] using hmem

/-- A blank is plain. -/
theorem isPlain_of_isBlank {c : Char} (h : isBlank c = true) : isPlain c = true :=
  isPlain_of_forall (by decide) h

namespace ListScan

variable {s : ListScan} {c : Char} {text t u blanks : List Char}

/-- The state behind a text. -/
def run (s : ListScan) (text : List Char) : ListScan :=
  text.foldl step s

/-- No bracket and no literal is open. -/
structure Settled (s : ListScan) : Prop where
  /-- All brackets are closed. -/
  depth : s.depth = 0
  /-- All literals are closed. -/
  quote : s.quote = none

instance (s : ListScan) : Decidable s.Settled :=
  decidable_of_iff (s.depth = 0 ∧ s.quote = none) ⟨fun h => ⟨h.1, h.2⟩, fun h => ⟨h.1, h.2⟩⟩

/-- Nothing is open, and no arrow can end at the next character. -/
structure Fresh (s : ListScan) : Prop extends s.Settled where
  /-- The character before is not the shaft of an arrow. -/
  prev : s.prev ∉ ['-', '=']

/-- No character of a text separates items. -/
def Joins (s : ListScan) : List Char → Prop
  | [] => True
  | c :: text => s.separates c = false ∧ (s.step c).Joins text

/-- Every step of a scan remembers the character it reads. -/
theorem prev_step (s : ListScan) (c : Char) : (s.step c).prev = c := by
  unfold step
  split
  · rfl
  · split
    · rfl
    · split
      · rfl
      · split <;> rfl

/-! ## Where a list is cut -/

/-- Items are separated by a comma where nothing is open. -/
theorem separates_iff : s.separates c = true ↔ s.Settled ∧ c = ',' := by
  rw [separates, Bool.and_eq_true, Bool.and_eq_true, Option.isNone_iff_eq_none, beq_iff_eq,
    beq_iff_eq]
  exact ⟨fun ⟨⟨hquote, hdepth⟩, hc⟩ => ⟨⟨hdepth, hquote⟩, hc⟩,
    fun ⟨⟨hdepth, hquote⟩, hc⟩ => ⟨⟨hquote, hdepth⟩, hc⟩⟩

/-- Outside literals, a plain character changes nothing. -/
theorem step_of_isPlain (hc : isPlain c = true) (hquote : s.quote = none) :
    s.separates c = false ∧ s.step c = { s with prev := c } := by
  simp only [isPlain, Bool.not_eq_true', Bool.or_eq_false_iff, beq_eq_false_iff_ne] at hc
  obtain ⟨⟨⟨⟨⟨⟨hquotes, hopens⟩, hround⟩, hsquare⟩, hcurly⟩, hangle⟩, hcomma⟩ := hc
  simp [separates, step, closes, hquote, hquotes, hopens, hround, hsquare, hcurly, hangle, hcomma]

/-- A list begins fresh. -/
theorem fresh_start : start.Fresh :=
  ⟨⟨rfl, rfl⟩, by decide⟩

/-- Behind a comma that separates, the scan is as good as new. -/
theorem fresh_step_of_separates (h : s.separates c = true) : (s.step c).Fresh := by
  obtain ⟨depth, quote, prev⟩ := s
  obtain ⟨⟨rfl, rfl⟩, rfl⟩ := separates_iff.mp h
  refine ⟨⟨rfl, rfl⟩, ?_⟩
  rw [prev_step]
  decide

/-- It stays so behind a blank. -/
theorem Fresh.step_blank (hs : s.Fresh) (hc : isBlank c = true) :
    s.separates c = false ∧ (s.step c).Fresh := by
  obtain ⟨hjoins, hstep⟩ := step_of_isPlain (isPlain_of_isBlank hc) hs.quote
  have hshaft : ∀ d ∈ ['-', '='], isBlank d = false := by decide
  rw [hstep]
  exact ⟨hjoins, ⟨hs.depth, hs.quote⟩,
    fun hmem => Bool.false_ne_true ((hshaft c hmem).symm.trans hc)⟩

/-- A scan that is as good as new goes on as one that starts. -/
theorem Fresh.step_eq (hs : s.Fresh) (c : Char) : s.step c = start.step c := by
  obtain ⟨depth, quote, prev⟩ := s
  obtain ⟨⟨rfl, rfl⟩, hprev⟩ := hs
  have hcloses : closes prev c = closes start.prev c := by
    obtain ⟨hdash, hequal⟩ : prev ≠ '-' ∧ prev ≠ '=' := by
      simpa only [List.mem_cons, List.not_mem_nil, or_false, not_or] using hprev
    rw [closes, closes, bne_iff_ne.mpr hdash, bne_iff_ne.mpr hequal]
    rfl
  simp only [step, hcloses]
  rfl

/-- From every fresh state the same texts are one piece. -/
theorem Fresh.joins_iff (hs : s.Fresh) : s.Joins text ↔ start.Joins text := by
  cases text with
  | nil => rfl
  | cons c text =>
    have hseparates : s.separates c = start.separates c := by
      rw [Bool.eq_iff_iff, separates_iff, separates_iff]
      exact and_congr_left' (iff_of_true hs.toSettled fresh_start.toSettled)
    rw [Joins, Joins, hseparates, hs.step_eq]

/-- From every fresh state a text leads to the same state. -/
theorem Fresh.run_eq (hs : s.Fresh) (hne : text ≠ []) : s.run text = start.run text := by
  obtain ⟨c, rest, rfl⟩ := List.exists_cons_of_ne_nil hne
  rw [run, List.foldl_cons, hs.step_eq]
  rfl

/-! ## Texts that stand in one piece -/

/-- Two texts are one piece when the second goes on where the first one ends. -/
theorem joins_append : s.Joins (t ++ u) ↔ s.Joins t ∧ (s.run t).Joins u := by
  induction t generalizing s with
  | nil => exact ⟨fun h => ⟨trivial, h⟩, And.right⟩
  | cons c t ih => rw [List.cons_append, Joins, Joins, ih, and_assoc, run, run, List.foldl_cons]

/-- The scan stays as good as new through blanks. -/
theorem Fresh.run_blanks (hs : s.Fresh) (hblanks : ∀ c ∈ blanks, isBlank c = true) :
    (s.run blanks).Fresh := by
  induction blanks generalizing s with
  | nil => exact hs
  | cons c blanks ih =>
    obtain ⟨hc, hblanks⟩ := List.forall_mem_cons.mp hblanks
    exact ih (hs.step_blank hc).2 hblanks

/-- What a piece is trimmed to is one piece from the start. -/
theorem Fresh.joins_trim (hs : s.Fresh) (h : s.Joins text) : start.Joins (trim text) := by
  obtain ⟨back, hback, -⟩ := exists_trimEnd_append (trimStart text)
  have htext : text = text.takeWhile isBlank ++ trimStart text :=
    List.takeWhile_append_dropWhile.symm
  rw [htext, joins_append] at h
  have hfresh : (s.run (text.takeWhile isBlank)).Fresh :=
    hs.run_blanks fun c hc => List.mem_takeWhile_imp hc
  have hrest : start.Joins (trimStart text) := hfresh.joins_iff.mp h.2
  rw [hback, joins_append] at hrest
  exact hrest.1

end ListScan

/-! ## The pieces -/

variable {s : ListScan} {c : Char} {text rest p list : List Char} {items : List (List Char)}

/-- There is always a piece, if only an empty one. -/
theorem piecesFrom_ne_nil (s : ListScan) (text : List Char) : piecesFrom s text ≠ [] := by
  cases text with
  | nil => exact List.cons_ne_nil _ _
  | cons c text =>
    rw [piecesFrom]
    split
    · exact List.cons_ne_nil _ _
    · split <;> exact List.cons_ne_nil _ _

/-- A character that does not separate belongs to the first piece. -/
theorem piecesFrom_cons (h : s.separates c = false) :
    piecesFrom s (c :: rest) = (piecesFrom (s.step c) rest).modifyHead (c :: ·) := by
  rw [piecesFrom, h, if_neg Bool.false_ne_true]
  cases hpieces : piecesFrom (s.step c) rest with
  | nil => exact absurd hpieces (piecesFrom_ne_nil _ _)
  | cons piece pieces => rfl

/-- At a character that separates, a piece ends. -/
theorem piecesFrom_cons_of_separates (h : s.separates c = true) :
    piecesFrom s (c :: rest) = [] :: piecesFrom (s.step c) rest := by
  rw [piecesFrom, if_pos h]

/-- A text without separating characters stands in one piece. -/
theorem ListScan.Joins.piecesFrom_append (h : s.Joins text) (rest : List Char) :
    piecesFrom s (text ++ rest) = (piecesFrom (s.run text) rest).modifyHead (text ++ ·) := by
  induction text generalizing s with
  | nil => exact (congrFun List.modifyHead_id _).symm
  | cons c text ih =>
    rw [List.cons_append, piecesFrom_cons h.1, ih h.2, List.modifyHead_modifyHead]
    rfl

/-- A text without a separating comma is one piece. -/
theorem ListScan.Joins.piecesFrom_eq (h : s.Joins text) : piecesFrom s text = [text] := by
  have hall := h.piecesFrom_append []
  rwa [List.append_nil, piecesFrom, List.modifyHead_cons, List.append_nil] at hall

/-- The first piece has no separating character where the scan is, and no other piece has one from
the start. -/
theorem joins_piecesFrom (s : ListScan) (text : List Char) :
    ∃ piece pieces, piecesFrom s text = piece :: pieces ∧ s.Joins piece ∧
      ∀ p ∈ pieces, ListScan.start.Joins p := by
  induction text generalizing s with
  | nil => exact ⟨[], [], rfl, trivial, nofun⟩
  | cons c text ih =>
    obtain ⟨piece, pieces, hpieces, hfirst, hlater⟩ := ih (s.step c)
    cases hc : s.separates c with
    | false =>
      refine ⟨c :: piece, pieces, ?_, ⟨hc, hfirst⟩, hlater⟩
      rw [piecesFrom_cons hc, hpieces, List.modifyHead_cons]
    | true =>
      refine ⟨[], piece :: pieces, ?_, trivial, List.forall_mem_cons.mpr ⟨?_, hlater⟩⟩
      · rw [piecesFrom_cons_of_separates hc, hpieces]
      · exact (ListScan.fresh_step_of_separates hc).joins_iff.mp hfirst

/-! ## The items -/

/-- The items of a list are its trimmed pieces that are not empty. -/
theorem mem_splitTopLevel_iff :
    p ∈ splitTopLevel list ↔ (∃ piece ∈ piecesFrom .start list, trim piece = p) ∧ p ≠ [] := by
  rw [splitTopLevel, List.mem_filter, List.mem_map, Bool.not_eq_true', List.isEmpty_eq_false_iff]

/-- No character of an item separates where the item is scanned alone. -/
theorem joins_of_mem_splitTopLevel (h : p ∈ splitTopLevel list) : ListScan.start.Joins p := by
  obtain ⟨⟨piece, hpiece, rfl⟩, -⟩ := mem_splitTopLevel_iff.mp h
  obtain ⟨first, later, hpieces, hfirst, hlater⟩ := joins_piecesFrom .start list
  refine ListScan.fresh_start.joins_trim ?_
  rw [hpieces] at hpiece
  rcases List.mem_cons.mp hpiece with rfl | hmem
  · exact hfirst
  · exact hlater piece hmem

/-- A trimmed text without separating characters is its own only item. -/
theorem splitTopLevel_eq_singleton (hne : p ≠ []) (htrim : trim p = p)
    (hjoins : ListScan.start.Joins p) : splitTopLevel p = [p] := by
  rw [splitTopLevel, hjoins.piecesFrom_eq, List.map_singleton, htrim, List.filter_eq_self]
  rintro _ (_ | ⟨_, ⟨⟩⟩)
  rw [Bool.not_eq_true', List.isEmpty_eq_false_iff]
  exact hne

/-- A text as the cut of a list gives it. -/
structure IsItem (p : List Char) : Prop where
  /-- It has a character. -/
  ne_nil : p ≠ []
  /-- No blank stands at its front. -/
  first : ∀ c ∈ p.head?, isBlank c = false
  /-- No blank stands at its end. -/
  last : ∀ c ∈ p.getLast?, isBlank c = false
  /-- Alone, it is its only item. -/
  alone : splitTopLevel p = [p]

instance (p : List Char) : Decidable (IsItem p) :=
  decidable_of_iff (p ≠ [] ∧ trim p = p ∧ splitTopLevel p = [p])
    ⟨fun ⟨hne, htrim, halone⟩ => ⟨hne,
        fun _ hc => isBlank_of_mem_head?_trim (htrim.symm ▸ hc),
        fun _ hc => isBlank_of_mem_getLast?_trim (htrim.symm ▸ hc), halone⟩,
      fun h => ⟨h.ne_nil, trim_eq_self h.first h.last, h.alone⟩⟩

/-- What a list is split into are items. -/
theorem isItem_of_mem_splitTopLevel (h : p ∈ splitTopLevel list) : IsItem p := by
  have hjoins : ListScan.start.Joins p := joins_of_mem_splitTopLevel h
  obtain ⟨⟨piece, -, rfl⟩, hne⟩ := mem_splitTopLevel_iff.mp h
  exact ⟨hne, fun _ => isBlank_of_mem_head?_trim, fun _ => isBlank_of_mem_getLast?_trim,
    splitTopLevel_eq_singleton hne (trim_trim piece) hjoins⟩

/-! ## What is lost -/

/-- A text without its blanks and commas. -/
def content (text : List Char) : List Char :=
  text.filter fun c => !isBlank c && c != ','

/-- Commas are no content. -/
theorem content_cons_comma (text : List Char) : content (',' :: text) = content text :=
  rfl

/-- The content of two texts is that of the first and of the second one. -/
theorem content_append (s t : List Char) : content (s ++ t) = content s ++ content t :=
  List.filter_append s t

/-- The content of several texts is that of each. -/
theorem content_flatten (texts : List (List Char)) :
    content texts.flatten = (texts.map content).flatten :=
  List.filter_flatten

/-- Blanks are no content. -/
theorem content_blanks {blanks : List Char} (h : ∀ c ∈ blanks, isBlank c = true) :
    content blanks = [] := by
  rw [content, List.filter_eq_nil_iff]
  intro c hc
  rw [h c hc]
  exact Bool.false_ne_true

/-- Trimming loses no content. -/
theorem content_trim (text : List Char) : content (trim text) = content text := by
  obtain ⟨back, hback, hblanks⟩ := exists_trimEnd_append (trimStart text)
  have htext : text = text.takeWhile isBlank ++ (trim text ++ back) := by
    rw [trim, ← hback]
    exact List.takeWhile_append_dropWhile.symm
  have hfront : content (text.takeWhile isBlank) = [] :=
    content_blanks fun c hc => List.mem_takeWhile_imp hc
  conv_rhs => rw [htext]
  rw [content_append, content_append, hfront, content_blanks hblanks, List.nil_append,
    List.append_nil]

/-- The cut drops commas. -/
theorem content_flatten_piecesFrom (s : ListScan) (text : List Char) :
    content (piecesFrom s text).flatten = content text := by
  induction text generalizing s with
  | nil => rfl
  | cons c text ih =>
    cases hc : s.separates c with
    | true =>
      obtain rfl : c = ',' := (ListScan.separates_iff.mp hc).2
      rw [piecesFrom_cons_of_separates hc, List.flatten_cons, List.nil_append, ih,
        content_cons_comma]
    | false =>
      obtain ⟨piece, pieces, hpieces⟩ :=
        List.exists_cons_of_ne_nil (piecesFrom_ne_nil (s.step c) text)
      have hrest : content (piece :: pieces).flatten = content text := hpieces ▸ ih (s.step c)
      rw [piecesFrom_cons hc, hpieces, List.modifyHead_cons, List.flatten_cons, List.cons_append,
        ← List.flatten_cons, ← List.singleton_append, content_append, hrest, ← content_append,
        List.singleton_append]

/-- The cut of a list loses blanks and commas only. -/
theorem content_flatten_splitTopLevel (list : List Char) :
    content (splitTopLevel list).flatten = content list := by
  have htrims : content ∘ trim = content := funext content_trim
  rw [splitTopLevel, List.flatten_filter_not_isEmpty, content_flatten, List.map_map, htrims,
    ← content_flatten, content_flatten_piecesFrom]

/-! ## Items with commas between them -/

/-- Arguments as a call writes them. -/
def joinArguments (arguments : List (List Char)) : List Char :=
  List.intercalate [',', ' '] arguments

/-- A single argument is written as it is. -/
theorem joinArguments_singleton (p : List Char) : joinArguments [p] = p :=
  List.intercalate_singleton

/-- Two arguments are written with a comma and a space between them. -/
theorem joinArguments_cons_cons (p p' : List Char) (arguments : List (List Char)) :
    joinArguments (p :: p' :: arguments) = p ++ ',' :: ' ' :: joinArguments (p' :: arguments) := by
  rw [joinArguments, List.intercalate_cons_cons, List.append_assoc]
  rfl

/-- A trimmed text that is one piece and leaves nothing open. -/
structure IsClosedItem (p : List Char) : Prop where
  /-- It has a character. -/
  ne_nil : p ≠ []
  /-- No blanks surround it. -/
  trimmed : trim p = p
  /-- No comma in it separates. -/
  joins : ListScan.start.Joins p
  /-- At its end, nothing is open. -/
  settled : (ListScan.start.run p).Settled

/-- An item that leaves nothing open is a closed one. -/
theorem IsItem.isClosedItem (h : IsItem p) (hend : (ListScan.start.run p).Settled) :
    IsClosedItem p := by
  have hmem : p ∈ splitTopLevel p := by
    rw [h.alone]
    exact List.mem_singleton_self p
  exact ⟨h.ne_nil, trim_eq_self h.first h.last, joins_of_mem_splitTopLevel hmem, hend⟩

/-- A blank in front of the first piece is trimmed. -/
theorem map_trim_modifyHead_cons (pieces : List (List Char)) :
    (pieces.modifyHead (' ' :: ·)).map trim = pieces.map trim := by
  cases pieces <;> rfl

/-- The pieces of a list of closed items are the items. -/
theorem map_trim_piecesFrom (hs : s.Fresh) (hne : items ≠ []) (h : ∀ p ∈ items, IsClosedItem p) :
    (piecesFrom s (joinArguments items)).map trim = items := by
  -- behind each comma and its space the scan is as good as new
  induction items generalizing s with
  | nil => exact absurd rfl hne
  | cons p items ih =>
    obtain ⟨hp, hitems⟩ := List.forall_mem_cons.mp h
    have hjoins : s.Joins p := hs.joins_iff.mpr hp.joins
    cases items with
    | nil =>
      rw [joinArguments_singleton, hjoins.piecesFrom_eq, List.map_singleton, hp.trimmed]
    | cons p' items =>
      have hcomma : (s.run p).separates ',' = true := by
        rw [hs.run_eq hp.ne_nil, ListScan.separates_iff]
        exact ⟨hp.settled, rfl⟩
      obtain ⟨hspace, hfresh⟩ :=
        (ListScan.fresh_step_of_separates hcomma).step_blank (by decide : isBlank ' ' = true)
      rw [joinArguments_cons_cons, hjoins.piecesFrom_append, piecesFrom_cons_of_separates hcomma,
        List.modifyHead_cons, List.append_nil, piecesFrom_cons hspace, List.map_cons,
        map_trim_modifyHead_cons, ih hfresh (List.cons_ne_nil _ _) hitems, hp.trimmed]

/-- Closed items are found again where they are written with commas between them. -/
theorem splitTopLevel_closedItems (h : ∀ p ∈ items, IsClosedItem p) :
    splitTopLevel (joinArguments items) = items := by
  by_cases hne : items = []
  · subst hne
    rfl
  · rw [splitTopLevel, map_trim_piecesFrom ListScan.fresh_start hne h, List.filter_eq_self]
    intro p hp
    rw [Bool.not_eq_true', List.isEmpty_eq_false_iff]
    exact (h p hp).ne_nil

/-- The items of any list are trimmed and each alone is its only item; together they have all of
the list but blanks and commas. Items at whose end no bracket and no literal is open are found
again where they are written with commas between them. -/
theorem items_stand_alone (list : List Char) :
    (∀ p ∈ splitTopLevel list, IsItem p) ∧
      content (splitTopLevel list).flatten = content list ∧
      ∀ items : List (List Char), (∀ p ∈ items, IsItem p ∧ (ListScan.start.run p).Settled) →
        splitTopLevel (joinArguments items) = items :=
  ⟨fun _ => isItem_of_mem_splitTopLevel, content_flatten_splitTopLevel list,
    fun _ h => splitTopLevel_closedItems fun p hp => (h p hp).1.isClosedItem (h p hp).2⟩

/-- Commas in angle brackets and in parentheses do not separate. -/
theorem typed_items_stand_alone :
    let items := ["Map<String, Integer> counts".toList, "int[] xs".toList, "Fn(a, b) f".toList]
    joinArguments items = "Map<String, Integer> counts, int[] xs, Fn(a, b) f".toList ∧
      (∀ p ∈ items, IsItem p ∧ (ListScan.start.run p).Settled) ∧
        splitTopLevel (joinArguments items) = items := by
  intro items
  have hitems : ∀ p ∈ items, IsItem p ∧ (ListScan.start.run p).Settled := by decide
  exact ⟨rfl, hitems, (items_stand_alone []).2.2 items hitems⟩

end Adjudicator.Code
