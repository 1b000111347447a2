import Adjudicator.Mutation.Masked
import Mathlib.Data.List.Basic
import Mathlib.Data.List.Chain

/-!
# Places in masked lines

A masked line has as many bytes as the line, and its characters that are not blank are those of the
line. Main statement: where a masked line is parted beside a character that is not blank the line is
parted between characters too, with as many bytes in front, so cutting the line there cuts no
character in two.
-/

namespace Adjudicator.Mutation

open Text

variable {line before part after : List Char} {cs : List Cell}

/-! ## Bytes -/

/-- The bytes of two texts are those of the one and of the other. -/
theorem byteLength_append (s t : List Char) :
    byteLength (s ++ t) = byteLength s + byteLength t := by
  induction s with
  | nil => rw [List.nil_append, byteLength, Nat.zero_add]
  | cons c s ih => rw [List.cons_append, byteLength, byteLength, ih, Nat.add_assoc]

/-- A blank is one byte. -/
theorem byteLength_replicate (n : Nat) : byteLength (List.replicate n ' ') = n := by
  induction n with
  | zero => rfl
  | succ n ih =>
    have hsize : ' '.utf8Size = 1 := rfl
    rw [List.replicate_succ, byteLength, ih, hsize, Nat.add_comm]

/-- The first bytes of a text, as many as its first part has, are this part. -/
theorem takeBytes_append (s t : List Char) : takeBytes (byteLength s) (s ++ t) = s := by
  induction s with
  | nil =>
    cases t with
    | nil => rfl
    | cons c t =>
      rw [List.nil_append, byteLength, takeBytes, if_neg (Nat.not_le.mpr c.utf8Size_pos)]
  | cons c s ih =>
    rw [List.cons_append, byteLength, takeBytes, if_pos (Nat.le_add_right _ _),
      Nat.add_sub_cancel_left, ih]

/-- Behind the bytes of the first part of a text stands the rest. -/
theorem dropBytes_append (s t : List Char) : dropBytes (byteLength s) (s ++ t) = t := by
  rw [dropBytes, takeBytes_append, List.drop_left]

/-! ## Cells -/

/-- The characters of cells. -/
def chars (cs : List Cell) : List Char :=
  cs.map Cell.char

/-- What a masked line shows of cells. -/
def shown (cs : List Cell) : List Char :=
  cs.flatMap Cell.shown

/-- The characters of cells are those of the first and of the last. -/
@[simp] theorem chars_append (cs cs' : List Cell) : chars (cs ++ cs') = chars cs ++ chars cs' :=
  List.map_append

/-- What a masked line shows of cells, it shows of the first and of the last. -/
@[simp] theorem shown_append (cs cs' : List Cell) : shown (cs ++ cs') = shown cs ++ shown cs' :=
  List.flatMap_append

/-- A masked line is what its cells show. -/
theorem mask_eq_shown (line : List Char) : mask line = shown (cells line) :=
  rfl

private theorem chars_cellsFrom (quote : Option Char) (escaped : Bool) (prev : Char)
    (line : List Char) : chars (cellsFrom quote escaped prev line) = line := by
  induction line generalizing quote escaped prev with
  | nil => cases quote <;> rfl
  | cons c line ih =>
    cases quote with
    | some q =>
      rw [cellsFrom]
      split_ifs <;> exact congrArg (c :: ·) (ih _ _ _)
    | none =>
      rw [cellsFrom]
      split_ifs
      · rw [chars, List.map_map]
        exact List.map_id _
      · exact congrArg (c :: ·) (ih _ _ _)

/-- The cells of a line hold its characters. -/
theorem chars_cells (line : List Char) : chars (cells line) = line :=
  chars_cellsFrom none false (Char.ofNat 0) line

/-- A masked line has as many bytes as the line. -/
theorem byteLength_shown (cs : List Cell) : byteLength (shown cs) = byteLength (chars cs) := by
  induction cs with
  | nil => rfl
  | cons c cs ih =>
    have hcell : byteLength c.shown = c.char.utf8Size := by
      rw [Cell.shown]
      split
      · rfl
      · exact byteLength_replicate _
    rw [shown, List.flatMap_cons, byteLength_append, hcell, ← shown, ih]
    rfl

example : mask ['a', '"', 'é', '"', '/', '/', 'b'] = ['a', '"', ' ', ' ', '"', ' ', ' ', ' '] := by
  decide

/-- Parts of a masked line beside a character that is not a space belong to parts of the line. -/
theorem exists_split {u v : List Char} (h : shown cs = u ++ v)
    (hborder : u.getLast? ≠ some ' ' ∨ v.head? ≠ some ' ') :
    ∃ front back, cs = front ++ back ∧ shown front = u ∧ shown back = v := by
  induction cs generalizing u with
  | nil =>
    obtain ⟨rfl, rfl⟩ := List.append_eq_nil_iff.mp h.symm
    exact ⟨[], [], rfl, rfl, rfl⟩
  | cons c cs ih =>
    have hcons : c.shown ++ shown cs = u ++ v := h
    rcases List.append_eq_append_iff.mp hcons with ⟨w, rfl, hcs⟩ | ⟨w, hc, rfl⟩
    · have hborder' : w.getLast? ≠ some ' ' ∨ v.head? ≠ some ' ' := by
        refine hborder.imp_left fun hlast => ?_
        intro hw
        rw [List.getLast?_append, hw] at hlast
        exact hlast rfl
      obtain ⟨front, back, rfl, rfl, rfl⟩ := ih hcs hborder'
      exact ⟨c :: front, back, rfl, rfl, rfl⟩
    · rcases eq_or_ne u [] with rfl | hu
      · exact ⟨[], c :: cs, rfl, rfl, h⟩
      rcases eq_or_ne w [] with rfl | hw
      · rw [List.append_nil] at hc
        exact ⟨[c], cs, rfl, (List.append_nil _).trans hc, rfl⟩
      -- a character with a border inside it is hidden, and then spaces are on both sides
      have hspace : ∀ x ∈ u ++ w, x = ' ' := by
        rw [← hc, Cell.shown]
        split
        next hcode =>
          have hlength := congrArg List.length hc
          rw [Cell.shown, if_pos hcode, List.length_append] at hlength
          have hu' := List.length_pos_of_ne_nil hu
          have hw' := List.length_pos_of_ne_nil hw
          simp only [List.length_singleton] at hlength
          omega
        next => exact fun x hx => List.eq_of_mem_replicate hx
      rcases hborder with hlast | hhead
      · refine absurd ?_ hlast
        rw [List.getLast?_eq_some_getLast hu]
        exact congrArg some (hspace _ (List.mem_append_left _ (List.getLast_mem hu)))
      · refine absurd ?_ hhead
        rw [List.head?_append_of_ne_nil _ hw, List.head?_eq_some_head hw]
        exact congrArg some (hspace _ (List.mem_append_right _ (List.head_mem hw)))

private theorem shown_masked (s : List Char) :
    shown (s.map fun c => ⟨c, false⟩) = List.replicate (byteLength s) ' ' := by
  induction s with
  | nil => rfl
  | cons c s ih =>
    have hcons : shown ((c :: s).map fun c => ⟨c, false⟩) =
        List.replicate c.utf8Size ' ' ++ shown (s.map fun c => ⟨c, false⟩) := rfl
    rw [hcons, ih, List.replicate_append_replicate, byteLength]

/-- Cells that are shown without a blank are code. -/
theorem isCode_of_shown (h : ' ' ∉ shown cs) : ∀ c ∈ cs, c.isCode = true := by
  intro c hc
  by_contra hmasked
  refine h (List.mem_flatMap.mpr ⟨c, hc, ?_⟩)
  rw [Cell.shown, if_neg hmasked]
  exact List.mem_replicate.mpr ⟨Nat.ne_of_gt c.char.utf8Size_pos, rfl⟩

/-- What is shown without spaces is code. -/
theorem chars_eq_of_shown {x : List Char} (h : shown cs = x) (hx : ' ' ∉ x) : chars cs = x := by
  induction cs generalizing x with
  | nil => exact h
  | cons c cs ih =>
    have hcons : c.shown ++ shown cs = x := h
    have hcode : c.isCode = true := isCode_of_shown (h ▸ hx) c List.mem_cons_self
    rw [Cell.shown, if_pos hcode] at hcons
    rw [← hcons] at hx ⊢
    exact congrArg (c.char :: ·) (ih rfl fun hmem => hx (List.mem_cons_of_mem _ hmem))

/-! ## Comments -/

/-- The characters that open literals. -/
def quotes : List Char :=
  ['"', Code.backtick, '\'']

private theorem opened?_eq_none {prev c : Char} {rest : List Char} (h : c ∉ quotes) :
    opened? prev c rest = none := by
  simp only [quotes, List.mem_cons, List.not_mem_nil, or_false, not_or] at h
  obtain ⟨hdouble, hback, hsingle⟩ := h
  rw [opened?, if_neg (not_or.mpr ⟨hdouble, hback⟩), if_neg fun hopens => hsingle hopens.1]

private theorem exists_comment_cellsFrom (prev : Char) (line : List Char)
    (h : ∀ c ∈ shown (cellsFrom none false prev line), c ∉ quotes) :
    ∃ code comment, line = code ++ comment ∧
      shown (cellsFrom none false prev line) =
        code ++ List.replicate (byteLength comment) ' ' ∧
      (comment = [] ∨ ['/', '/'] <+: comment) := by
  induction line generalizing prev with
  | nil => exact ⟨[], [], rfl, rfl, .inl rfl⟩
  | cons c line ih =>
    rw [cellsFrom] at h ⊢
    split_ifs at h ⊢ with hcomment
    · obtain ⟨rfl, hhead⟩ := hcomment
      obtain ⟨rest, rfl⟩ := List.head?_eq_some_iff.mp hhead
      refine ⟨[], '/' :: '/' :: rest, rfl, ?_, .inr ⟨rest, rfl⟩⟩
      exact shown_masked _
    · have hc : c ∉ quotes := h c (List.mem_cons_self)
      rw [opened?_eq_none hc] at h ⊢
      obtain ⟨code, comment, rfl, hshown, hslashes⟩ :=
        ih c fun x hx => h x (List.mem_cons_of_mem _ hx)
      exact ⟨c :: code, comment, rfl, congrArg (c :: ·) hshown, hslashes⟩

/-- A masked line without quotes shows the whole line up to a comment. -/
theorem exists_comment (h : ∀ c ∈ mask line, c ∉ quotes) :
    ∃ code comment, line = code ++ comment ∧
      mask line = code ++ List.replicate (byteLength comment) ' ' ∧
      (comment = [] ∨ ['/', '/'] <+: comment) :=
  exists_comment_cellsFrom _ line h

/-! ## Neighbours -/

/-- What can stand behind a character: code ends at a literal or a comment, and a literal ends at
its quote. -/
def Follows (c d : Cell) : Prop :=
  (d.isCode = true → c.isCode = true ∨ d.char ∈ quotes) ∧
    (d.isCode = false → c.isCode = false ∨ c.char ∈ quotes ∨ d.char = '/')

/-- The first cell from a place: the quote that is open, or code up to a comment. -/
private theorem first_cellsFrom {quote : Option Char} {escaped : Bool} {prev : Char} {d : Cell}
    (h : d ∈ (cellsFrom quote escaped prev line).head?) :
    (quote = none → d.isCode = false → d.char = '/') ∧
      ∀ q, quote = some q → d.isCode = true → d.char = q := by
  cases line with
  | nil => cases h
  | cons c line =>
    cases quote with
    | none =>
      refine ⟨fun _ hcode => ?_, nofun⟩
      rw [cellsFrom] at h
      split_ifs at h with hcomment
      · obtain rfl := Option.some.inj h
        exact hcomment.1
      · obtain rfl := Option.some.inj h
        cases hcode
    | some q =>
      refine ⟨nofun, ?_⟩
      rintro _ ⟨⟩ hcode
      rw [cellsFrom] at h
      split_ifs at h with _ _ hquote <;> obtain rfl := Option.some.inj h
      · cases hcode
      · cases hcode
      · exact hquote
      · cases hcode

private theorem mem_quotes_of_opened? {prev c q : Char} {rest : List Char}
    (h : opened? prev c rest = some q) : c ∈ quotes ∧ q = c := by
  by_cases hc : c ∈ quotes
  · rw [opened?] at h
    split_ifs at h <;> exact ⟨hc, (Option.some.inj h).symm⟩
  · rw [opened?_eq_none hc] at h
    cases h

private theorem isChain_hidden (s : List Char) :
    (s.map fun c => (⟨c, false⟩ : Cell)).IsChain Follows := by
  induction s with
  | nil => exact .nil
  | cons c s ih =>
    refine List.isChain_cons.mpr ⟨fun d hd => ?_, ih⟩
    obtain ⟨x, _, rfl⟩ := List.mem_map.mp (List.mem_of_mem_head? hd)
    exact ⟨nofun, fun _ => .inl rfl⟩

private theorem isChain_cellsFrom {quote : Option Char} (hquote : ∀ q, quote = some q → q ∈ quotes)
    (escaped : Bool) (prev : Char) (line : List Char) :
    (cellsFrom quote escaped prev line).IsChain Follows := by
  induction line generalizing quote escaped prev with
  | nil => exact .nil
  | cons c line ih =>
    cases quote with
    | some q =>
      have hq : q ∈ quotes := hquote q rfl
      have hhidden (escaped' : Bool) :
          (⟨c, false⟩ :: cellsFrom (some q) escaped' c line).IsChain Follows := by
        refine List.isChain_cons.mpr
          ⟨fun d hd => ⟨fun hcode => ?_, fun _ => .inl rfl⟩, ih hquote _ _⟩
        rw [(first_cellsFrom hd).2 q rfl hcode]
        exact .inr hq
      rw [cellsFrom]
      split_ifs with _ _ hclose
      · exact hhidden false
      · exact hhidden true
      · refine List.isChain_cons.mpr
          ⟨fun d hd => ⟨fun _ => .inl rfl, fun _ => ?_⟩, ih (by rintro _ ⟨⟩) _ _⟩
        exact .inr (.inl (hclose ▸ hq))
      · exact hhidden false
    | none =>
      rw [cellsFrom]
      split_ifs with hcomment
      · exact isChain_hidden (c :: line)
      · refine List.isChain_cons.mpr ⟨fun d hd => ⟨fun _ => .inl rfl, fun hcode => ?_⟩, ih ?_ _ _⟩
        · cases hopened : opened? prev c line with
          | none =>
            rw [hopened] at hd
            exact .inr (.inr ((first_cellsFrom hd).1 rfl hcode))
          | some q => exact .inr (.inl (mem_quotes_of_opened? hopened).1)
        · intro q hopened
          obtain ⟨hc, rfl⟩ := mem_quotes_of_opened? hopened
          exact hc

/-- The neighbours of a line's characters. -/
theorem isChain_cells (line : List Char) : (cells line).IsChain Follows :=
  isChain_cellsFrom (by rintro _ ⟨⟩) _ _ line

/-- A character that opens neither a literal nor a comment and can be seen. -/
def IsOrdinary (c : Char) : Prop :=
  c ∉ quotes ∧ c ≠ '/' ∧ c ≠ ' '

private theorem head?_shown_of_hidden {d : Cell} (h : d.isCode = false) (s : List Char) :
    (d.shown ++ s).head? = some ' ' := by
  obtain ⟨n, hn⟩ := Nat.exists_eq_succ_of_ne_zero d.char.utf8Size_pos.ne'
  rw [Cell.shown, if_neg (by rw [h]; decide), hn, List.replicate_succ]
  rfl

/-- Behind code the line goes on with ordinary characters as far as the masked line does. -/
private theorem prefix_chars_iff {c : Cell} (hchain : (c :: cs).IsChain Follows)
    (hcode : c.isCode = true) (hc : c.char ∉ quotes) {z : List Char} (hz : ∀ x ∈ z, IsOrdinary x) :
    z <+: chars cs ↔ z <+: shown cs := by
  induction z generalizing c cs with
  | nil => exact iff_of_true List.nil_prefix List.nil_prefix
  | cons x z ih =>
    obtain ⟨⟨hquote, hslash, hspace⟩, hz⟩ := List.forall_mem_cons.mp hz
    cases cs with
    | nil => exact Iff.rfl
    | cons d cs =>
      have hfollows := hchain.rel_head? (y := d) rfl
      have hchars : chars (d :: cs) = d.char :: chars cs := rfl
      have hshown : shown (d :: cs) = d.shown ++ shown cs := rfl
      cases hd : d.isCode with
      | true =>
        rw [hchars, hshown, Cell.shown, if_pos hd, List.singleton_append, List.cons_prefix_cons,
          List.cons_prefix_cons]
        refine and_congr_right fun hx => ih hchain.tail hd ?_ hz
        rwa [← hx]
      | false =>
        refine iff_of_false ?_ ?_
        · rw [hchars, List.cons_prefix_cons]
          rintro ⟨rfl, _⟩
          rcases hfollows.2 hd with hhidden | hopens | hcomment
          · rw [hcode] at hhidden
            cases hhidden
          · exact hc hopens
          · exact hslash hcomment
        · rw [hshown]
          rintro ⟨t, ht⟩
          have hhead := congrArg List.head? ht
          rw [head?_shown_of_hidden hd] at hhead
          exact hspace (Option.some.inj hhead)

/-! ## Cuts -/

/-- A place of a line, given by two positions in its masked form: it begins and ends between
characters of the line, with as many bytes in front as in the masked line. -/
structure Aligned (line : List Char) (start stop : Nat) (before part after : List Char) :
    Prop where
  /-- The line has these parts. -/
  line_eq : line = before ++ part ++ after
  /-- What is in front has as many bytes in both lines. -/
  start_eq : byteLength before = byteLength ((mask line).take start)
  /-- So it is up to the end of the part. -/
  stop_eq : byteLength (before ++ part) = byteLength ((mask line).take stop)

/-- A place that the masked line shows as it is. -/
structure Unmasked (line : List Char) (start stop : Nat) (before part after : List Char) : Prop
    extends Aligned line start stop before part after where
  /-- The masked line has the same part there. -/
  shown_eq : ((mask line).take stop).drop start = part

/-- Cutting at such a place gives the three parts of the line. -/
theorem Aligned.cut_eq {start stop : Nat} (h : Aligned line start stop before part after) :
    cut line (mask line) start stop = ⟨before, part, after⟩ := by
  have hpart : byteLength (before ++ part) - byteLength before = byteLength part := by
    rw [byteLength_append, Nat.add_sub_cancel_left]
  have htail : line = before ++ (part ++ after) := by rw [h.line_eq, List.append_assoc]
  have hbefore : takeBytes (byteLength before) line = before := by rw [htail, takeBytes_append]
  have hrest : dropBytes (byteLength before) line = part ++ after := by rw [htail, dropBytes_append]
  have hafter : dropBytes (byteLength (before ++ part)) line = after := by
    rw [h.line_eq, dropBytes_append]
  simp only [cut, ← h.start_eq, ← h.stop_eq, hpart, hbefore, hrest, hafter, takeBytes_append]

section Borders

variable {u x v : List Char}

/-- Where a masked line is parted beside characters that are not spaces the line is parted too. -/
theorem exists_aligned (h : mask line = u ++ (x ++ v))
    (hstart : u.getLast? ≠ some ' ' ∨ (x ++ v).head? ≠ some ' ')
    (hstop : x.getLast? ≠ some ' ' ∨ v.head? ≠ some ' ') :
    ∃ p m q, cells line = p ++ (m ++ q) ∧ shown p = u ∧ shown m = x ∧ shown q = v ∧
      Aligned line u.length (u.length + x.length) (chars p) (chars m) (chars q) := by
  obtain ⟨p, rest, hcells, hp, hrest⟩ := exists_split ((mask_eq_shown line).symm.trans h) hstart
  obtain ⟨m, q, rfl, hm, hq⟩ := exists_split hrest hstop
  refine ⟨p, m, q, hcells, hp, hm, hq, ?_, ?_, ?_⟩
  · rw [← chars_cells line, hcells, chars_append, chars_append, List.append_assoc]
  · rw [h, List.take_left, ← hp, byteLength_shown]
  · rw [h, ← List.length_append, ← List.append_assoc, List.take_left, ← hp, ← hm,
      ← shown_append, byteLength_shown, chars_append]

private theorem drop_take_append (u x v : List Char) :
    ((u ++ (x ++ v)).take (u.length + x.length)).drop u.length = x := by
  rw [← List.length_append, ← List.append_assoc, List.take_left, List.drop_left]

/-- What a masked line shows without spaces is a part of the line. -/
private theorem exists_shown (h : mask line = u ++ (x ++ v)) (hne : x ≠ []) (hx : ' ' ∉ x) :
    ∃ p m q, cells line = p ++ (m ++ q) ∧ shown p = u ∧ shown m = x ∧ shown q = v ∧
      chars m = x ∧ Unmasked line u.length (u.length + x.length) (chars p) x (chars q) := by
  have hfirst : (x ++ v).head? ≠ some ' ' := by
    rw [List.head?_append_of_ne_nil _ hne]
    exact fun hhead => hx (List.mem_of_head? hhead)
  have hlast : x.getLast? ≠ some ' ' := fun hlast => hx (List.mem_of_getLast? hlast)
  obtain ⟨p, m, q, hcells, hp, hm, hq, haligned⟩ := exists_aligned h (.inr hfirst) (.inl hlast)
  have hchars := chars_eq_of_shown hm hx
  rw [hchars] at haligned
  exact ⟨p, m, q, hcells, hp, hm, hq, hchars, haligned, by rw [h, drop_take_append]⟩

/-- A part of a masked line without blanks stands in the line at the same bytes. -/
theorem exists_unmasked (h : mask line = u ++ (x ++ v)) (hne : x ≠ []) (hx : ' ' ∉ x) :
    ∃ p q, Unmasked line u.length (u.length + x.length) p x q := by
  obtain ⟨p, m, q, -, -, -, -, -, hunmasked⟩ := exists_shown h hne hx
  exact ⟨chars p, chars q, hunmasked⟩

/-- What a masked line shows as ordinary characters has the same neighbours in the line: the
character in front, and the ordinary characters behind. -/
theorem exists_unmasked_between (h : mask line = u ++ (x ++ v)) (hne : x ≠ [])
    (hx : ∀ c ∈ x, IsOrdinary c) :
    ∃ p q, Unmasked line u.length (u.length + x.length) p x q ∧ p.getLast? = u.getLast? ∧
      ∀ z, (∀ c ∈ z, IsOrdinary c) → (z <+: q ↔ z <+: v) := by
  have hspace : ' ' ∉ x := fun hmem => (hx _ hmem).2.2 rfl
  obtain ⟨p, m, q, hcells, rfl, hm, rfl, hchars, hunmasked⟩ := exists_shown h hne hspace
  have hmne : m ≠ [] := by
    rintro rfl
    exact hne hchars.symm
  have hcode : ∀ c ∈ m, c.isCode = true := isCode_of_shown (hm ▸ hspace)
  have hordinary : ∀ c ∈ m, c.char ∉ quotes := by
    intro c hc
    exact (hx _ (hchars ▸ List.mem_map_of_mem hc)).1
  have hchain := isChain_cells line
  rw [hcells, List.isChain_append] at hchain
  obtain ⟨-, hchain, hborder⟩ := hchain
  refine ⟨chars p, chars q, hunmasked, ?_, fun z => ?_⟩
  · rcases List.eq_nil_or_concat' p with rfl | ⟨front, c, rfl⟩
    · rfl
    · have hfirst := List.head_mem hmne
      have hmem : m.head hmne ∈ (m ++ q).head? := by
        rw [List.head?_append_of_ne_nil _ hmne, List.head?_eq_some_head hmne]
        rfl
      have hc : c.isCode = true := by
        refine ((hborder c List.getLast?_concat _ hmem).1 (hcode _ hfirst)).resolve_right ?_
        exact hordinary _ hfirst
      have hshown : shown [c] = [c.char] := by
        rw [shown, List.flatMap_cons, Cell.shown, if_pos hc]
        rfl
      rw [chars_append, shown_append, hshown]
      exact List.getLast?_concat.trans List.getLast?_concat.symm
  · have hlast := List.getLast_mem hmne
    rw [← List.dropLast_append_getLast hmne, List.append_assoc] at hchain
    exact prefix_chars_iff hchain.right_of_append (hcode _ hlast) (hordinary _ hlast)

/-- So is a part up to which both lines agree. -/
theorem unmasked_of_agree {w : List Char} (hline : line = u ++ x ++ w)
    (hmask : mask line = u ++ x ++ v) :
    Unmasked line u.length (u.length + x.length) u x w := by
  rw [List.append_assoc] at hmask
  refine ⟨⟨hline, ?_, ?_⟩, by rw [hmask, drop_take_append]⟩
  · rw [hmask, List.take_left]
  · rw [hmask, ← List.length_append, ← List.append_assoc, List.take_left]

end Borders

end Adjudicator.Mutation
