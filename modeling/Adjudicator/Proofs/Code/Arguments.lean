import Adjudicator.Proofs.Code.Items

/-!
# The arguments of a call

A call is written as its arguments with commas between them, in parentheses. Main statement: the
text between the parentheses is found whatever the arguments are, and cutting it gives the
arguments again where no literal ends in a backslash. Behind such a literal the cut loses the end
of the literal, because it takes every quote behind a backslash for an escaped one. Texts without
literals are arguments when they close their brackets and have commas only in them.
-/

namespace Adjudicator.Code

open Text

/-! ## Arguments as they are written -/

/-- A kind of bracket. -/
inductive Bracket where
  | round
  | square
  | curly
  | angle
deriving DecidableEq, Repr

namespace Bracket

/-- The bracket that a character opens. -/
def opened? : Char → Option Bracket
  | '(' => some round
  | '[' => some square
  | '{' => some curly
  | '<' => some angle
  | _ => none

/-- The bracket that a character closes; the point of an arrow closes none. -/
def closed? (prev : Option Char) : Char → Option Bracket
  | ')' => some round
  | ']' => some square
  | '}' => some curly
  | '>' => if prev = some '-' ∨ prev = some '=' then none else some angle
  | _ => none

variable {c : Char} {prev : Option Char}

/-- Only one character opens a parenthesis. -/
theorem opened?_eq_some_round_iff : opened? c = some round ↔ c = '(' := by
  unfold opened?
  split <;> simp_all

/-- Only one character closes a parenthesis, whatever stands before it. -/
theorem closed?_eq_some_round_iff : closed? prev c = some round ↔ c = ')' := by
  unfold closed?
  split <;> simp_all

/-- A character opens a bracket for the reading exactly when it does for the scan of a list. -/
theorem isSome_opened? : (opened? c).isSome = ListScan.opens c := by
  unfold opened? ListScan.opens
  split <;> simp_all

/-- A character closes a bracket for the reading exactly when it does for the scan of a list, as
long as both know whether an arrow or an escape stands before it. -/
theorem isSome_closed? {before : Char}
    (h : ∀ d ∈ ['\\', '-', '='], before = d ↔ prev = some d) :
    (closed? prev c).isSome = ListScan.closes before c := by
  have hdash : before = '-' ↔ prev = some '-' := h _ (by decide)
  have hequal : before = '=' ↔ prev = some '=' := h _ (by decide)
  unfold closed? ListScan.closes
  split
  · rfl
  · rfl
  · rfl
  · split_ifs with harrow
    · simpa [hdash, hequal, or_iff_not_imp_left] using harrow
    · simp [hdash, hequal, not_or.mp harrow]
  · simp_all

end Bracket

/-- State of the reading of an argument: the open brackets, the open quote, whether the next
character is escaped, and the character before. -/
structure Reading where
  /-- The open brackets. -/
  opened : List Bracket
  /-- The open quote, if any. -/
  quote : Option Char
  /-- Whether a backslash escapes the next character. -/
  escaped : Bool
  /-- The character before, if any. -/
  prev : Option Char
deriving DecidableEq, Repr

namespace Reading

/-- The state in front of an argument. -/
def start : Reading :=
  ⟨[], none, false, none⟩

/-- Reads a character of a literal with an open quote. -/
def inside (r : Reading) (q c : Char) : Reading :=
  if r.escaped then { r with escaped := false, prev := some c }
  else if c = '\\' then { r with escaped := true, prev := some c }
  else if c = q then { r with quote := none, prev := some c }
  else { r with prev := some c }

/-- Reads a character outside literals: a bracket closes only what is open, and commas stand in
brackets. -/
def outside? (r : Reading) (c : Char) : Option Reading :=
  if ListScan.isQuote c then some { r with quote := some c, prev := some c }
  else
    match Bracket.opened? c with
    | some b => some { r with opened := b :: r.opened, prev := some c }
    | none =>
      match Bracket.closed? r.prev c with
      | some b =>
        if b ∈ r.opened then some { r with opened := r.opened.erase b, prev := some c } else none
      | none => if c = ',' ∧ r.opened = [] then none else some { r with prev := some c }

/-- Reads one character. -/
def step? (r : Reading) (c : Char) : Option Reading :=
  match r.quote with
  | some q => some (r.inside q c)
  | none => r.outside? c

/-- Reads a text. -/
def run? (r : Reading) (text : List Char) : Option Reading :=
  text.foldlM step? r

/-- No literal that ends in a text ends in a backslash, where the text is read from a state. -/
def EndsPlainly (r : Reading) (text : List Char) : Prop :=
  ∀ front q back r', text = front ++ q :: back → r.run? front = some r' →
    r'.quote = some q → r'.escaped = false → r'.prev ≠ some '\\'

end Reading

/-- An argument of a call: a trimmed text with its brackets balanced and its literals closed, and
with no comma outside of both. -/
structure IsArgument (text : List Char) : Prop where
  /-- It has a character. -/
  ne_nil : text ≠ []
  /-- No blanks surround it. -/
  trimmed : trim text = text
  /-- At its end, no literal and no bracket is open. -/
  closed : ∃ r, Reading.start.run? text = some r ∧ r.quote = none ∧ r.opened = []

instance (text : List Char) : Decidable (IsArgument text) :=
  decidable_of_iff
    (text ≠ [] ∧ trim text = text ∧
      ((Reading.start.run? text).any fun r => r.quote.isNone && r.opened.isEmpty) = true) <| by
    simp only [Option.any_eq_true, Bool.and_eq_true, Option.isNone_iff_eq_none, List.isEmpty_iff]
    exact ⟨fun ⟨hne, htrim, hclosed⟩ => ⟨hne, htrim, hclosed⟩,
      fun ⟨hne, htrim, hclosed⟩ => ⟨hne, htrim, hclosed⟩⟩

/-- A text in brackets. -/
def bracketed (opening closing : Char) (text : List Char) : List Char :=
  opening :: (text ++ [closing])

/-- Reads one character of a call, unless it closes the call. -/
def CallScan.step? (s : CallScan) (c : Char) : Option CallScan :=
  match s.quote with
  | some q =>
    if s.escaped then some { s with escaped := false }
    else if c = '\\' then some { s with escaped := true }
    else if c = q then some { s with quote := none }
    else some s
  | none =>
    if ListScan.isQuote c then some { s with quote := some c }
    else if c = '(' then some { s with depth := s.depth + 1 }
    else if c = ')' then if s.depth = 0 then none else some { s with depth := s.depth - 1 }
    else some s

/-- The arguments of a call are what its scan takes in. -/
theorem argumentsFrom_cons (s : CallScan) (c : Char) (rest : List Char) :
    argumentsFrom s (c :: rest) =
      match s.step? c with
      | some s' => (argumentsFrom s' rest).map (c :: ·) id
      | none => ([], true) := by
  obtain ⟨depth, quote, escaped⟩ := s
  cases quote with
  | some q =>
    simp only [argumentsFrom, CallScan.step?]
    split_ifs <;> rfl
  | none =>
    simp only [argumentsFrom, CallScan.step?]
    split_ifs <;> rfl

namespace Reading

variable {r r' : Reading} {s : ListScan} {c : Char} {text rest : List Char}

/-- A text is read from its first character on. -/
theorem run?_cons : r.run? (c :: text) = (r.step? c).bind (·.run? text) :=
  rfl

/-! ## What every state of a reading has -/

/-- An escape is within a literal, and a quote character opens a literal. -/
structure Sound (r : Reading) : Prop where
  /-- Behind the backslash of an escape, the literal goes on. -/
  escaped : r.escaped = true → r.quote ≠ none ∧ r.prev = some '\\'
  /-- The open quote is a quote character. -/
  quote : ∀ q, r.quote = some q → ListScan.isQuote q = true

/-- Nothing is open at the start. -/
theorem sound_start : start.Sound :=
  ⟨nofun, nofun⟩

/-- What can happen outside literals: a quote opens one, a bracket opens or closes, or another
character is passed over. -/
theorem outside?_cases (h : r.outside? c = some r') :
    (ListScan.isQuote c = true ∧ r' = { r with quote := some c, prev := some c }) ∨
      (ListScan.isQuote c = false ∧
        ((∃ b, Bracket.opened? c = some b ∧
            r' = { r with opened := b :: r.opened, prev := some c }) ∨
          (∃ b ∈ r.opened, Bracket.opened? c = none ∧ Bracket.closed? r.prev c = some b ∧
            r' = { r with opened := r.opened.erase b, prev := some c }) ∨
          (Bracket.opened? c = none ∧ Bracket.closed? r.prev c = none ∧
            ¬(c = ',' ∧ r.opened = []) ∧ r' = { r with prev := some c }))) := by
  unfold outside? at h
  split at h
  · exact .inl ⟨‹_›, (Option.some.inj h).symm⟩
  · refine .inr ⟨Bool.eq_false_iff.mpr ‹_›, ?_⟩
    split at h
    · exact .inl ⟨_, ‹_›, (Option.some.inj h).symm⟩
    · split at h
      · split at h
        · exact .inr (.inl ⟨_, ‹_›, ‹_›, ‹_›, (Option.some.inj h).symm⟩)
        · cases h
      · split at h
        · cases h
        · exact .inr (.inr ⟨‹_›, ‹_›, ‹_›, (Option.some.inj h).symm⟩)

/-- Every step remembers the character it reads. -/
theorem prev_of_step? (h : r.step? c = some r') : r'.prev = some c := by
  unfold step? at h
  split at h
  · obtain rfl := Option.some.inj h
    unfold inside
    split
    · rfl
    · split
      · rfl
      · split <;> rfl
  · obtain ⟨-, rfl⟩ | ⟨-, ⟨b, -, rfl⟩ | ⟨b, -, -, -, rfl⟩ | ⟨-, -, -, rfl⟩⟩ := outside?_cases h
    all_goals rfl

/-- A reading remembers the last character of a text. -/
theorem prev_of_run? (h : r.run? text = some r') : r'.prev = text.getLast?.or r.prev := by
  induction text generalizing r with
  | nil =>
    obtain rfl := Option.some.inj h
    rfl
  | cons c text ih =>
    obtain ⟨r₁, hstep, hrun⟩ := Option.bind_eq_some_iff.mp h
    rw [ih hrun, prev_of_step? hstep, List.getLast?_cons]
    cases text.getLast? <;> rfl

/-- A text without backslashes ends all literals plainly. -/
theorem endsPlainly_of_not_mem (h : '\\' ∉ text) : start.EndsPlainly text := by
  rintro front q back r' rfl hrun - - hprev
  rw [prev_of_run? hrun, start, Option.or_none] at hprev
  exact h (List.mem_append_left _ (List.mem_of_getLast? hprev))

/-- Each character keeps a reading sound. -/
theorem Sound.step? (hr : r.Sound) (h : r.step? c = some r') : r'.Sound := by
  unfold Reading.step? at h
  split at h
  case h_1 q hq =>
    obtain rfl := Option.some.inj h
    unfold inside
    split
    · exact ⟨nofun, hr.quote⟩
    · split
      · rename_i hc
        exact ⟨fun _ => ⟨by rw [hq]; nofun, by rw [hc]⟩, hr.quote⟩
      · split
        · exact ⟨fun he => absurd he ‹_›, nofun⟩
        · exact ⟨fun he => absurd he ‹_›, hr.quote⟩
  case h_2 hq =>
    have hescaped : r.escaped = false := Bool.eq_false_iff.mpr fun he => (hr.escaped he).1 hq
    obtain ⟨hquote, rfl⟩ | ⟨-, ⟨b, -, rfl⟩ | ⟨b, -, -, -, rfl⟩ | ⟨-, -, -, rfl⟩⟩ :=
      outside?_cases h
    · refine ⟨fun he => absurd he (Bool.eq_false_iff.mp hescaped), fun q hq => ?_⟩
      obtain rfl := Option.some.inj hq
      exact hquote
    all_goals exact ⟨fun he => absurd he (Bool.eq_false_iff.mp hescaped), hr.quote⟩

/-- Every text keeps a reading sound. -/
theorem Sound.run? (hr : r.Sound) (h : r.run? text = some r') : r'.Sound := by
  induction text generalizing r with
  | nil => exact Option.some.inj h ▸ hr
  | cons c text ih =>
    obtain ⟨r₁, hstep, hrun⟩ := Option.bind_eq_some_iff.mp h
    exact ih (hr.step? hstep) hrun

/-! ## The search for the closing parenthesis -/

/-- What the search for the closing parenthesis keeps of a reading. -/
def callScan (r : Reading) : CallScan :=
  ⟨r.opened.count .round, r.quote, r.escaped⟩

/-- The search takes a character as the reading does. -/
theorem step?_callScan (h : r.step? c = some r') : r.callScan.step? c = some r'.callScan := by
  obtain ⟨opened, quote, escaped, prev⟩ := r
  cases quote with
  | some q =>
    obtain rfl := Option.some.inj h
    rw [inside]
    split_ifs <;> simp_all [callScan, CallScan.step?]
  | none =>
    simp only [callScan, CallScan.step?]
    obtain ⟨hquote, rfl⟩ | ⟨hquote, ⟨b, hb, rfl⟩ | ⟨b, hb, hopened, hclosed, rfl⟩ |
      ⟨hopened, hclosed, -, rfl⟩⟩ := outside?_cases h
    · rw [if_pos hquote]
    · have hopen : c = '(' ↔ b = .round := by
        rw [← Bracket.opened?_eq_some_round_iff, hb, Option.some_inj]
      have hclose : c ≠ ')' := by
        rintro rfl
        cases hb
      by_cases hround : b = .round
      · simp [hquote, hopen, hround]
      · simp [hquote, hopen, hclose, hround]
    · have hopen : c ≠ '(' := by
        rintro rfl
        cases hopened
      have hclose : c = ')' ↔ b = .round := by
        rw [← Bracket.closed?_eq_some_round_iff, hclosed, Option.some_inj]
      by_cases hround : b = .round
      · subst hround
        have hpos : opened.count .round ≠ 0 := (List.count_pos_iff.mpr hb).ne'
        simp [hquote, hopen, hclose, hpos]
      · simp [hquote, hopen, hclose, hround, List.count_erase_of_ne (Ne.symm hround)]
    · have hopen : c ≠ '(' := by
        rintro rfl
        cases hopened
      have hclose : c ≠ ')' := by
        rintro rfl
        cases hclosed
      simp [hquote, hopen, hclose]

/-- The search takes in a text that the reading takes in. -/
theorem argumentsFrom_append (h : r.run? text = some r') :
    argumentsFrom r.callScan (text ++ rest) =
      (argumentsFrom r'.callScan rest).map (text ++ ·) id := by
  induction text generalizing r with
  | nil =>
    obtain rfl := Option.some.inj h
    rfl
  | cons c text ih =>
    obtain ⟨r₁, hstep, hrun⟩ := Option.bind_eq_some_iff.mp h
    rw [List.cons_append, argumentsFrom_cons, step?_callScan hstep]
    simp only [ih hrun]
    rfl

/-! ## The cut at the commas -/

/-- The scan of a list is where the reading is, as far as the scan can tell. -/
structure Follows (s : ListScan) (r : Reading) : Prop where
  /-- The scan counts the open brackets. -/
  depth : s.depth = r.opened.length
  /-- The same quote is open. -/
  quote : s.quote = r.quote
  /-- The characters before look alike. -/
  prev : ∀ c ∈ ['\\', '-', '='], s.prev = c ↔ r.prev = some c

/-- Behind a character, the characters before look alike. -/
private theorem prev_step_iff (s : ListScan) (h : r'.prev = some c) :
    ∀ d ∈ ['\\', '-', '='], (s.step c).prev = d ↔ r'.prev = some d := by
  intro d _
  rw [h, Option.some_inj, s.prev_step]

/-- Within a literal, the scan takes a character as the reading does, unless it ends the literal
behind a backslash. -/
theorem Follows.step_inside {q : Char} (hs : Follows s r) (hr : r.Sound) (hq : r.quote = some q)
    (hplain : c = q → r.escaped = false → r.prev ≠ some '\\') :
    s.separates c = false ∧ Follows (s.step c) (r.inside q c) := by
  have hstep : r.step? c = some (r.inside q c) := by rw [step?, hq]
  have hprev := prev_step_iff s (prev_of_step? hstep)
  obtain ⟨depth, quote, prev⟩ := s
  obtain ⟨rfl, rfl, hbefore⟩ := hs
  obtain ⟨opened, quote, escaped, before⟩ := r
  obtain rfl : quote = some q := hq
  have hbackslash : prev = '\\' ↔ before = some '\\' := hbefore _ List.mem_cons_self
  have hquote : q ≠ '\\' := by
    rintro rfl
    cases hr.quote _ rfl
  refine ⟨rfl, ⟨?_, ?_, hprev⟩⟩
  · rw [inside]
    split_ifs <;> rfl
  · rw [ListScan.step, inside]
    cases escaped with
    | true =>
      have hprev : prev = '\\' := hbackslash.mpr (hr.escaped rfl).2
      simp [hprev]
    | false =>
      by_cases hescape : c = '\\'
      · simp [hescape, Ne.symm hquote]
      · by_cases hend : c = q
        · -- only here do the two differ: the scan keeps a literal open behind a backslash
          have hprev : prev ≠ '\\' := mt hbackslash.mp (hplain hend rfl)
          simp [hend, hquote, hprev]
        · simp [hescape, hend]

/-- Outside literals, the scan takes a character as the reading does. -/
theorem Follows.step_outside (hs : Follows s r) (hq : r.quote = none)
    (h : r.outside? c = some r') : s.separates c = false ∧ Follows (s.step c) r' := by
  have hstep : r.step? c = some r' := by rw [step?, hq, h]
  have hprev := prev_step_iff s (prev_of_step? hstep)
  obtain ⟨depth, quote, prev⟩ := s
  obtain ⟨rfl, rfl, hbefore⟩ := hs
  obtain ⟨opened, quote, escaped, before⟩ := r
  obtain rfl : quote = none := hq
  have hcloses : ListScan.closes prev c = (Bracket.closed? before c).isSome :=
    (Bracket.isSome_closed? hbefore).symm
  have hopens : ListScan.opens c = (Bracket.opened? c).isSome := Bracket.isSome_opened?.symm
  obtain ⟨hquote, rfl⟩ | ⟨hquote, ⟨b, hb, rfl⟩ | ⟨b, hb, hopened, hclosed, rfl⟩ |
    ⟨hopened, hclosed, hcomma, rfl⟩⟩ := outside?_cases h
  · have hcomma : c ≠ ',' := by
      rintro rfl
      cases hquote
    exact ⟨by simp [ListScan.separates, hcomma], by simp [ListScan.step, hquote],
      by simp [ListScan.step, hquote], hprev⟩
  · have hcomma : c ≠ ',' := by
      rintro rfl
      cases hb
    rw [hb] at hopens
    exact ⟨by simp [ListScan.separates, hcomma], by simp [ListScan.step, hquote, hopens],
      by simp [ListScan.step, hquote, hopens], hprev⟩
  · have hcomma : c ≠ ',' := by
      rintro rfl
      cases hclosed
    rw [hopened] at hopens
    rw [hclosed] at hcloses
    exact ⟨by simp [ListScan.separates, hcomma],
      by simp [ListScan.step, hquote, hopens, hcloses, List.length_erase_of_mem hb],
      by simp [ListScan.step, hquote, hopens, hcloses], hprev⟩
  · rw [hopened] at hopens
    rw [hclosed] at hcloses
    rw [not_and'] at hcomma
    exact ⟨by simpa [ListScan.separates] using hcomma,
      by simp [ListScan.step, hquote, hopens, hcloses],
      by simp [ListScan.step, hquote, hopens, hcloses], hprev⟩

/-- The scan takes a character as the reading does, unless it ends a literal behind a backslash. -/
theorem Follows.step (hs : Follows s r) (hr : r.Sound) (h : r.step? c = some r')
    (hplain : r.quote = some c → r.escaped = false → r.prev ≠ some '\\') :
    s.separates c = false ∧ Follows (s.step c) r' := by
  unfold step? at h
  split at h
  case h_1 q hq =>
    obtain rfl := Option.some.inj h
    exact hs.step_inside hr hq fun hc => hplain (hc ▸ hq)
  case h_2 hq => exact hs.step_outside hq h

/-- No character of a text in which no literal ends in a backslash separates. -/
theorem Follows.joins (hs : Follows s r) (hr : r.Sound) (h : r.run? text = some r')
    (hplain : r.EndsPlainly text) : s.Joins text ∧ Follows (s.run text) r' := by
  induction text generalizing r s with
  | nil => exact ⟨trivial, Option.some.inj h ▸ hs⟩
  | cons c text ih =>
    obtain ⟨r₁, hstep, hrun⟩ := Option.bind_eq_some_iff.mp h
    obtain ⟨hjoins, hs₁⟩ := hs.step hr hstep (hplain [] c text r rfl rfl)
    have htext : r₁.EndsPlainly text := by
      rintro front q back r₂ rfl hrun
      refine hplain (c :: front) q back r₂ rfl ?_
      rw [run?_cons, hstep]
      exact hrun
    obtain ⟨hrest, hend⟩ := ih hs₁ (hr.step? hstep) hrun htext
    exact ⟨⟨hjoins, hrest⟩, hend⟩

/-- Where a list begins, the scan is where the reading is. -/
theorem follows_start : Follows .start start :=
  ⟨rfl, rfl, fun _ hd => iff_of_false
    (ne_of_mem_of_not_mem hd (by decide : ListScan.start.prev ∉ ['\\', '-', '='])).symm nofun⟩

end Reading

/-! ## Plain arguments -/

/-- An identifier: one or more characters of words. -/
structure IsIdentifier (name : List Char) : Prop where
  /-- It has a character. -/
  ne_nil : name ≠ []
  /-- All its characters are those of words. -/
  word : ∀ c ∈ name, isWord c = true

instance (name : List Char) : Decidable (IsIdentifier name) :=
  decidable_of_iff (name ≠ [] ∧ ∀ c ∈ name, isWord c = true)
    ⟨fun h => ⟨h.1, h.2⟩, fun h => ⟨h.1, h.2⟩⟩

/-- The characters of words are plain. -/
theorem isPlain_of_isWord {c : Char} (h : isWord c = true) : isPlain c = true :=
  isPlain_of_forall (by decide) h

/-- No blanks are in an identifier. -/
theorem IsIdentifier.isBlank {name : List Char} (h : IsIdentifier name) :
    ∀ c ∈ name, isBlank c = false :=
  fun c hc => isBlank_of_isWord (h.word c hc)

/-- Plain characters are passed over. -/
theorem Reading.step?_of_isPlain {r : Reading} {c : Char} (hc : isPlain c = true)
    (hquote : r.quote = none) : r.step? c = some { r with prev := some c } := by
  simp only [isPlain, Bool.not_eq_true', Bool.or_eq_false_iff, beq_eq_false_iff_ne] at hc
  obtain ⟨⟨⟨⟨⟨⟨hisQuote, hopens⟩, hround⟩, hsquare⟩, hcurly⟩, hangle⟩, hcomma⟩ := hc
  have hopened : Bracket.opened? c = none := by
    rw [← Option.not_isSome_iff_eq_none, Bracket.isSome_opened?, hopens]
    exact Bool.false_ne_true
  have hclosed : Bracket.closed? r.prev c = none := by
    unfold Bracket.closed?
    split <;> first | contradiction | rfl
  simp only [step?, hquote, outside?, hisQuote, hopened, hclosed, hcomma, false_and, if_false,
    Bool.false_eq_true]

/-! ## Texts with their brackets closed -/

/-- What holds of items and of texts with a comma between them holds of lists of items. -/
theorem joinArguments_of_forall {P : List Char → Prop} {items : List (List Char)} (hnil : P [])
    (hjoin : ∀ s t, P s → P t → P (s ++ ',' :: ' ' :: t)) (h : ∀ p ∈ items, P p) :
    P (joinArguments items) := by
  induction items with
  | nil => exact hnil
  | cons p items ih =>
    obtain ⟨hp, hrest⟩ := List.forall_mem_cons.mp h
    cases items with
    | nil => exact (joinArguments_singleton p).symm ▸ hp
    | cons p' items =>
      rw [joinArguments_cons_cons]
      exact hjoin p _ hp (ih hrest)

/-- The characters of each argument are in the list of all. -/
theorem mem_joinArguments {c : Char} {p : List Char} {items : List (List Char)} (hp : p ∈ items)
    (hc : c ∈ p) : c ∈ joinArguments items := by
  induction items with
  | nil => cases hp
  | cons q items ih =>
    cases items with
    | nil =>
      obtain rfl := List.mem_singleton.mp hp
      rwa [joinArguments_singleton]
    | cons q' items =>
      rw [joinArguments_cons_cons, List.mem_append, List.mem_cons, List.mem_cons]
      rcases List.mem_cons.mp hp with rfl | hp
      · exact .inl hc
      · exact .inr (.inr (.inr (ih hp)))

/-- A text in brackets ends with the closing one. -/
theorem getLast?_bracketed (opening closing : Char) (text : List Char) :
    (bracketed opening closing text).getLast? = some closing := by
  rw [bracketed, ← List.cons_append, List.getLast?_concat]

/-- From a number of open brackets on, a reading takes in a text without literals and closes the
brackets that it opens. -/
def Keeps (level : Nat) (text : List Char) : Prop :=
  ∀ r : Reading, r.quote = none → level ≤ r.opened.length →
    ∃ r', r.run? text = some r' ∧ r'.quote = none ∧ r'.opened = r.opened

namespace Keeps

variable {level : Nat} {t u : List Char} {c : Char} {items : List (List Char)}

/-- What leaves the brackets alone at every level does so from any level on. -/
theorem mono (h : Keeps 0 t) : Keeps level t :=
  fun r hquote _ => h r hquote (Nat.zero_le _)

/-- The empty text opens and closes nothing. -/
theorem nil : Keeps level [] :=
  fun r hquote _ => ⟨r, rfl, hquote, rfl⟩

/-- Texts that leave the brackets alone do so one after the other. -/
theorem append (ht : Keeps level t) (hu : Keeps level u) : Keeps level (t ++ u) := by
  intro r hquote hlevel
  obtain ⟨r₁, hrun₁, hquote₁, hopened₁⟩ := ht r hquote hlevel
  obtain ⟨r₂, hrun₂, hquote₂, hopened₂⟩ := hu r₁ hquote₁ (hopened₁ ▸ hlevel)
  refine ⟨r₂, ?_, hquote₂, hopened₂.trans hopened₁⟩
  rw [Reading.run?, List.foldlM_append]
  exact Option.bind_eq_some_iff.mpr ⟨r₁, hrun₁, hrun₂⟩

/-- Plain characters open and close nothing. -/
theorem of_isPlain (h : ∀ c ∈ t, isPlain c = true) : Keeps level t := by
  induction t with
  | nil => exact nil
  | cons c t ih =>
    obtain ⟨hc, ht⟩ := List.forall_mem_cons.mp h
    refine append (t := [c]) (fun r hquote _ => ?_) (ih ht)
    exact ⟨{ r with prev := some c }, Option.bind_eq_some_iff.mpr
      ⟨_, Reading.step?_of_isPlain hc hquote, rfl⟩, hquote, rfl⟩

/-- In brackets, commas part nothing. -/
theorem comma : Keeps 1 [','] := by
  intro r hquote hlevel
  have hopened : r.opened ≠ [] := List.length_pos_iff.mp hlevel
  refine ⟨{ r with prev := some ',' }, ?_, hquote, rfl⟩
  simp [Reading.run?, Reading.step?, Reading.outside?, ListScan.isQuote, backtick,
    Bracket.opened?, Bracket.closed?, hquote, hopened]

/-- The point of an arrow closes no bracket. -/
theorem arrow : Keeps level "->".toList := by
  intro r hquote _
  refine ⟨{ r with prev := some '>' }, ?_, hquote, rfl⟩
  simp [Reading.run?, Reading.step?, Reading.outside?, ListScan.isQuote, backtick,
    Bracket.opened?, Bracket.closed?, hquote]

/-- Brackets around a text are closed again, where no arrow ends at the closing one. -/
theorem bracketed {opening closing : Char}
    (hbrackets : (opening, closing) ∈ [('(', ')'), ('[', ']'), ('<', '>')]) (h : Keeps 1 t)
    (hlast : ∀ d ∈ t.getLast?, d ∉ ['-', '=']) :
    Keeps level (Code.bracketed opening closing t) := by
  intro r hquote _
  have hpair : ListScan.isQuote opening = false ∧ opening ∉ ['-', '='] ∧
      ListScan.isQuote closing = false ∧ Bracket.opened? closing = none ∧
      ∃ b, Bracket.opened? opening = some b ∧
        ∀ d, d ∉ ['-', '='] → Bracket.closed? (some d) closing = some b := by
    simp only [List.mem_cons, Prod.mk.injEq, List.not_mem_nil, or_false] at hbrackets
    rcases hbrackets with ⟨rfl, rfl⟩ | ⟨rfl, rfl⟩ | ⟨rfl, rfl⟩
    · exact ⟨rfl, by decide, rfl, rfl, .round, rfl, fun _ _ => rfl⟩
    · exact ⟨rfl, by decide, rfl, rfl, .square, rfl, fun _ _ => rfl⟩
    · refine ⟨rfl, by decide, rfl, rfl, .angle, rfl, fun d hd => ?_⟩
      simp only [List.mem_cons, List.not_mem_nil, or_false] at hd
      simp only [Bracket.closed?, Option.some_inj, if_neg hd]
  obtain ⟨hopening, hpoint, hclosing, hnone, b, hopened, hclosed⟩ := hpair
  have hfirst :
      r.step? opening = some { r with opened := b :: r.opened, prev := some opening } := by
    simp only [Reading.step?, Reading.outside?, hquote, hopening, hopened, Bool.false_eq_true,
      if_false]
  obtain ⟨r₂, hrun, hquote₂, hopened₂⟩ :=
    h { r with opened := b :: r.opened, prev := some opening } hquote (Nat.succ_pos _)
  obtain ⟨d, hd, hprev⟩ : ∃ d, d ∉ ['-', '='] ∧ r₂.prev = some d := by
    rw [Reading.prev_of_run? hrun]
    cases hd : t.getLast? with
    | none => exact ⟨opening, hpoint, rfl⟩
    | some d => exact ⟨d, hlast d hd, rfl⟩
  have hend : r₂.step? closing = some { r₂ with opened := r.opened, prev := some closing } := by
    simp only [Reading.step?, Reading.outside?, hquote₂, hclosing, hnone, hprev, hclosed d hd,
      hopened₂, Bool.false_eq_true, if_false, List.mem_cons_self, if_true, List.erase_cons_head]
  refine ⟨{ r₂ with opened := r.opened, prev := some closing }, ?_, hquote₂, rfl⟩
  rw [Code.bracketed, Reading.run?_cons, hfirst, Option.bind_some, Reading.run?,
    List.foldlM_append]
  exact Option.bind_eq_some_iff.mpr ⟨r₂, hrun, Option.bind_eq_some_iff.mpr ⟨_, hend, rfl⟩⟩

/-- In brackets, a reading takes in a list of items. -/
theorem joinArguments (h : ∀ p ∈ items, Keeps 1 p) : Keeps 1 (joinArguments items) := by
  have hcomma : Keeps 1 [',', ' '] := comma.append (of_isPlain (by decide))
  exact joinArguments_of_forall nil (fun _ _ hs ht => hs.append (hcomma.append ht)) h

/-- A trimmed text that closes its brackets and has commas only in them is an argument. -/
theorem isArgument (h : Keeps 0 t) (hne : t ≠ []) (htrim : trim t = t) : IsArgument t :=
  ⟨hne, htrim, h .start rfl (Nat.zero_le _)⟩

end Keeps

/-- A trimmed text of plain characters is an argument. -/
theorem isArgument_of_isPlain {text : List Char} (hne : text ≠ []) (htrim : trim text = text)
    (h : ∀ c ∈ text, isPlain c = true) : IsArgument text :=
  (Keeps.of_isPlain h).isArgument hne htrim

/-- A list whose first argument is not empty is not empty. -/
theorem joinArguments_ne_nil {p : List Char} (hp : p ≠ []) {items : List (List Char)} :
    joinArguments (p :: items) ≠ [] := by
  cases items with
  | nil => rwa [joinArguments_singleton]
  | cons p' items =>
    rw [joinArguments_cons_cons]
    exact List.append_ne_nil_of_left_ne_nil hp _

/-- A list ends as its items do. -/
theorem forall_getLast?_joinArguments {P : Char → Prop} {items : List (List Char)}
    (h : ∀ p ∈ items, p ≠ [] ∧ ∀ c ∈ p.getLast?, P c) :
    ∀ c ∈ (joinArguments items).getLast?, P c := by
  induction items with
  | nil => exact nofun
  | cons p items ih =>
    obtain ⟨hp, hrest⟩ := List.forall_mem_cons.mp h
    cases items with
    | nil =>
      rw [joinArguments_singleton]
      exact hp.2
    | cons p' items =>
      have hne : joinArguments (p' :: items) ≠ [] :=
        joinArguments_ne_nil (hrest p' List.mem_cons_self).1
      rw [joinArguments_cons_cons, List.getLast?_append_of_ne_nil _ (List.cons_ne_nil _ _),
        List.getLast?_cons_of_ne_nil (List.cons_ne_nil _ _), List.getLast?_cons_of_ne_nil hne]
      exact ih hrest


/-! ## Calls -/

variable {p : List Char} {arguments : List (List Char)}

/-- Behind an argument, the search is where it was in front of it. -/
theorem IsArgument.argumentsFrom_append (h : IsArgument p) (rest : List Char) :
    argumentsFrom ⟨0, none, false⟩ (p ++ rest) =
      (argumentsFrom ⟨0, none, false⟩ rest).map (p ++ ·) id := by
  obtain ⟨r, hrun, hquote, hopened⟩ := h.closed
  have hescaped : r.escaped = false :=
    Bool.eq_false_iff.mpr fun he => ((Reading.sound_start.run? hrun).escaped he).1 hquote
  have hscan : r.callScan = ⟨0, none, false⟩ := by
    rw [Reading.callScan, hopened, hquote, hescaped]
    rfl
  have happend : argumentsFrom Reading.start.callScan (p ++ rest) = _ :=
    Reading.argumentsFrom_append hrun
  rw [hscan] at happend
  exact happend

/-- The arguments end at the parenthesis behind them. -/
theorem argumentsFrom_joinArguments (h : ∀ p ∈ arguments, IsArgument p) (back : List Char) :
    argumentsFrom ⟨0, none, false⟩ (joinArguments arguments ++ ')' :: back) =
      (joinArguments arguments, true) := by
  have hclose : argumentsFrom ⟨0, none, false⟩ (')' :: back) = ([], true) := rfl
  induction arguments with
  | nil => exact hclose
  | cons p arguments ih =>
    have hp : IsArgument p := h p List.mem_cons_self
    cases arguments with
    | nil =>
      rw [joinArguments_singleton, hp.argumentsFrom_append, hclose, Prod.map, List.append_nil]
      rfl
    | cons p' arguments =>
      have hrest := ih fun p hp => h p (List.mem_cons_of_mem _ hp)
      have hcomma (rest : List Char) :
          argumentsFrom ⟨0, none, false⟩ (',' :: ' ' :: rest) =
            (argumentsFrom ⟨0, none, false⟩ rest).map (',' :: ' ' :: ·) id := rfl
      rw [joinArguments_cons_cons, List.append_assoc, hp.argumentsFrom_append, List.cons_append,
        List.cons_append, hcomma, hrest]
      rfl

/-- What follows a text is found behind its bytes. -/
theorem dropBytes?_append (front back : List Char) :
    dropBytes? (byteLength front) (front ++ back) = some back := by
  induction front with
  | nil => cases back <;> rfl
  | cons c front ih =>
    have hpos : 0 < c.utf8Size := c.utf8Size_pos
    obtain ⟨offset, hoffset⟩ : ∃ offset, byteLength (c :: front) = offset + 1 :=
      ⟨byteLength (c :: front) - 1, by rw [byteLength]; omega⟩
    have hsize : c.utf8Size + byteLength front = offset + 1 := hoffset
    rw [hoffset, List.cons_append, dropBytes?, if_pos (by omega), ← hsize, Nat.add_sub_cancel_left,
      ih]

/-- The text between the parentheses of a call is found. -/
theorem balancedArguments?_joinArguments (h : ∀ p ∈ arguments, IsArgument p) (back : List Char) :
    balancedArguments? ('(' :: (joinArguments arguments ++ ')' :: back)) =
      some (joinArguments arguments) := by
  rw [balancedArguments?, argumentsFrom_joinArguments h]
  rfl

/-- An argument in which no literal ends in a backslash leaves nothing open for the cut. -/
theorem IsArgument.isClosedItem (h : IsArgument p) (hplain : Reading.start.EndsPlainly p) :
    IsClosedItem p := by
  obtain ⟨r, hrun, hquote, hopened⟩ := h.closed
  obtain ⟨hjoins, hend⟩ := Reading.follows_start.joins Reading.sound_start hrun hplain
  exact ⟨h.ne_nil, h.trimmed, hjoins,
    hend.depth.trans (List.length_eq_zero_iff.mpr hopened), hend.quote.trans hquote⟩

/-- Arguments in which no literal ends in a backslash are cut apart. -/
theorem splitTopLevel_joinArguments (h : ∀ p ∈ arguments, IsArgument p)
    (hplain : ∀ p ∈ arguments, Reading.start.EndsPlainly p) :
    splitTopLevel (joinArguments arguments) = arguments :=
  splitTopLevel_closedItems fun p hp => (h p hp).isClosedItem (hplain p hp)

/-- A call is written as arguments with commas between them, in parentheses, between any two
texts. The text between the parentheses is found again, and cutting it gives the arguments, unless
a literal ends in a backslash. -/
theorem arguments_recovered (front back : List Char) (arguments : List (List Char))
    (h : ∀ p ∈ arguments, IsArgument p) :
    balancedArgumentsAt? (front ++ '(' :: (joinArguments arguments ++ ')' :: back))
        (byteLength front) = some (joinArguments arguments) ∧
      ((∀ p ∈ arguments, Reading.start.EndsPlainly p) →
        splitTopLevel (joinArguments arguments) = arguments) := by
  refine ⟨?_, splitTopLevel_joinArguments h⟩
  rw [balancedArgumentsAt?, dropBytes?_append, Option.bind_some,
    balancedArguments?_joinArguments h]

/-- Commas in literals and in brackets do not cut. -/
theorem nested_arguments_recovered :
    (balancedArgumentsAt? "eq(\"a, b\", f(x, y));".toList 2).map splitTopLevel =
      some ["\"a, b\"".toList, "f(x, y)".toList] := by
  have harguments : ∀ p ∈ ["\"a, b\"".toList, "f(x, y)".toList], IsArgument p := by decide
  have hplain : ∀ p ∈ ["\"a, b\"".toList, "f(x, y)".toList], Reading.start.EndsPlainly p :=
    fun p hp => Reading.endsPlainly_of_not_mem ((by decide : ∀ p ∈ ["\"a, b\"".toList,
      "f(x, y)".toList], '\\' ∉ p) p hp)
  obtain ⟨hfound, hcut⟩ := arguments_recovered "eq".toList ";".toList _ harguments
  rw [← hcut hplain]
  exact congrArg (Option.map splitTopLevel) hfound

/-- A literal that is one escaped backslash does not end for the cut, so the comma behind it does
not cut. -/
theorem backslash_joins_arguments :
    let arguments := ["\"\\\\\"".toList, "x".toList]
    let line := "f".toList ++ '(' :: (joinArguments arguments ++ ')' :: [])
    (∀ p ∈ arguments, IsArgument p) ∧
      (balancedArgumentsAt? line (byteLength "f".toList)).map splitTopLevel =
        some [joinArguments arguments] ∧
      [joinArguments arguments] ≠ arguments := by
  decide

end Adjudicator.Code
