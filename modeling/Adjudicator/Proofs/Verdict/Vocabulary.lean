import Adjudicator.Proofs.Pattern.Matches
import Adjudicator.Verdict.Intent

/-!
# The vocabulary of commit messages

What the two patterns for commit messages find, said without patterns. A message speaks of a fix
exactly when one of seventeen words stands alone in it, in any case; it is clear exactly when it
begins like a conventional message or names a ticket.
-/

namespace Adjudicator.Intent

open Text Pattern

/-! ## Fixes -/

/-- The words that speak of a fix. -/
def fixWords : List String :=
  ["fixes", "fixed", "fixing", "fix", "bugs", "bug", "typo", "oops", "reverts", "reverted",
    "revert", "hotfix", "patches", "patched", "patch", "bugfix", "workaround"]

/-- A message in which one of these words stands alone, in any case. -/
def SpeaksOfFix (message : List Char) : Prop :=
  StandsAlone (spelling fixWords) message

private theorem isWord_of_mem_spelling {words : List String} {w : List Char}
    (hwords : ∀ w ∈ words, w ≠ "" ∧ w.toList.all isAsciiLower = true)
    (h : w ∈ spelling words) : w.head?.any isWord = true ∧ w.getLast?.any isWord = true := by
  obtain ⟨word, hmem, hw⟩ := mem_spelling.mp h
  obtain ⟨hne, hletters⟩ := hwords word hmem
  have hall := isWord_of_mem_folded (List.all_eq_true.mp hletters) hw
  have hne' : w ≠ [] := by
    rintro rfl
    exact hne (String.toList_eq_nil_iff.mp (List.forall₂_nil_right_iff.mp hw))
  rw [List.head?_eq_some_head hne', List.getLast?_eq_some_getLast hne']
  exact ⟨hall _ (List.head_mem hne'), hall _ (List.getLast_mem hne')⟩

/-- A message speaks of a fix exactly when one of the words stands alone in it. -/
theorem isFix_iff {message : List Char} : isFix message = true ↔ SpeaksOfFix message := by
  refine found_boundary_iff ?_ fun w => isWord_of_mem_spelling (by decide)
  exact reads_choice_spelling
    (.cons (reads_anyCase_opt "fix" ["es", "ed", "ing"])
    (.cons (reads_anyCase_opt "bug" ["s"])
    (.cons (reads_word "typo")
    (.cons (reads_word "oops")
    (.cons (reads_anyCase_opt "revert" ["s", "ed"])
    (.cons (reads_word "hotfix")
    (.cons (reads_anyCase_opt "patch" ["es", "ed"])
    (.cons (reads_word "bugfix")
    (.cons (reads_word "workaround") .nil)))))))))

instance : DecidablePred SpeaksOfFix := fun _ =>
  decidable_of_iff _ isFix_iff

/-! ## Clear messages -/

/-- The kinds of change that a conventional message begins with. -/
def changeKinds : List String :=
  ["feat", "fix", "refactor", "update", "add", "implement", "improve", "enhance", "change",
    "modify", "perf", "style", "docs", "test", "chore", "build", "ci"]

/-- Scopes of a change: a name in parentheses. -/
def scopes : CharLanguage :=
  {t | ∃ name, t = '(' :: (name ++ [')']) ∧ ')' ∉ name}

/-- Starts of conventional messages: a kind of change, perhaps its scope and an exclamation mark,
a colon and a blank. -/
def conventionalStarts : CharLanguage :=
  several isBlank * (spelling changeKinds * ((scopes + 1) * (({['!']} + 1) *
    ({[':']} * single isBlank))))

/-- Names of tickets: at least two capital letters, a hyphen and a number. -/
def ticketNames : CharLanguage :=
  {t | ∃ letters digits, t = letters ++ '-' :: digits ∧ 2 ≤ letters.length ∧
    (∀ c ∈ letters, isAsciiUpper c = true) ∧ digits ≠ [] ∧ ∀ c ∈ digits, isDigit c = true}

/-- A message that begins like a conventional one or names a ticket. -/
def Clear (message : List Char) : Prop :=
  (∃ start ∈ conventionalStarts, start <+: message) ∨ StandsAlone ticketNames message

private theorem reads_scope : Pattern.Reads ("(" ++ (noneOf ")").star ++ ")") scopes := by
  have h : {['(']} * several (fun c => !")".toList.contains c) * {[')']} = scopes := by
    ext t
    simp only [Language.mem_mul]
    constructor
    · rintro ⟨_, ⟨_, rfl, name, hname, rfl⟩, _, rfl, rfl⟩
      refine ⟨name, rfl, fun hmem => ?_⟩
      exact absurd (hname _ hmem) (by decide)
    · rintro ⟨name, rfl, hname⟩
      refine ⟨'(' :: name, ⟨['('], rfl, name, fun c hc => ?_, rfl⟩, [')'], rfl, rfl⟩
      have hne : c ≠ ')' := fun h => hname (h ▸ hc)
      simpa using hne
  exact h ▸ reads_append (reads_append (reads_char '(') reads_star_one) (reads_char ')')

private theorem conventionalStart_found_iff {message : List Char} :
    conventionalStart.found message = true ↔ ∃ start ∈ conventionalStarts, start <+: message := by
  have hoffers : conventionalStart.offers =
      (textStart ++ (gap ++ (choice (changeKinds.map anyCase) ++
        (opt ("(" ++ (noneOf ")").star ++ ")") ++
          (opt "!" ++ (":" ++ Pattern.blank)))))).offers := by
    funext c
    simp only [conventionalStart, changeKinds, offers_append, List.flatMap_assoc]
  rw [found_congr hoffers]
  exact found_textStart_iff (reads_append reads_star_one
    (reads_append (reads_choice_anyCase changeKinds) (reads_append (reads_opt reads_scope)
      (reads_append (reads_opt (reads_char '!')) (reads_append (reads_char ':') reads_one)))))

private theorem reads_ticketName :
    Pattern.Reads (one isAsciiUpper ++ ((one isAsciiUpper).plus ++ ("-" ++ digit.plus)))
      ticketNames := by
  have h : single isAsciiUpper * ((single isAsciiUpper * several isAsciiUpper) *
      ({['-']} * (single isDigit * several isDigit))) = ticketNames := by
    ext t
    simp only [Language.mem_mul]
    constructor
    · rintro ⟨_, ⟨a, ha, rfl⟩, _, ⟨_, ⟨_, ⟨b, hb, rfl⟩, letters, hletters, rfl⟩, _,
        ⟨_, rfl, _, ⟨_, ⟨x, hx, rfl⟩, digits, hdigits, rfl⟩, rfl⟩, rfl⟩, rfl⟩
      refine ⟨a :: b :: letters, x :: digits, rfl, ?_, ?_, List.cons_ne_nil _ _, ?_⟩
      · simp only [List.length_cons]
        omega
      · exact List.forall_mem_cons.mpr ⟨ha, List.forall_mem_cons.mpr ⟨hb, hletters⟩⟩
      · exact List.forall_mem_cons.mpr ⟨hx, hdigits⟩
    · rintro ⟨letters, digits, rfl, hlength, hletters, hne, hdigits⟩
      match letters, digits, hlength, hne with
      | a :: b :: letters, x :: digits, _, _ =>
        simp only [List.forall_mem_cons] at hletters hdigits
        obtain ⟨ha, hb, hletters⟩ := hletters
        obtain ⟨hx, hdigits⟩ := hdigits
        exact ⟨[a], ⟨a, ha, rfl⟩, _, ⟨_, ⟨[b], ⟨b, hb, rfl⟩, letters, hletters, rfl⟩, _,
          ⟨['-'], rfl, _, ⟨[x], ⟨x, hx, rfl⟩, digits, hdigits, rfl⟩, rfl⟩, rfl⟩, rfl⟩
  exact h ▸ reads_append reads_one (reads_append reads_plus_one
    (reads_append (reads_char '-') reads_plus_one))

private theorem ticket_found_iff {message : List Char} :
    ticket.found message = true ↔ StandsAlone ticketNames message := by
  have hoffers : ticket.offers =
      (boundary ++ (one isAsciiUpper ++ ((one isAsciiUpper).plus ++ ("-" ++ digit.plus))) ++
        boundary).offers := by
    funext c
    simp only [ticket, offers_append, List.flatMap_assoc]
  rw [found_congr hoffers]
  refine found_boundary_iff reads_ticketName ?_
  rintro _ ⟨letters, digits, rfl, hlength, hletters, hne, hdigits⟩
  have hne' : letters ≠ [] := by
    rintro rfl
    cases hlength
  rw [List.head?_append_of_ne_nil _ hne', List.head?_eq_some_head hne',
    List.getLast?_append_of_ne_nil _ (List.cons_ne_nil _ _), List.getLast?_cons_of_ne_nil hne,
    List.getLast?_eq_some_getLast hne]
  constructor
  · have hupper := hletters _ (List.head_mem hne')
    exact isWord_of_isAsciiLetter (by rw [isAsciiLetter, hupper, Bool.true_or])
  · exact isWord_of_isDigit (hdigits _ (List.getLast_mem hne))

/-- A message is clear exactly when it begins like a conventional one or names a ticket. -/
theorem isClear_iff {message : List Char} : isClear message = true ↔ Clear message := by
  rw [isClear, Bool.or_eq_true, conventionalStart_found_iff, ticket_found_iff, Clear]

instance : DecidablePred Clear := fun _ =>
  decidable_of_iff _ isClear_iff

end Adjudicator.Intent
