import Adjudicator.Assistant.Prompt
import Adjudicator.Pattern.Build
import Adjudicator.Pattern.Search
import Adjudicator.Text.Lines
import Adjudicator.Text.Lowercase
import Adjudicator.Text.Search

/-!
# Answers of assistants

An answer consists of sections behind headers. A section that is missing is empty, and of two with
one name the first counts. Lists have one item a line; an item that says there is none does not
count. Code stands between fences.
-/

namespace Adjudicator.Answer

open Text Pattern

/-- The name of a section, in any case. -/
def sectionName : Pattern :=
  choice
    (["description", "inputs", "outputs", "exceptions", "side effects", "returns", "errors",
      "suggestion", "explanation"].map anyCase)

/-- The header of a section at the start of a line, perhaps in bold or as a heading. -/
def header : Pattern :=
  lineStart ++ gap ++ opt (choice ["**", (text "#").plus ++ gap]) ++ group 1 sectionName ++
    opt "**" ++ gap ++ ":" ++ opt "**" ++ (anyOf " \t").star

/-- A letter in upper case, where the long s is a form of the letter. -/
def upperChar (c : Char) : Char :=
  if isAsciiLower c then Char.ofNat (c.toNat - 32) else if c.toNat = 0x17F then 'S' else c

/-- A section of an answer. -/
structure Part where
  /-- The name in capitals. -/
  name : List Char
  /-- The trimmed text. -/
  text : List Char
deriving DecidableEq, Repr

/-- The sections behind headers, each up to the next header. -/
def partsFrom (reply : List Char) : List Match → List Part
  | [] => []
  | m :: rest =>
    let stop := (rest.head?.map Match.start).getD reply.length
    ⟨(m.group 1).map upperChar, trim ((reply.drop m.stop).take (stop - m.stop))⟩ ::
      partsFrom reply rest

/-- The sections of an answer, the first of each name. -/
def parts (reply : List Char) : List Part :=
  (partsFrom reply (header.findAll reply)).foldl
    (fun known p => if known.any fun k => k.name == p.name then known else known ++ [p]) []

/-- The text of a section. -/
def part? (found : List Part) (name : String) : Option (List Char) :=
  (found.find? fun p => p.name == name.toList).map Part.text

/-- The text of a section, empty when it is missing. -/
def partText (found : List Part) (name : String) : List Char :=
  (part? found name).getD []

/-- Items that say that there is none. -/
def noneAnswers : List String :=
  ["none", "n/a", "nothing", "no exceptions", "no side effects", "no errors"]

/-- Whether an item says that there is none. -/
def isNone (item : List Char) : Bool :=
  noneAnswers.contains
    (String.ofList (dropEndWhile (· == '.') (item.map asciiLowerChar)))

/-- A mark in front of an item. -/
def isBullet (c : Char) : Bool :=
  c == '-' || c == '*' || c.toNat == 0x2022

/-- The items of a section. -/
def items (text : List Char) : List (List Char) :=
  ((lines text).map fun line => trim ((trim line).dropWhile isBullet)).filter fun item =>
    !item.isEmpty && !isNone item

/-- The items of a section as strings. -/
def itemsOf (found : List Part) (name : String) : List String :=
  (items (partText found name)).map String.ofList

/-- The first paragraph that is not blank. -/
def firstParagraph (reply : List Char) : List Char :=
  (((splitOn ['\n', '\n'] reply).map trim).find? fun p => !p.isEmpty).getD []

/-- The description of an answer; without its section the first paragraph. -/
def description (found : List Part) (reply : List Char) : String :=
  String.ofList ((part? found "DESCRIPTION").getD (firstParagraph reply))

/-- The expectation of a test that an answer describes. -/
def expectation (reply : List Char) : Expectation :=
  let found := parts reply
  { description := description found reply
    inputs := itemsOf found "INPUTS"
    outputs := itemsOf found "OUTPUTS"
    exceptions := itemsOf found "EXCEPTIONS" }

/-- The behaviour of a method that an answer describes. -/
def behavior (reply : List Char) : Behavior :=
  let found := parts reply
  { description := description found reply
    sideEffects := itemsOf found "SIDE EFFECTS"
    returns := String.ofList (partText found "RETURNS")
    errors := itemsOf found "ERRORS" }

/-- Code between fences. -/
def fencedCode : Pattern :=
  text Prompt.fence ++ (wordOr "+-").star ++ (anyOf " \t").star ++ "\n" ++
    group 1 anything.starLazy ++ Prompt.fence

/-- The first code between fences that is not blank. -/
def codeBlock? (s : List Char) : Option (List Char) :=
  ((fencedCode.find? s).map fun m => trimEnd (m.group 1)).filter fun code => !blank code

/-- The change that an answer proposes: code between fences, first inside its section, or else
the whole section. -/
def fix? (reply : List Char) : Option Fix :=
  let found := parts reply
  let proposal := partText found "SUGGESTION"
  let suggestion :=
    match codeBlock? proposal with
    | some code => some code
    | none =>
      match codeBlock? reply with
      | some code => some code
      | none => if proposal.isEmpty then none else some proposal
  suggestion.map fun s =>
    { suggestion := String.ofList s
      explanation := String.ofList (partText found "EXPLANATION") }

end Adjudicator.Answer

namespace Adjudicator.Assistant

variable {m : Type → Type} [Monad m]

/-- Asks for something that is read out of the answer. -/
def askFor {α : Type} (a : Assistant m) (prompt : String) (read : List Char → α) :
    m (Except AssistantError α) := do
  return (← a.ask prompt).map fun reply => read reply.toList

/-- Asks whether a test and a method disagree. -/
def compare (a : Assistant m) (test source : String) : m (Except AssistantError String) :=
  a.ask (Prompt.divergence test source)

/-- Asks what a test expects. -/
def expectation (a : Assistant m) (test : String) : m (Except AssistantError Expectation) :=
  a.askFor (Prompt.expectation test) Answer.expectation

/-- Asks what a method does. -/
def behavior (a : Assistant m) (source : String) : m (Except AssistantError Behavior) :=
  a.askFor (Prompt.behavior source) Answer.behavior

/-- Asks for a fix; an answer without one counts as empty. -/
def fix (a : Assistant m) (r : FixRequest) : m (Except AssistantError Fix) := do
  match ← a.ask (Prompt.fix r) with
  | .error e => return .error e
  | .ok reply =>
    match Answer.fix? reply.toList with
    | some f => return .ok f
    | none => return .error .emptyResponse

end Adjudicator.Assistant
