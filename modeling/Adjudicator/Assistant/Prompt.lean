import Adjudicator.Assistant.Basic
import Adjudicator.Code.Literal
import Adjudicator.Text.Blank

/-!
# Prompts

The questions put to an assistant. Each asks for an answer in a form that can be read back. Code
stands between fences and loses the blanks at its end.
-/

namespace Adjudicator.Prompt

open Text

/-- Three quotes of template texts. -/
def fence : String :=
  String.ofList (List.replicate 3 Code.backtick)

/-- Code between fences under a title. -/
def fenced (title code : String) : String :=
  s!"{title}:\n{fence}\n" ++ String.ofList (trimEnd code.toList) ++ s!"\n{fence}\n"

/-- Asks whether a test and a method disagree. -/
def divergence (test source : String) : String :=
  "Compare this test with the code it exercises.\n" ++
    "State whether the test's expectation matches what the code actually does.\n" ++
    "If it does not, say \"mismatch\", then what the test expects and what the code returns.\n\n" ++
    fenced "TEST" test ++ "\n" ++ fenced "CODE" source

/-- Asks what a test expects. -/
def expectation (test : String) : String :=
  "Describe what this test expects. Answer using exactly these sections:\n" ++
    "DESCRIPTION: <one sentence>\n" ++
    "INPUTS: <one per line, prefixed with ->\n" ++
    "OUTPUTS: <one per line, prefixed with ->\n" ++
    "EXCEPTIONS: <one per line, prefixed with ->\n\n" ++ fenced "TEST" test

/-- Asks what a method does. -/
def behavior (source : String) : String :=
  "Describe what this code does. Answer using exactly these sections:\n" ++
    "DESCRIPTION: <one sentence>\n" ++
    "SIDE EFFECTS: <one per line, prefixed with ->\n" ++
    "RETURNS: <one sentence>\n" ++
    "ERRORS: <one per line, prefixed with ->\n\n" ++ fenced "CODE" source

/-- Asks for a change that makes a test pass. -/
def fix (r : FixRequest) : String :=
  s!"A test in {r.file} fails: " ++ String.ofList (trim r.error.toList) ++ "\n" ++
    "Propose the smallest change that resolves it. Answer using these sections:\n" ++
    "SUGGESTION: <the change, as a fenced code block or diff>\n" ++
    "EXPLANATION: <why>\n\n" ++ fenced "TEST" r.test ++ "\n" ++ fenced "CODE" r.source

end Adjudicator.Prompt
