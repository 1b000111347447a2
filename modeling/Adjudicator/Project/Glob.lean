import Adjudicator.Pattern.Build
import Adjudicator.Pattern.Search

/-!
# Patterns of paths

A pattern of paths stands for paths whose names are parted by slashes. `?` is one character and `*`
any number of them, both without slashes; `**` between slashes is any number of names; brackets
hold classes of characters and braces alternatives; a backslash takes away the meaning of the
character behind it.
-/

namespace Adjudicator

/-- What is wrong with a pattern of paths. -/
inductive GlobError where
  /-- A class has no closing bracket. -/
  | unclosedClass
  /-- The ends of a range are in the wrong order. -/
  | invalidRange (first last : Char)
  /-- A closing brace has no opening one. -/
  | unopenedAlternates
  /-- An opening brace has no closing one. -/
  | unclosedAlternates
  /-- Nothing stands behind a backslash. -/
  | danglingEscape
deriving DecidableEq, Repr, Inhabited

/-- The error in words. -/
def GlobError.message : GlobError → String
  | unclosedClass => "unclosed character class; missing ']'"
  | invalidRange first last =>
    "invalid range; '" ++ String.ofList [first] ++ "' > '" ++ String.ofList [last] ++ "'"
  | unopenedAlternates =>
    "unopened alternate group; missing '\x7b' (maybe escape '\x7d' with '[\x7d]'?)"
  | unclosedAlternates =>
    "unclosed alternate group; missing '\x7d' (maybe escape '\x7b' with '[\x7b]'?)"
  | danglingEscape => "dangling '\\'"

/-- A part of a pattern of paths. -/
inductive Glob where
  /-- A character. -/
  | exact (c : Char)
  /-- One character but a slash. -/
  | anyChar
  /-- Any characters but slashes. -/
  | anyChars
  /-- Any directories at the start. -/
  | anyStart
  /-- Anything below. -/
  | anyBelow
  /-- A slash, or any directories between two. -/
  | anyBetween
  /-- A character inside some ranges or outside them. -/
  | oneOf (negated : Bool) (ranges : List (Char × Char))
  /-- One of several patterns. -/
  | alternates (branches : List (List Glob))
deriving Repr, Inhabited

namespace Glob

open Pattern

mutual

/-- The texts that a part stands for. -/
def pattern : Glob → Pattern
  | exact c => one (· == c)
  | anyChar => one (· != '/')
  | anyChars => (one (· != '/')).star
  | anyStart => choice [opt "/", anything.star ++ "/"]
  | anyBelow => "/" ++ anything.star
  | anyBetween => choice ["/", "/" ++ anything.star ++ "/"]
  | oneOf negated ranges =>
    one fun c => (ranges.any fun r => r.1 ≤ c && c ≤ r.2) != negated
  | alternates branches => choice (branchPatterns branches)

/-- The texts that parts stand for together. -/
def patternOf : List Glob → Pattern
  | [] => here
  | g :: rest => g.pattern ++ patternOf rest

/-- The texts of alternatives; empty ones do not count. -/
def branchPatterns : List (List Glob) → List Pattern
  | [] => []
  | [] :: rest => branchPatterns rest
  | (g :: parts) :: rest => patternOf (g :: parts) :: branchPatterns rest

end

/-- Whether parts stand for a whole text. -/
def fits (parts : List Glob) (s : List Char) : Bool :=
  ((patternOf parts ++ textEnd).tryAt (Cursor.start s)).isSome

/-- The newest range with an end. -/
def closeRange (ranges : List (Char × Char)) (last : Char) :
    Except GlobError (List (Char × Char)) :=
  match ranges with
  | [] => .ok [(last, last)]
  | (first, _) :: rest =>
    if last < first then .error (.invalidRange first last) else .ok ((first, last) :: rest)

/-- The ranges of a class behind its opening bracket, and the rest. A bracket or a hyphen counts as
itself when it comes first, and a hyphen also when it comes last. -/
def classRanges (ranges : List (Char × Char)) (isFirst waiting : Bool) :
    List Char → Except GlobError (List (Char × Char) × List Char)
  | [] => .error .unclosedClass
  | c :: rest =>
    if c = ']' ∧ !isFirst then
      .ok ((if waiting then ('-', '-') :: ranges else ranges).reverse, rest)
    else if c = '-' ∧ !isFirst ∧ !waiting then classRanges ranges false true rest
    else if waiting then
      match closeRange ranges c with
      | .ok ranges => classRanges ranges false false rest
      | .error e => .error e
    else classRanges ((c, c) :: ranges) false false rest

/-- A class behind its opening bracket, and the rest. -/
def class? (s : List Char) : Except GlobError (Glob × List Char) :=
  let (negated, s) :=
    match s with
    | '!' :: rest | '^' :: rest => (true, rest)
    | _ => (false, s)
  (classRanges [] true false s).map fun (ranges, rest) => (.oneOf negated ranges, rest)

/-- Parts that are being read, the newest first, with the alternatives before them. -/
structure Draft where
  /-- Finished alternatives, the newest first. -/
  branches : List (List Glob) := []
  /-- Parts. -/
  parts : List Glob := []

/-- The draft with a part. -/
def Draft.add (d : Draft) (g : Glob) : Draft :=
  { d with parts := g :: d.parts }

/-- The draft with a mark for any directories between a slash and what follows. The mark takes the
place of the slash. -/
def Draft.addAny (d : Draft) (atEnd : Bool) : Draft :=
  match d.parts with
  | .anyStart :: _ => d
  | _ :: rest => { d with parts := (if atEnd then .anyBelow else .anyBetween) :: rest }
  | [] => d

/-- The draft with two stars, before the given rest: what the stars mean, and what follows. -/
def Draft.addStars (d : Draft) (prev : Option Char) (nested : Bool) (rest : List Char) :
    Draft × List Char :=
  let plain := (d.add .anyChars).add .anyChars
  if d.parts.isEmpty then
    match rest with
    | [] => (d.add .anyStart, [])
    | '/' :: after => (d.add .anyStart, after)
    | _ => (plain, rest)
  else if prev != some '/' then (plain, rest)
  else
    match rest with
    | [] => (d.addAny true, [])
    | '/' :: after => (d.addAny false, after)
    | c :: _ => if nested && (c == ',' || c == '}') then (d.addAny true, rest) else (plain, rest)

/-- The alternatives of a draft. -/
def Draft.alternatives (d : Draft) : List (List Glob) :=
  (d.parts.reverse :: d.branches).reverse

/-- Reads parts. `above` are the drafts outside the current braces, the innermost first, and `prev`
is the character before. -/
def read (fuel : Nat) (above : List Draft) (d : Draft) (prev : Option Char) (s : List Char) :
    Except GlobError (List Glob) :=
  match fuel, s with
  | 0, _ | _, [] => if above.isEmpty then .ok d.parts.reverse else .error .unclosedAlternates
  | fuel + 1, c :: rest =>
    match c with
    | '?' => read fuel above (d.add .anyChar) c rest
    | '*' =>
      match rest with
      | '*' :: rest =>
        let (d, after) := d.addStars prev (!above.isEmpty) rest
        read fuel above d (if after.length < rest.length then some '/' else some '*') after
      | _ => read fuel above (d.add .anyChars) c rest
    | '[' =>
      match class? rest with
      | .ok (g, rest) => read fuel above (d.add g) (some ']') rest
      | .error e => .error e
    | '{' => read fuel (d :: above) {} c rest
    | '}' =>
      match above with
      | [] => .error .unopenedAlternates
      | outer :: above => read fuel above (outer.add (.alternates d.alternatives)) c rest
    | ',' =>
      if above.isEmpty then read fuel above (d.add (.exact c)) c rest
      else read fuel above { branches := d.parts.reverse :: d.branches } c rest
    | '\\' =>
      match rest with
      | [] => .error .danglingEscape
      | c :: rest => read fuel above (d.add (.exact c)) c rest
    | c => read fuel above (d.add (.exact c)) c rest

/-- The parts of a pattern of paths. -/
def ofText (s : List Char) : Except GlobError (List Glob) :=
  read (s.length + 1) [] {} none s

end Glob

end Adjudicator
