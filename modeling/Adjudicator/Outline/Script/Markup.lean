import Adjudicator.Outline.Script.Symbol

/-!
# Markup in scripts

JavaScript may hold elements of a page as expressions. An element has a tag with attributes and,
unless the tag closes itself, text, further elements and inserted expressions up to the closing
tag. Only what is inserted matters to an outline.
-/

namespace Adjudicator.Outline.Script.Grammar

open Parse

/-- The name of a tag or of an attribute. -/
def markupName : Parse Tree := do
  discard gap
  let start ← get
  require (start.rest.head?.any isNameStart)
  discard <| takeWhile fun c => isNameChar c || c == '-' || c == ':' || c == '.'
  nodeFrom start .other []

/-- An inserted expression in braces, which may be spread or left out. -/
def inserted (g : Grammar) : Parse Tree := do
  discard gap
  let start ← get
  mark '\x7b'
  discard <| attempt (symbol "...")
  let e ← attempt (g.parse .expressions)
  mark '\x7d'
  nodeFrom start .other e.toList

/-- A text in quotes without escapes. -/
def markupText : Parse Tree := do
  discard gap
  let start ← get
  let quote ← (start.rest.head? : Option Char)
  require (quote == '"' || quote == '\'')
  skip 1
  discard <| takeWhile (· != quote)
  require (!(← ahead).isEmpty)
  skip 1
  nodeFrom start .other []

/-- The attribute of a tag. -/
def tagAttribute (g : Grammar) : Parse Tree :=
  firstOf [g.inserted, named]
where
  /-- A name that may have a value. -/
  named : Parse Tree := do
    let name ← markupName
    let value ← attempt (symbol "=" *> firstOf [markupText, g.inserted, g.parse .element])
    return nodeAround .other name (value.getD name) (name :: value.toList)

/-- What stands between two tags. -/
def content (g : Grammar) : Parse Tree :=
  firstOf [plain, g.inserted, g.parse .element]
where
  /-- Text without insertions. -/
  plain : Parse Tree := do
    let start ← get
    let text ← takeWhile fun c => !"\x7b\x7d<>".toList.contains c
    require !text.isEmpty
    nodeFrom start .other []

/-- The end of a tag that closes itself, or the content up to the closing tag. -/
def tagRest (g : Grammar) (named : Bool) : Parse (List Tree) :=
  firstOf [alone, filled]
where
  /-- The end of a tag without content. -/
  alone : Parse (List Tree) := do
    require named
    mark '/'
    mark '>'
    return []
  /-- The content and the closing tag. -/
  filled : Parse (List Tree) := do
    mark '>'
    let items ← many g.content
    mark '<'
    mark '/'
    require (named == (← attempt markupName).isSome)
    mark '>'
    return items

/-- An element. -/
def element (g : Grammar) : Parse Tree := do
  discard gap
  let start ← get
  mark '<'
  let name ← attempt markupName
  let attributes ← many g.tagAttribute
  let rest ← g.tagRest name.isSome
  nodeFrom start .other (name.toList ++ attributes ++ rest)

end Adjudicator.Outline.Script.Grammar
