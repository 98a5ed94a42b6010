/-
ReleaseGate/Report/Page.lean

The HTML report of a comparison, one page that needs no other file.

A page is a list of pieces, each of them markup or text.  Markup is written
as it stands and holds whole tags only; text comes from the comparison and
has the five characters escaped that could end it.  So what stands in a
comparison cannot add a tag to the page.
-/
import ReleaseGate.Comparison

namespace ReleaseGate

namespace Page

/-- A piece of a page. -/
inductive Piece where
  | markup (s : String)
  | text (s : String)
  deriving DecidableEq, Repr, Inhabited

/-- A character as it is written in the text of a page. -/
def escapeChar : Char → List Char
  | '&' => "&amp;".toList
  | '<' => "&lt;".toList
  | '>' => "&gt;".toList
  | '"' => "&#34;".toList
  | '\'' => "&#39;".toList
  | c => [c]

/-- A text as it is written in a page. -/
def escape (s : List Char) : List Char := s.flatMap escapeChar

/-- A piece as it is written. -/
def Piece.chars : Piece → List Char
  | markup s => s.toList
  | text s => escape s.toList

/-- Pieces one after the other. -/
def write (pieces : List Piece) : String := String.ofList (pieces.flatMap Piece.chars)

/-- What stands before the title. -/
def opening : Piece :=
  .markup "<!DOCTYPE html>\n<html lang=\"en\">\n<head>\n  <meta charset=\"utf-8\">\n"

/-- The rules of the style sheet. -/
def styleRules : List String :=
  ["body \x7b font-family: sans-serif; margin: 2em; color: #222; \x7d",
    "table \x7b border-collapse: collapse; margin-bottom: 1.5em; \x7d",
    "th, td \x7b border: 1px solid #ccc; padding: 0.3em 0.6em; text-align: left; \x7d",
    "th \x7b background: #f0f0f0; \x7d",
    ".incompatible \x7b color: #b00020; font-weight: bold; \x7d",
    ".compatible \x7b color: #1b5e20; \x7d",
    ".members td \x7b font-family: monospace; \x7d"]

/-- What stands between the title and the artifacts. -/
def style : Piece :=
  .markup ("  <style>\n" ++ String.join (styleRules.map fun rule => "    " ++ rule ++ "\n") ++
    "  </style>\n</head>\n<body>\n")

/-- The title of the page. -/
def title (c : Comparison) : List Piece :=
  [.markup "  <title>", .text s!"API changes: {c.old.version} to {c.new.version}",
    .markup "</title>\n"]

/-- The row of an artifact; `age` says which one it is. -/
def artifactRow (age : String) (a : Artifact) : List Piece :=
  [.markup "    <tr><th>", .text (age ++ " jar"), .markup "</th><td>", .text a.file,
    .markup "</td><th>", .text (age ++ " version"), .markup "</th><td>", .text a.version,
    .markup "</td></tr>\n"]

/-- The table of the two artifacts. -/
def artifacts (c : Comparison) : List Piece :=
  [.markup "  <h1>API changes</h1>\n  <table>\n"] ++ artifactRow "Old" c.old ++
    artifactRow "New" c.new ++ [.markup "  </table>\n\n"]

/-- The exclusions as code, with commas between them. -/
def exclusionPieces : List String → List Piece
  | [] => []
  | [p] => [.markup "<code>", .text p, .markup "</code>"]
  | p :: rest => [.markup "<code>", .text p, .markup "</code>", .text ", "] ++ exclusionPieces rest

/-- The paragraph of the exclusions. -/
def exclusions (patterns : List String) : List Piece :=
  if patterns.isEmpty then []
  else [.markup "  <p>", .text "Excluded: "] ++ exclusionPieces patterns ++ [.markup "</p>\n"]

/-- The style class of a change. -/
def styleClass (compatible : Bool) : String := if compatible then "compatible" else "incompatible"

/-- A flag in words. -/
def flag (b : Bool) : String := if b then "True" else "False"

/-- The row of a member. -/
def memberRow (m : MemberChange) : List Piece :=
  [.markup ("    <tr class=\"" ++ styleClass m.compatible ++ "\">\n      <td>"), .text m.kind,
    .markup "</td><td>", .text m.name, .markup "</td><td>", .text m.status.name,
    .markup "</td>\n      <td>", .text (flag m.binaryCompatible), .markup "</td><td>",
    .text (flag m.sourceCompatible), .markup "</td>\n    </tr>\n"]

/-- The list of the rules that a class breaks. -/
def codes (c : ClassChange) : List Piece :=
  if c.codes.isEmpty then []
  else
    [.markup "  <ul>\n"] ++
      (c.codes.flatMap fun code =>
        [.markup "    <li class=\"incompatible\">", .text code, .markup "</li>\n"]) ++
      [.markup "  </ul>\n"]

/-- The table of the members of a class. -/
def members (c : ClassChange) : List Piece :=
  if c.members.isEmpty then []
  else
    [.markup ("  <table class=\"members\">\n    <tr><th>Kind</th><th>Name</th><th>Status</th>" ++
        "<th>Binary compatible</th><th>Source compatible</th></tr>\n")] ++
      c.members.flatMap memberRow ++ [.markup "  </table>\n"]

/-- The section of a class. -/
def classSection (c : ClassChange) : List Piece :=
  [.markup ("  <h2 class=\"" ++ styleClass c.compatible ++ "\">"),
      .text s!"{c.status.name} {c.name} ({c.severity.name})", .markup "</h2>\n"] ++
    codes c ++ members c

/-- What was found. -/
def body (c : Comparison) : List Piece :=
  match c.skipped with
  | some reason => [.markup "  <p>", .text reason.note, .markup "</p>\n"]
  | none =>
    exclusions c.exclusions ++
      [.markup "  <p>",
        .text s!"{c.model.changes.length} changed classes, {c.model.incompatible.length} incompatible.",
        .markup "</p>\n"] ++
      c.model.changes.flatMap classSection

/-- The version change that follows, and the time of writing. -/
def closing (c : Comparison) (now : String) : List Piece :=
  [.markup "\n  <p>", .text "Required version change: ", .markup "<strong>",
    .text c.model.requiredBump.name, .markup "</strong>",
    .text ".\n     Suggested semantic version increment: ", .markup "<code>",
    .text c.model.suggestedVersion.text, .markup "</code>", .text ".", .markup "</p>\n",
    .markup "  <footer><small>", .text ("Generated " ++ now),
    .markup "</small></footer>\n</body>\n</html>"]

/-- The pieces of the page. -/
def pieces (c : Comparison) (now : String) : List Piece :=
  [opening] ++ title c ++ [style] ++ artifacts c ++ body c ++ closing c now

/-- The page, as written at the time `now`. -/
def render (c : Comparison) (now : String) : String := write (pieces c now)

end Page

end ReleaseGate
