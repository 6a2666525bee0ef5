import ServiceClient.Text.Blank
import ServiceClient.Text.Entity
import ServiceClient.Text.Lines

/-! Documentation lines from HTML fragments. Ends of paragraphs, list items and lists, and line
breaks become line feeds, all other tags are dropped, and character references are decoded once. A
line that is not blank is one space and its words separated by single spaces; runs of blank lines
collapse, and none is first or last. -/

namespace ServiceClient.Generator.Docs
open ServiceClient.Text

/-- How much of the text, if any, is the literal `tag`, in either case. -/
def literalTag (tag s : List Char) : Option Nat :=
  if (s.take tag.length).map Char.toLower == tag then some tag.length else none

/-- The length of a line break tag, which may hold white space and a slash behind its name. -/
def lineBreak (s : List Char) : Option Nat := do
  let name ← literalTag "<br".toList s
  let rest := s.drop name
  let blanks := (rest.takeWhile isBlank).length
  match rest.drop blanks with
  | '>' :: _ => some (name + blanks + 1)
  | '/' :: '>' :: _ => some (name + blanks + 2)
  | _ => none

def breakLength (s : List Char) : Option Nat :=
  (["</p>", "</li>", "</ul>", "</ol>"].findSome? fun tag => literalTag tag.toList s).or
    (lineBreak s)

/-- Puts two line feeds in place of each tag that ends a line; `skip` characters are part of one. -/
def breakLines (skip : Nat) : List Char → List Char
  | [] => []
  | c :: s =>
    match skip with
    | n + 1 => breakLines n s
    | 0 =>
      match breakLength (c :: s) with
      | some n => '\n' :: '\n' :: breakLines (n - 1) s
      | none => c :: breakLines 0 s

/-- Deletes what stands from a `<` up to the next `>`. `tag` holds, newest first, an opened one. -/
def dropTags (tag : Option (List Char)) : List Char → List Char
  | [] => (tag.getD []).reverse
  | c :: s =>
    match tag with
    | none => if c == '<' then dropTags (some [c]) s else c :: dropTags none s
    | some opened => if c == '>' then dropTags none s else dropTags (some (c :: opened)) s

def plainText (html : List Char) : List Char :=
  Entity.decode (dropTags none (breakLines 0 html))

def lineText (ws : List (List Char)) : String :=
  String.ofList (ws.flatMap (' ' :: ·))

/-- Keeps one of the blank lines between others; `behindText` says that a line with words came
last. -/
def collapse (behindText : Bool) : List (List (List Char)) → List String
  | [] => []
  | ws :: rest =>
    if !ws.isEmpty then lineText ws :: collapse true rest
    else if behindText && rest.any (!·.isEmpty) then "" :: collapse false rest
    else collapse false rest

def lines (html : String) : List String :=
  collapse false ((linesOf (plainText html.toList)).map words)

def ofOptional (html : Option String) : List String :=
  (html.map lines).getD []

example : lines "<p>Returns a <code>Widget</code>.</p><P>If &lt;id&gt;<br />\n is unknown</P >" =
    [" Returns a Widget.", "", " If <id>", "", " is unknown"] := by decide +kernel

end ServiceClient.Generator.Docs
