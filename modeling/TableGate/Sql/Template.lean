/-
# Templates of statements

A statement with holes that are filled before it is sent. A hole has a name; in
the written form of a template the name stands between braces.

Key definitions: `Template`, `Template.fill`, `Template.written`.
-/
import TableGate.Text.Cut

namespace TableGate

/-- A piece of a template. -/
inductive TemplatePiece where
  | text (s : String)
  | hole (name : String)
deriving DecidableEq, Repr

/-- A statement with holes. -/
abbrev Template := List TemplatePiece

namespace Template

/-- The template with every hole made into a text. -/
def mapHoles (f : String → String) (t : Template) : String :=
  Text.join "" (t.map fun
    | .text s => s
    | .hole name => f name)

/-- The template with its holes filled; a hole without a filling stays empty. -/
def fill (t : Template) (fillings : List (String × String)) : String :=
  t.mapHoles fun name => ((fillings.find? fun f => f.1 == name).map Prod.snd).getD ""

/-- The template as it is written down. -/
def written (t : Template) : String := t.mapHoles fun name => "\x7b" ++ name ++ "\x7d"

end Template
end TableGate
