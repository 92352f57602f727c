import HomeConfig.Console.Markup

/-!
# Frames

What is shown on the console in a frame: a panel of lines under a title, or a grid of cells under a
title and heads.  Titles, lines and cells are marked text.  A frame is drawn with bars only; a cell
of several lines makes its row several lines high.
-/

namespace HomeConfig

namespace Console

/-- A marked text as plain lines; `none` if a tag closes nothing. -/
def lines? (text : String) : Option (List String) :=
  (Markup.plain? text.toList).map fun plain => (Text.splitAt '\n' plain).map String.ofList

/-- Cells between bars. -/
def barred (cells : List String) : String :=
  "| " ++ " | ".intercalate cells ++ " |"

/-- Lines under a title. -/
structure Panel where
  title : String
  text : String

/-- A panel as it is shown. -/
def Panel.lines? (panel : Panel) : Option (List String) := do
  let lines ← Console.lines? panel.text
  return (← Console.lines? panel.title) ++ lines.map fun line => barred [line]

/-- Rows of cells under a title and heads. -/
structure Grid where
  title : String
  heads : List String
  rows : List (List String)

namespace Grid

/-- The lines of a row, each cell with its lines from the top. -/
def rowLines (cells : List (List String)) : List String :=
  let height := (cells.map List.length).foldl max 0
  (List.range height).map fun place => barred (cells.map fun cell => cell[place]?.getD "")

/-- A grid as it is shown. -/
def lines? (grid : Grid) : Option (List String) := do
  let title ← Console.lines? grid.title
  let rows ← (grid.heads :: grid.rows).mapM fun cells => cells.mapM Console.lines?
  return title ++ rows.flatMap rowLines

end Grid

end Console

end HomeConfig
