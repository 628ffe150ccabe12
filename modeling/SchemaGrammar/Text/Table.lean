/-!
# Tables

A table has a title, columns with headers, and rows of cells. It is drawn in boxes, with one space
on either side of each cell, and each column is as wide as its longest cell.
-/
namespace SchemaGrammar.Text

inductive Alignment where
  | left
  /-- In the middle; of an odd number of spaces one more stands after the text. -/
  | centre
  | right
  deriving DecidableEq, Repr

def Alignment.pad (a : Alignment) (width : Nat) (text : String) : String :=
  let spaces (n : Nat) : String := String.ofList (List.replicate n ' ')
  let gap := width - text.length
  let before :=
    match a with
    | left => 0
    | centre => gap / 2
    | right => gap
  spaces before ++ text ++ spaces (gap - before)

structure Column where
  header : String
  alignment : Alignment

structure Table where
  title : String
  columns : List Column
  rows : List (List String)

namespace Table

def headers (t : Table) : List String := t.columns.map Column.header

def widths (t : Table) : List Nat :=
  t.rows.foldl (fun widths row => widths.zipWith max (row.map String.length))
    (t.headers.map String.length)

def row (t : Table) (edge : String) (cells : List String) : String :=
  let padded := (t.columns.zip (t.widths.zip cells)).map fun (column, width, cell) =>
    " " ++ column.alignment.pad width cell ++ " "
  edge ++ edge.intercalate padded ++ edge

/-- A line without cells: its start, what it is drawn with, where columns meet, and its end. -/
def rule (t : Table) (start line meeting finish : String) : String :=
  start ++ meeting.intercalate (t.widths.map fun w => String.join (List.replicate (w + 2) line)) ++
    finish

def lines (t : Table) : List String :=
  let top := t.rule "┏" "━" "┳" "┓"
  [Alignment.centre.pad top.length t.title, top, t.row "┃" t.headers, t.rule "┡" "━" "╇" "┩"] ++
    t.rows.map (t.row "│") ++ [t.rule "└" "─" "┴" "┘"]

def text (t : Table) : String := String.join (t.lines.map (· ++ "\n"))

end Table

end SchemaGrammar.Text
