import ContentGateway.Value.Render

/-!
# Tables

A table has a header, a rule of dashes below it and a line for each row. Columns are two blanks
apart. A header is padded to the width of its column; a cell is cut to it first. A row with more
cells than columns shows the first ones, a row with fewer is short.

A width below zero pads nothing and cuts so many characters off the end of a cell.
-/

namespace ContentGateway.Command.Table

/-- A text with blanks up to a width. -/
def pad (width : Int) (cs : List Char) : List Char :=
  cs ++ List.replicate (width.toNat - cs.length) ' '

/-- The beginning of a text that fits a width. -/
def cut (width : Int) (cs : List Char) : List Char :=
  if width < 0 then cs.take (cs.length - width.natAbs) else cs.take width.toNat

def join (columns : List (List Char)) : List Char := [' ', ' '].intercalate columns

def headerLine (headers : List String) (widths : List Int) : List Char :=
  join ((headers.zip widths).map fun (header, width) => pad width header.toList)

def ruleLine (headers : List String) (widths : List Int) : List Char :=
  List.replicate (headerLine headers widths).length '-'

def cellText (width : Int) (cell : Value) : Except Fault (List Char) := do
  return pad width (cut width (← cell.display).toList)

/-- A row. It has to be a sequence of cells. -/
def rowLine (widths : List Int) (row : Value) : Except Fault (List Char) := do
  let cells ← row.elements
  return join (← (cells.zip widths).mapM fun (cell, width) => cellText width cell)

/-- The lines of rows, and the fault that ends them early, if any. -/
def rowLines (widths : List Int) : List Value → List (List Char) × Option Fault
  | [] => ([], none)
  | row :: rows =>
    match rowLine widths row with
    | .error f => ([], some f)
    | .ok line =>
      let (lines, fault) := rowLines widths rows
      (line :: lines, fault)

/-- The lines of a table, and the fault that ends it early, if any. -/
def lines (headers : List String) (widths : List Int) (rows : List Value) :
    List String × Option Fault :=
  let (below, fault) := rowLines widths rows
  ((headerLine headers widths :: ruleLine headers widths :: below).map String.ofList, fault)

end ContentGateway.Command.Table
