import Fleet.Markup.Basic
import Fleet.Report

/-! The console: reports in plain text, where markup is not seen, long lines go on below and tables
stand in columns of even width. -/

namespace Fleet

/-- The places in a line of the console. -/
def consoleWidth : Nat := 80

/-- A line laid out in the lines of the console, where neither its colour nor its markup is seen. -/
def Line.laidOut (line : Line) : Except Markup.Flaw String := do
  let lines ← Markup.plainLines consoleWidth line.marked.toList
  return "\n".intercalate (lines.map String.ofList)

/-- What a line in a table shows. -/
def Line.shown (line : Line) : Except Markup.Flaw Markup.Styled :=
  Markup.render line.marked.toList

/-- A text with blanks up to a width, on the side that the column's cells do not keep to. -/
def Column.pad (column : Column) (width : Nat) (text : String) : String :=
  let blanks := String.ofList (List.replicate (width - text.length) ' ')
  match column.side with
  | .left => text ++ blanks
  | .right => blanks ++ text

namespace Table

/-- What a table shows, by row. Its cells are read column by column. -/
def cells (table : Table) : Except Markup.Flaw (List (List Markup.Styled)) := do
  let columns ← (List.range table.columns.length).mapM fun place =>
    table.rows.mapM fun row => (row.getD place (.plain "")).shown
  return (List.range table.rows.length).map fun place =>
    columns.map fun column => column.getD place {}

/-- The texts of a table by row, the headings first. -/
def texts (table : Table) : Except Markup.Flaw (List (List String)) := do
  let rows ← table.cells
  rows.forM fun row => row.forM Markup.checkSpans
  return table.columns.map Column.heading ::
    rows.map fun row => row.map fun cell => String.ofList cell.text

/-- The greatest length of a text in each column. -/
def widths (table : Table) (texts : List (List String)) : List Nat :=
  texts.foldl (fun widths row => (widths.zip row).map fun (width, text) =>
    max width text.length) (table.columns.map fun _ => 0)

/-- The cells of a row side by side, in columns of some widths. -/
def layOut (table : Table) (widths : List Nat) (row : List String) : String :=
  "  ".intercalate (((table.columns.zip widths).zip row).map fun ((column, width), text) =>
    column.pad width text)

/-- A table as lines of text, its title first. -/
def lines (table : Table) : Except Markup.Flaw (List String) := do
  let texts ← table.texts
  return table.title :: texts.map (table.layOut (table.widths texts))

end Table

/-- What the report shows where there are no colours, unless its markup is flawed. -/
def Report.plainText : Report → Except Markup.Flaw String
  | .silent => .ok ""
  | .line told => return (← told.laidOut) ++ "\n"
  | .table told => return String.join ((← told.lines).map fun line => line ++ "\n")
  | .document text => .ok (text ++ "\n")

end Fleet
