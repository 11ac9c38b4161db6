import Mathlib
import ContentGateway.Command.Program
import ContentGateway.Proofs.Steps
import ContentGateway.Proofs.Text.Basic
import ContentGateway.Proofs.Transport.Job

/-!
# Columns of a table

A header that fits its column is padded to it, and a cell is cut to its column and padded. So every
text in a column is as long as the column is wide, and where a column begins depends on the widths
before it alone: all lines of a table are equally long, and their columns stand below each other.

A table is printed line by line. A row whose cells have texts gives its line, and the first row with
a cell that has none ends the table behind the lines that were printed before.
-/

namespace ContentGateway.Command

namespace Table

def offset (widths : List ℕ) (j : ℕ) : ℕ := (widths.take j).sum + 2 * j

def lineLength (widths : List ℕ) : ℕ := widths.sum + 2 * (widths.length - 1)

/-- A text in a column: as much of it as fits, and blanks behind it. -/
def columnText (text : String) (width : ℕ) : List Char :=
  (text.toList.take width).rightpad width ' '

/-- Whether a line shows a text in each column, with two blanks between the columns and nothing
else. -/
structure Shows (widths : List ℕ) (texts : List String) (line : List Char) : Prop where
  length_eq : line.length = lineLength widths
  column : ∀ j (h : j < widths.length), ∃ text, texts[j]? = some text ∧
    (line.drop (offset widths j)).take widths[j] = columnText text widths[j]
  gap : ∀ j (h : j + 1 < widths.length),
    (line.drop (offset widths j + widths[j])).take 2 = [' ', ' ']

/-! ## Columns side by side -/

section Join

variable {columns : List (List Char)} {widths : List ℕ}

theorem offset_zero (widths : List ℕ) : offset widths 0 = 0 := rfl

/-- A column begins behind the first one, its two blanks and what is in front of it there. -/
theorem offset_succ (width : ℕ) (widths : List ℕ) (j : ℕ) :
    offset (width :: widths) (j + 1) = width + 2 + offset widths j := by
  rw [offset, offset, List.take_succ_cons, List.sum_cons]
  omega

theorem join_cons_cons (first second : List Char) (columns : List (List Char)) :
    join (first :: second :: columns) = first ++ [' ', ' '] ++ join (second :: columns) :=
  List.intercalate_cons_cons

/-- A line of columns of the right widths has the length of a line. -/
theorem length_join (h : List.Forall₂ (fun column width => column.length = width) columns widths) :
    (join columns).length = lineLength widths := by
  induction h with
  | nil => rfl
  | @cons first width columns widths hfirst h ih =>
    cases h with
    | nil => simp [join, lineLength, hfirst]
    | cons _ _ =>
      rw [join_cons_cons, List.length_append, List.length_append, ih, hfirst]
      simp [lineLength]
      omega

/-- Behind the first column and two blanks, columns stand as they do without it. -/
theorem drop_join (first second : List Char) (columns : List (List Char)) (n : ℕ) :
    (join (first :: second :: columns)).drop (first.length + 2 + n) =
      (join (second :: columns)).drop n := by
  rw [join_cons_cons, ← List.drop_drop, List.drop_left' (by simp)]

/-- A column stands at its offset, as long as the column is wide. -/
theorem slice_join (h : List.Forall₂ (fun column width => column.length = width) columns widths)
    {j : ℕ} {column : List Char} (hcolumn : columns[j]? = some column) :
    ((join columns).drop (offset widths j)).take column.length = column := by
  induction h generalizing j with
  | nil => cases hcolumn
  | @cons first width columns widths hfirst h ih =>
    cases j with
    | zero =>
      obtain rfl := Option.some.inj hcolumn
      obtain ⟨tail, htail⟩ := Text.exists_intercalate_cons [' ', ' '] first columns
      rw [offset_zero, List.drop_zero, join, htail, List.take_left]
    | succ j =>
      cases h with
      | nil => cases hcolumn
      | cons _ _ =>
        rw [offset_succ, ← hfirst, drop_join]
        exact ih hcolumn

/-- Two blanks stand behind every column but the last. -/
theorem gap_join (h : List.Forall₂ (fun column width => column.length = width) columns widths)
    {j : ℕ} (hj : j + 1 < widths.length) :
    ((join columns).drop (offset widths j + widths[j])).take 2 = [' ', ' '] := by
  induction h generalizing j with
  | nil => exact absurd hj (Nat.not_lt_zero _)
  | @cons first width columns widths hfirst h ih =>
    cases h with
    | nil => simp at hj
    | @cons second next columns widths hsecond h =>
      cases j with
      | zero =>
        rw [offset_zero, Nat.zero_add, join_cons_cons, List.append_assoc, List.getElem_cons_zero,
          List.drop_left' hfirst]
        rfl
      | succ j =>
        rw [offset_succ, ← hfirst, Nat.add_assoc, drop_join]
        exact ih (by simpa using hj)

end Join

/-! ## Texts in their columns -/

/-- A text in a column fills the width. -/
theorem length_columnText (text : String) (width : ℕ) : (columnText text width).length = width := by
  rw [columnText, List.length_rightpad, List.length_take]
  omega

theorem pad_cut (width : ℕ) (text : String) :
    pad width (cut width text.toList) = columnText text width := rfl

/-- A text that fits is only padded. -/
theorem pad_eq_columnText {width : ℕ} {text : String} (h : text.length ≤ width) :
    pad width text.toList = columnText text width := by
  rw [← pad_cut]
  refine congrArg (pad width) (List.take_of_length_le ?_).symm
  rwa [Int.toNat_natCast, String.length_toList]

section Shows

variable {texts : List String} {widths : List ℕ}

/-- Texts that are put in their columns side by side are shown there. -/
theorem shows_columns (h : texts.length = widths.length) :
    Shows widths texts (join (List.zipWith columnText texts widths)) := by
  have hwidths : List.Forall₂ (fun column width => column.length = width)
      (List.zipWith columnText texts widths) widths := by
    induction widths generalizing texts with
    | nil => simp
    | cons width widths ih =>
      cases texts with
      | nil => cases h
      | cons text texts => exact .cons (length_columnText text width) (ih (Nat.succ.inj h))
  refine ⟨length_join hwidths, fun j hj => ?_, fun j hj => gap_join hwidths hj⟩
  have hplace : j < texts.length := h ▸ hj
  have hcolumn : (List.zipWith columnText texts widths)[j]? =
      some (columnText texts[j] widths[j]) := by
    rw [List.getElem?_zipWith, List.getElem?_eq_getElem hplace, List.getElem?_eq_getElem hj]
  refine ⟨texts[j], List.getElem?_eq_getElem hplace, ?_⟩
  have hslice := slice_join hwidths hcolumn
  rwa [length_columnText] at hslice

/-- Headers that fit their columns are shown there. -/
theorem shows_header {headers : List String}
    (h : List.Forall₂ (fun header width => header.length ≤ width) headers widths) :
    Shows widths headers (headerLine headers (widths.map (↑))) := by
  have hcolumns : headerLine headers (widths.map (↑)) =
      join (List.zipWith columnText headers widths) := by
    rw [headerLine]
    refine congrArg join ?_
    induction h with
    | nil => rfl
    | cons hfits _ ih =>
      rw [List.map_cons, List.zip_cons_cons, List.map_cons, ih, List.zipWith_cons_cons]
      exact congrArg (· :: _) (pad_eq_columnText hfits)
  rw [hcolumns]
  exact shows_columns h.length_eq

/-- The first cells of a row give their texts in the columns, and the rest of them nothing. -/
theorem mapM_cellText {cells : List Value} (h : widths.length ≤ cells.length) :
    (cells.zip (widths.map fun width : ℕ => (width : ℤ))).mapM
        (fun (cell, width) => cellText width cell) =
      ((cells.take widths.length).mapM Value.display).map
        fun texts => List.zipWith columnText texts widths := by
  induction widths generalizing cells with
  | nil => simp; rfl
  | cons width widths ih =>
    cases cells with
    | nil => cases h
    | cons cell cells =>
      rw [List.map_cons, List.zip_cons_cons, List.mapM_cons, ih (Nat.le_of_succ_le_succ h),
        List.length_cons, List.take_succ_cons, List.mapM_cons]
      dsimp only
      rw [cellText]
      cases cell.display with
      | error f => rfl
      | ok text =>
        cases (cells.take widths.length).mapM Value.display with
        | error f => rfl
        | ok texts => rfl

end Shows

/-! ## Rows -/

/-- Whether a row has a cell for each column. -/
def IsFull (widths : List ℕ) (row : Value) : Prop :=
  ∃ cells, row.elements = .ok cells ∧ widths.length ≤ cells.length

/-- Whether a line shows a row: the texts of as many of its cells as there are columns. -/
def ShowsRow (widths : List ℕ) (row : Value) (line : List Char) : Prop :=
  ∃ cells texts, row.elements = .ok cells ∧
    List.Forall₂ (fun cell text => Value.display cell = .ok text) (cells.take widths.length) texts ∧
    Shows widths texts line

/-- Whether a row has no line, since the first of its cells that has no text stands in a column. -/
def HasNoLine (widths : List ℕ) (row : Value) (f : Fault) : Prop :=
  ∃ cells front cell behind, row.elements = .ok cells ∧
    cells.take widths.length = front ++ cell :: behind ∧
    (∀ before ∈ front, ∃ text, Value.display before = .ok text) ∧ cell.display = .error f

/-- Whether a table ends well behind its last row, or on the fault of the first row that is left. -/
def EndsBefore (widths : List ℕ) : List Value → Option Fault → Prop
  | [], fault => fault = none
  | row :: _, fault => ∃ f, fault = some f ∧ HasNoLine widths row f

section Rows

variable {widths : List ℕ} {row : Value} {rows : List Value}

/-- The line of a row with a cell for each column. -/
theorem rowLine_eq {cells : List Value} (hcells : row.elements = .ok cells)
    (hfull : widths.length ≤ cells.length) :
    rowLine (widths.map (↑)) row = ((cells.take widths.length).mapM Value.display).map
      fun texts => join (List.zipWith columnText texts widths) := by
  have hcolumns : rowLine (widths.map (↑)) row =
      ((cells.zip (widths.map fun width : ℕ => (width : ℤ))).mapM
        fun (cell, width) => cellText width cell).map join := by
    rw [rowLine, hcells]
    rfl
  rw [hcolumns, mapM_cellText hfull]
  cases (cells.take widths.length).mapM Value.display <;> rfl

/-- A row with a cell for each column has a line that shows it, or a cell without a text. -/
theorem rowLine_cases (h : IsFull widths row) :
    (∃ line, rowLine (widths.map (↑)) row = .ok line ∧ ShowsRow widths row line) ∨
      ∃ f, rowLine (widths.map (↑)) row = .error f ∧ HasNoLine widths row f := by
  obtain ⟨cells, hcells, hfull⟩ := h
  rw [rowLine_eq hcells hfull]
  cases htexts : (cells.take widths.length).mapM Value.display with
  | ok texts =>
    have hlength : texts.length = widths.length := by
      rw [mapM_length htexts, List.length_take, Nat.min_eq_left hfull]
    exact .inl ⟨_, rfl, cells, texts, hcells, mapM_eq_ok.mp htexts, shows_columns hlength⟩
  | error f =>
    obtain ⟨front, cell, behind, hcut, hfront, hcell⟩ := mapM_eq_error.mp htexts
    exact .inr ⟨f, rfl, cells, front, cell, behind, hcells, hcut, hfront, hcell⟩

/-- The lines of rows show them one by one, up to the first row that has none. -/
theorem rowLines_shown (h : ∀ row ∈ rows, IsFull widths row) :
    ∃ shown rest, rows = shown ++ rest ∧
      List.Forall₂ (ShowsRow widths) shown (rowLines (widths.map (↑)) rows).1 ∧
      EndsBefore widths rest (rowLines (widths.map (↑)) rows).2 := by
  induction rows with
  | nil => exact ⟨[], [], rfl, .nil, rfl⟩
  | cons row rows ih =>
    obtain ⟨hrow, hrows⟩ := List.forall_mem_cons.mp h
    rcases rowLine_cases hrow with ⟨line, hline, hshows⟩ | ⟨f, hline, hnone⟩
    · obtain ⟨shown, rest, hsplit, hlines, hend⟩ := ih hrows
      rw [rowLines, hline]
      exact ⟨row :: shown, rest, by rw [hsplit]; rfl, .cons hshows hlines, hend⟩
    · rw [rowLines, hline]
      exact ⟨[], row :: rows, rfl, .nil, f, rfl, hnone⟩

/-- Lines that show rows are equally long. -/
theorem length_of_showsRow {shown : List Value} {below : List (List Char)}
    (h : List.Forall₂ (ShowsRow widths) shown below) {line : List Char} (hline : line ∈ below) :
    line.length = lineLength widths := by
  obtain ⟨_, -, _, _, -, -, hshows⟩ := exists_of_forall₂ h.flip hline
  exact hshows.length_eq

end Rows

end Table

/-! ## Printing -/

/-- Printing lines prints each of them. -/
theorem printLines_eq (lines : List String) (tape : Tape) :
    printLines lines tape = ⟨.ok (), lines.map fun line => .printed (line ++ "\n"), tape⟩ := by
  induction lines with
  | nil => rfl
  | cons line lines ih =>
    have hline : printLine line tape = ⟨.ok (), [.printed (line ++ "\n")], tape⟩ := rfl
    rw [printLines, Job.bind_of_ok hline, ih]
    rfl

/-- Printing a table prints its lines and ends on the fault that ends it early, if there is one. -/
theorem printTable_eq {headers lines : List String} {widths : List ℤ} {rows : List Value}
    {fault : Option Fault} (h : Table.lines headers widths rows = (lines, fault)) (tape : Tape) :
    printTable headers widths rows tape =
      ⟨fault.elim (.ok ()) .error, lines.map fun line => .printed (line ++ "\n"), tape⟩ := by
  rw [printTable, h]
  dsimp only
  rw [Job.bind_of_ok (printLines_eq lines tape)]
  cases fault with
  | none => simp [Run.behind, Job.pure_eq]
  | some f => simp [Run.behind, Job.fail]

end ContentGateway.Command
