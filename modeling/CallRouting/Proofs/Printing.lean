import CallRouting.Report.Json
import CallRouting.Report.Table
import Mathlib.Data.List.Forall2

/-!
# What is printed

A report is printed as a table or as JSON. Whoever reads it should find its texts there, in their
order, whatever is drawn around them.

* `Within` : one text stands in another;
* `Table.Shows` : some lines show the cells of a row;
* `Table.ShowsRows` : a text shows rows one below the other; `Table.showsRows_draw` : so does a
  table that is drawn;
* `Json.texts` : the texts in a value, from the first to the last; those of a field are among them
  (`Json.sublist_of_field?`);
* `Json.shown_lines` : each of them stands in quotes on a line of its own, in that order.
-/

namespace CallRouting.Report

/-! ## Texts in texts -/

/-- The first text stands somewhere in the second one. -/
def Within (s t : String) : Prop := s.toList <:+: t.toList

namespace Within

variable {s t u : String}

theorem refl (s : String) : Within s s := List.infix_rfl

theorem trans (h : Within s t) (h' : Within t u) : Within s u := List.IsInfix.trans h h'

instance : Std.Refl Within := ⟨refl⟩

instance : IsTrans String Within := ⟨fun _ _ _ => trans⟩

theorem append_right (h : Within s t) (u : String) : Within s (t ++ u) :=
  h.trans ⟨[], u.toList, by rw [String.toList_append, List.nil_append]⟩

theorem append_left (h : Within s t) (u : String) : Within s (u ++ t) :=
  h.trans ⟨u.toList, [], by rw [String.toList_append, List.append_nil]⟩

theorem intercalate (sep : String) {parts : List String} (h : s ∈ parts) :
    Within s (sep.intercalate parts) := by
  induction parts with
  | nil => cases h
  | cons p ps ih =>
    cases ps with
    | nil =>
      rw [List.mem_singleton.1 h, String.intercalate_singleton]
      exact refl p
    | cons q qs =>
      rw [String.intercalate_cons_cons]
      rcases List.mem_cons.1 h with rfl | h
      · exact ((refl s).append_right _).append_right _
      · exact (ih h).append_left _

end Within

/-! ## Tables -/

namespace Table

theorem within_drawLine {widths : List Nat} {cells : List String}
    (hlen : cells.length ≤ widths.length) {cell : String} (h : cell ∈ cells) :
    Within cell (drawLine widths cells) := by
  obtain ⟨i, hi, rfl⟩ := List.mem_iff_getElem.1 h
  have hpadded : Within cells[i] (padded widths[i] cells[i]) :=
    (((Within.refl _).append_left " ").append_right _).append_right " "
  have hmem : padded widths[i] cells[i] ∈ List.zipWith padded widths cells := by
    rw [← List.getElem_zipWith (f := padded) (h := by rw [List.length_zipWith]; omega)]
    exact List.getElem_mem _
  exact ((hpadded.trans (.intercalate "┆" hmem)).append_left "│").append_right "│"

theorem intercalate_cellLines (cell : String) : "\n".intercalate (cellLines cell) = cell := by
  have hlines : (cellLines cell).map String.toList = cell.toList.splitOn '\n' := by
    simp [cellLines, Text.pieces, Function.comp_def]
  rw [← String.toList_inj, String.toList_intercalate, hlines]
  exact List.intercalate_splitOn '\n'

/-- The lines show these cells side by side: each cell may have several parts, one below the other,
and each part stands on the line with its number. -/
def Shows (cells lines : List String) : Prop :=
  ∀ cell ∈ cells, ∃ parts, "\n".intercalate parts = cell ∧
    ∀ (i : Nat) (part : String), parts[i]? = some part →
      ∃ line, lines[i]? = some line ∧ Within part line

/-- A row is as high as its highest cell, so that all of each cell is drawn. -/
theorem shows_drawRow {widths : List Nat} {row : List String} (hlen : row.length ≤ widths.length) :
    Shows row (drawRow widths row) := by
  refine fun cell hcell => ⟨cellLines cell, intercalate_cellLines cell, fun i part hpart => ?_⟩
  have hheight : (cellLines cell).length ≤
      (row.map cellLines).foldl (fun h ls => max h ls.length) 0 := by
    rw [← List.foldl_map (f := List.length) (g := max), List.foldl_max, Nat.zero_max]
    exact List.le_max?_getD_of_mem (List.mem_map_of_mem (List.mem_map_of_mem hcell))
  obtain ⟨hi, -⟩ := List.getElem?_eq_some_iff.1 hpart
  refine ⟨drawLine widths ((row.map cellLines).map fun ls => ls[i]?.getD ""), ?_,
    within_drawLine (by simpa using hlen) ?_⟩
  · rw [drawRow, List.getElem?_map, List.getElem?_range (by omega)]
    rfl
  · refine List.mem_map.2 ⟨cellLines cell, List.mem_map_of_mem hcell, ?_⟩
    rw [hpart]
    rfl

theorem length_widest (ms ns : List Nat) : (widest ms ns).length = max ms.length ns.length := by
  induction ms, ns using widest.induct with
  | case1 ns => simp only [widest, List.length_nil, Nat.zero_max]
  | case2 ms => simp [widest]
  | case3 m ms n ns ih => simp only [widest, List.length_cons, ih, Nat.succ_max_succ]

theorem length_foldl_widest (rows : List (List String)) (ws : List Nat) :
    (rows.foldl (fun ws row => widest ws (row.map cellWidth)) ws).length =
      (rows.map List.length).foldl max ws.length := by
  induction rows generalizing ws with
  | nil => rfl
  | cons row rows ih =>
    rw [List.foldl_cons, ih, length_widest, List.length_map]
    rfl

/-- There is a column for each cell. -/
theorem length_le_widths (t : Table) {row : List String} (h : row ∈ t.header :: t.rows) :
    row.length ≤ t.widths.length := by
  rw [widths, length_foldl_widest, List.foldl_max, List.length_nil, Nat.zero_max]
  exact List.le_max?_getD_of_mem (List.mem_map_of_mem h)

/-- The text shows these rows one below the other, with the same line between them. -/
def ShowsRows (text : String) (rows : List (List String)) : Prop :=
  ∃ (above below : List String) (between : String) (blocks : List (List String)),
    text = "\n".intercalate (above ++ [between].intercalate blocks ++ below) ∧
      List.Forall₂ Shows rows blocks

theorem showsRows_draw (t : Table) : ShowsRows t.draw t.rows := by
  let ws := t.widths
  refine ⟨border "┌" "─" "┬" "┐" ws :: drawRow ws t.header ++ [border "╞" "═" "╪" "╡" ws],
    [border "└" "─" "┴" "┘" ws], border "├" "╌" "┼" "┤" ws, t.rows.map (drawRow ws), ?_, ?_⟩
  · rw [draw, ← List.append_cons]
  · rw [List.forall₂_map_right_iff, List.forall₂_same]
    exact fun row h => shows_drawRow (t.length_le_widths (List.mem_cons_of_mem _ h))

/-- Some of the cells of each row are shown if all are. -/
theorem ShowsRows.map {text : String} {rows : List (List String)} (h : ShowsRows text rows)
    {f : List String → List String} (hf : ∀ row, f row ⊆ row) : ShowsRows text (rows.map f) := by
  obtain ⟨above, below, between, blocks, htext, hrows⟩ := h
  refine ⟨above, below, between, blocks, htext, ?_⟩
  rw [List.forall₂_map_left_iff]
  exact hrows.imp fun row block hrow cell hcell => hrow cell (hf row hcell)

end Table

/-! ## JSON -/

namespace Json

mutual

/-- The texts in a value, from the first to the last; names of fields are none. -/
def texts : Json → List String
  | .text s => [s]
  | .array items => (textsOfItems items).flatten
  | .object fields => (textsOfFields fields).flatten
  | .null | .bool _ | .number _ => []

def textsOfItems : List Json → List (List String)
  | [] => []
  | j :: r => j.texts :: textsOfItems r

def textsOfFields : List (String × Json) → List (List String)
  | [] => []
  | (_, j) :: r => j.texts :: textsOfFields r

end

/-- The field of this name, if the value is an object that has it. -/
def field? (name : String) : Json → Option Json
  | .object fields => Dict.find name fields
  | _ => none

theorem field?_ofFields (name : String) (l : List (String × Json)) :
    (ofFields l).field? name = (Dict.ofList l).get? name := rfl

theorem sublist_of_find {name : String} {v : Json} {fields : List (String × Json)}
    (h : Dict.find name fields = some v) : v.texts.Sublist (textsOfFields fields).flatten := by
  induction fields with
  | nil => cases h
  | cons field fields ih =>
    rw [Dict.find] at h
    rw [textsOfFields, List.flatten_cons]
    split at h
    · rw [← Option.some.inj h]
      exact List.sublist_append_left _ _
    · exact (ih h).trans (List.sublist_append_right _ _)

/-- The texts of a field are among those of the object. -/
theorem sublist_of_field? {name : String} {j v : Json} (h : j.field? name = some v) :
    v.texts.Sublist j.texts := by
  cases j with
  | object fields =>
    rw [texts]
    exact sublist_of_find h
  | null | bool | number | text | array => cases h

/-- These texts stand on different lines, one below the other. -/
abbrev Shown (texts lines : List String) : Prop := List.SublistForall₂ Within texts lines

theorem Shown.append {ts ls ts' ls' : List String} (h : Shown ts ls) (h' : Shown ts' ls') :
    Shown (ts ++ ts') (ls ++ ls') := by
  obtain ⟨ms, hms, hsub⟩ := List.sublistForall₂_iff.1 h
  obtain ⟨ms', hms', hsub'⟩ := List.sublistForall₂_iff.1 h'
  exact List.sublistForall₂_iff.2 ⟨ms ++ ms', List.rel_append hms hms', hsub.append hsub'⟩

/-- The lines may be made longer. -/
theorem Shown.of_forall₂ {ts ls ls' : List String} (h : Shown ts ls)
    (hls : List.Forall₂ Within ls ls') : Shown ts ls' :=
  IsTrans.trans _ _ _ h (List.sublistForall₂_iff.2 ⟨ls', hls, List.Sublist.refl ls'⟩)

/-- There may be other lines between them. -/
theorem Shown.of_sublist {ts ls ls' : List String} (h : Shown ts ls) (hls : ls.Sublist ls') :
    Shown ts ls' :=
  IsTrans.trans _ _ _ h hls.sublistForall₂

theorem close_within (mark : String) (ls : List String) :
    List.Forall₂ Within ls (close mark ls) := by
  induction ls using close.induct with
  | case1 => exact .nil
  | case2 l => exact .cons ((Within.refl l).append_right mark) .nil
  | case3 l ls hne ih =>
    rw [close]
    · exact .cons (.refl l) ih
    · exact hne

theorem start_within (mark : String) (ls : List String) :
    List.Forall₂ Within ls (start mark ls) := by
  cases ls with
  | nil => exact .nil
  | cons l ls => exact .cons ((Within.refl l).append_left mark) (List.forall₂_refl ls)

/-- Commas and brackets leave alone what the parts show. -/
theorem shown_separated {tss parts : List (List String)} (h : List.Forall₂ Shown tss parts) :
    Shown tss.flatten (separated parts) := by
  induction h with
  | nil => exact .nil
  | @cons ts part tss parts hpart h ih =>
    cases parts with
    | nil =>
      cases h
      rw [List.flatten_cons, List.flatten_nil, List.append_nil]
      exact hpart
    | cons p ps => exact (hpart.of_forall₂ (close_within "," part)).append ih

theorem shown_bracketed (opening closing : String) {tss parts : List (List String)}
    (h : List.Forall₂ Shown tss parts) : Shown tss.flatten (bracketed opening closing parts) := by
  have hseparated := shown_separated h
  cases h with
  | nil => exact .nil
  | cons hpart h =>
    have hdeeper := hseparated.of_forall₂ (List.forall₂_map_right_iff.2
      (List.forall₂_same.2 fun l _ => (Within.refl l).append_left "  "))
    exact .cons_right (hdeeper.of_sublist (List.sublist_append_left _ [closing]))

mutual

theorem shown_lines : ∀ j : Json, Shown (j.texts.map quoted) j.lines
  | .text s => .cons (.refl (quoted s)) .nil
  | .array items => by
    rw [texts, List.map_flatten]
    exact shown_bracketed "[" "]" (shown_items items)
  | .object fields => by
    rw [texts, List.map_flatten]
    exact shown_bracketed "\x7b" "\x7d" (shown_fields fields)
  | .null | .bool _ | .number _ => .nil

theorem shown_items : ∀ items : List Json,
    List.Forall₂ Shown ((textsOfItems items).map (List.map quoted)) (linesOfItems items)
  | [] => .nil
  | j :: r => .cons (shown_lines j) (shown_items r)

theorem shown_fields : ∀ fields : List (String × Json),
    List.Forall₂ Shown ((textsOfFields fields).map (List.map quoted)) (linesOfFields fields)
  | [] => .nil
  | (name, j) :: r =>
    .cons ((shown_lines j).of_forall₂ (start_within (quoted name ++ ": ") j.lines))
      (shown_fields r)

end

end Json
end CallRouting.Report
