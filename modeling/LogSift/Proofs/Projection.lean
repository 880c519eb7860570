import Mathlib.Data.List.Forall2
import Mathlib.Data.List.Induction
import LogSift.Projection
import LogSift.Proofs.Keyed
import LogSift.Proofs.Text.Decimal
/-!
# What a projection shows

A row has the text of its line and, under each other name, the last one of
the line's fields whose name is that name in lower case (`RowOf`). The
columns are the names that fields of visible lines have in lower case, and a
column holds integers if all values seen under it are some
(`find?_columns`). A value is seen also where a later field of the same line
takes its place in the row. So the type of a column tells what is stored in
the rows where no names of a line are the same in lower case
(`build_describes`), but not in general (`not_typed_by_rows`).
-/


namespace LogSift

namespace Keyed

variable {α : Type} {k : Keyed α} {name : String}

theorem has_iff_mem_names : k.has name = true ↔ name ∈ k.names := by
  simp [has, find?, names, Option.isSome_map, List.find?_isSome]

end Keyed

namespace Projection

variable {log : Log} {l : Line} {name value : String} {columns : Keyed ColumnType}
variable {fields : List (String × String)}

/-- **An integer of 64 bits** is what a text of digits writes, with a sign or without one. -/
theorem isInteger_iff : isInteger value = true ↔ ∃ z, Text.WritesInteger value.toList z := by
  rw [isInteger]
  simp only [← Text.readInt_eq_ok_iff]
  rcases Text.readInt value.toList with e | z <;> simp [Except.toOption]

/-! ## Rows -/

/-- **The row of a line**: its text, and under any other name the last one of its fields whose
name is that name in lower case. -/
structure RowOf (l : Line) (r : Keyed String) : Prop where
  text : r.find? textColumn = some l.text
  field : ∀ name, name ≠ textColumn → r.find? name =
    ((l.fields.entries.filter fun e => Unicode.lower e.1 = name).getLast?).map (·.2)

theorem rowOf_row (l : Line) : RowOf l (row l) where
  text := by rw [row, Keyed.find?_insert, if_pos rfl]
  field name hname := by
    have hcells : (cells l).filter (·.1 = name) =
        (l.fields.entries.filter fun e => Unicode.lower e.1 = name).map
          fun e => (Unicode.lower e.1, e.2) := by
      rw [cells, List.filter_filter, List.filter_map]
      congr 2
      funext e
      by_cases he : Unicode.lower e.1 = name <;> simp [he, hname]
    rw [row, Keyed.find?_insert, if_neg hname, Keyed.ofList, Keyed.find?_insertAll,
      Keyed.find?_empty, Option.or_none, ← List.head?_filter, List.filter_reverse,
      List.head?_reverse, hcells, List.getLast?_map, Option.map_map]
    rfl

theorem forall₂_rows (log : Log) : List.Forall₂ RowOf (log.filter (·.visible)) (build log).rows := by
  rw [build, List.forall₂_map_right_iff]
  exact List.forall₂_same.mpr fun l _ => rowOf_row l

/-! ## Columns -/

theorem find?_note (columns : Keyed ColumnType) (name value other : String) :
    (note columns name value).find? other =
      if other = name then
        some (if isInteger value then (columns.find? name).getD .integer else .text)
      else columns.find? other := by
  rw [note]
  split <;> rw [Keyed.find?_insert]

/-- The type of a column with some values in it, if there is one. -/
def typeOf? (values : List String) : Option ColumnType :=
  if values.isEmpty then none else some (if values.all isInteger then .integer else .text)

theorem isSome_typeOf? {values : List String} :
    (typeOf? values).isSome = true ↔ ∃ value, value ∈ values := by
  cases values with
  | nil => simp [typeOf?]
  | cons v values => exact iff_of_true rfl ⟨v, List.mem_cons_self⟩

theorem typeOf?_eq_integer {values : List String} : typeOf? values = some .integer ↔
    (∃ value, value ∈ values) ∧ ∀ value ∈ values, isInteger value = true := by
  cases values with
  | nil => simp [typeOf?]
  | cons v values =>
    rw [and_iff_right ⟨v, List.mem_cons_self⟩, typeOf?]
    simp

/-- One more value is taken by an integer column if it is an integer. -/
theorem typeOf?_concat (values : List String) (value : String) :
    typeOf? (values ++ [value]) =
      some (if isInteger value then (typeOf? values).getD .integer else .text) := by
  cases values with
  | nil => simp [typeOf?]
  | cons v values => cases hvalue : isInteger value <;> simp [typeOf?, hvalue]

/-- **A column gets its type from the values** noted under its name. -/
theorem find?_foldl_note (hnone : columns.find? name = none) (pairs : List (String × String)) :
    (pairs.foldl (fun acc c => note acc c.1 c.2) columns).find? name =
      typeOf? ((pairs.filter (·.1 = name)).map (·.2)) := by
  induction pairs using List.reverseRecOn with
  | nil => exact hnone
  | append_singleton pairs c ih =>
    rw [List.foldl_append, List.foldl_cons, List.foldl_nil, find?_note, ih, List.filter_append, List.map_append]
    by_cases hc : c.1 = name
    · have hlast : ([c].filter (·.1 = name)).map (·.2) = [c.2] := by simp [hc]
      rw [if_pos hc.symm, hc, ih, hlast, typeOf?_concat]
    · rw [if_neg (Ne.symm hc)]
      simp [hc]

/-- A column stays one. -/
theorem has_foldl_note (h : columns.has name = true) (pairs : List (String × String)) :
    (pairs.foldl (fun acc c => note acc c.1 c.2) columns).has name = true := by
  induction pairs generalizing columns with
  | nil => exact h
  | cons c pairs ih =>
    refine ih ?_
    rw [Keyed.has, find?_note]
    split
    · rfl
    · exact h

/-- **A value is seen under a name**: a visible line has it in a field whose name is that name in
lower case. -/
def Seen (log : Log) (name value : String) : Prop :=
  ∃ l ∈ log, l.visible = true ∧ ∃ field, (field, value) ∈ l.fields.entries ∧
    Unicode.lower field = name

theorem mem_cells : (name, value) ∈ cells l ↔
    name ≠ textColumn ∧ ∃ field, (field, value) ∈ l.fields.entries ∧ Unicode.lower field = name := by
  simp only [cells, List.mem_filter, List.mem_map, Prod.mk.injEq, Prod.exists, bne_iff_ne, ne_eq]
  constructor
  · rintro ⟨⟨field, v, hmem, hlower, rfl⟩, hname⟩
    exact ⟨hname, field, hmem, hlower⟩
  · rintro ⟨hname, field, hmem, hlower⟩
    exact ⟨⟨field, value, hmem, hlower, rfl⟩, hname⟩

/-- The values noted under a name are those seen under it. -/
theorem mem_notedValues (hname : name ≠ textColumn) :
    value ∈ ((((log.filter (·.visible)).flatMap cells).filter (·.1 = name)).map (·.2)) ↔
      Seen log name value := by
  simp only [List.mem_map, List.mem_filter, List.mem_flatMap, decide_eq_true_eq, Prod.exists,
    mem_cells, Seen]
  constructor
  · rintro ⟨n, v, ⟨⟨l, ⟨hl, hvisible⟩, -, hfield⟩, rfl⟩, rfl⟩
    exact ⟨l, hl, hvisible, hfield⟩
  · rintro ⟨l, hl, hvisible, hfield⟩
    exact ⟨name, value, ⟨⟨l, ⟨hl, hvisible⟩, hname, hfield⟩, rfl⟩, rfl⟩

theorem find?_columns (hname : name ≠ textColumn) :
    (build log).columns.find? name =
      typeOf? ((((log.filter (·.visible)).flatMap cells).filter (·.1 = name)).map (·.2)) := by
  refine find?_foldl_note ?_ _
  rw [Keyed.find?_insert, if_neg hname]
  rfl

theorem textColumn_mem_columns (log : Log) : textColumn ∈ (build log).columns.names := by
  refine Keyed.has_iff_mem_names.mp (has_foldl_note ?_ _)
  rw [Keyed.has, Keyed.find?_insert, if_pos rfl]
  rfl

/-- **The columns** are the names that values are seen under, -/
theorem has_columns (hname : name ≠ textColumn) :
    (build log).columns.has name = true ↔ ∃ value, Seen log name value := by
  rw [Keyed.has, find?_columns hname, isSome_typeOf?]
  simp only [mem_notedValues hname]

/-- and an **integer column** has only integers among them. -/
theorem find?_columns_integer (hname : name ≠ textColumn) :
    (build log).columns.find? name = some .integer ↔
      (build log).columns.has name = true ∧
        ∀ value, Seen log name value → isInteger value = true := by
  rw [has_columns hname, find?_columns hname, typeOf?_eq_integer]
  simp only [mem_notedValues hname]

/-! ## Rows and columns -/

/-- **A value is stored under a name** in a row. -/
def Stored (p : Projection) (name value : String) : Prop :=
  ∃ r ∈ p.rows, r.find? name = some value

/-- What is stored has been seen. -/
theorem Stored.seen (h : (build log).Stored name value) (hname : name ≠ textColumn) :
    Seen log name value := by
  obtain ⟨r, hr, hfind⟩ := h
  obtain ⟨l, hl, rfl⟩ := List.mem_map.mp hr
  obtain ⟨hl, hvisible⟩ := List.mem_filter.mp hl
  rw [(rowOf_row l).field name hname] at hfind
  obtain ⟨e, he, rfl⟩ := Option.map_eq_some_iff.mp hfind
  obtain ⟨hmem, hlower⟩ := List.mem_filter.mp (List.mem_of_getLast? he)
  exact ⟨l, hl, hvisible, e.1, hmem, by simpa using hlower⟩

/-- **Where a value is seen something is stored**: that value, or that of a later field of the same
line whose name is the same in lower case. -/
theorem Seen.exists_stored (h : Seen log name value) (hname : name ≠ textColumn) :
    ∃ l ∈ log, l.visible = true ∧ ∃ e ∈ l.fields.entries, ∃ e' ∈ l.fields.entries,
      Unicode.lower e.1 = name ∧ Unicode.lower e'.1 = name ∧ e.2 = value ∧
        (build log).Stored name e'.2 := by
  obtain ⟨l, hl, hvisible, field, hmem, hlower⟩ := h
  have hne : (l.fields.entries.filter fun e => Unicode.lower e.1 = name) ≠ [] :=
    List.ne_nil_of_mem (List.mem_filter.mpr ⟨hmem, by simpa using hlower⟩)
  have hlast := List.getLast?_eq_some_getLast hne
  obtain ⟨hmem', hlower'⟩ := List.mem_filter.mp (List.getLast_mem hne)
  refine ⟨l, hl, hvisible, _, hmem, _, hmem', hlower, by simpa using hlower', rfl,
    row l, List.mem_map_of_mem (List.mem_filter.mpr ⟨hl, hvisible⟩), ?_⟩
  rw [(rowOf_row l).field name hname, hlast, Option.map_some]

/-- **No two fields of a line** have the same name in lower case. -/
def FieldsApart (l : Line) : Prop :=
  ∀ e ∈ l.fields.entries, ∀ e' ∈ l.fields.entries, Unicode.lower e.1 = Unicode.lower e'.1 → e = e'

/-- **A projection describes its rows.** There is a row for each visible line, in order, with the text
of the line and under any other name the last one of the fields whose name is that in lower
case. What a row has a value under is a column, and any column but `text` is that in some row. Such
a column is one of integers iff all values seen under its name are integers of 64 bits, also those
that a later field of the line replaces in the row. So all values stored in the rows under an integer
column are integers, and where no two fields of a visible line have the same name in lower case
the integer columns are just those under which all values stored are. -/
theorem build_describes (log : Log) :
    let p := build log
    List.Forall₂ RowOf (log.filter (·.visible)) p.rows ∧
      (∀ r ∈ p.rows, ∀ name ∈ r.names, name ∈ p.columns.names) ∧
      (∀ name ∈ p.columns.names, name ≠ textColumn → ∃ r ∈ p.rows, name ∈ r.names) ∧
      ∀ name ∈ p.columns.names, name ≠ textColumn →
        (p.columns.find? name = some .integer ↔ ∀ value, Seen log name value →
          ∃ z, Text.WritesInteger value.toList z) ∧
        (p.columns.find? name = some .integer → ∀ value, p.Stored name value →
          ∃ z, Text.WritesInteger value.toList z) ∧
        ((∀ l ∈ log, l.visible = true → FieldsApart l) →
          (p.columns.find? name = some .integer ↔ ∀ value, p.Stored name value →
            ∃ z, Text.WritesInteger value.toList z)) := by
  intro p
  have hinteger : ∀ name ∈ p.columns.names, name ≠ textColumn →
      (p.columns.find? name = some .integer ↔ ∀ value, Seen log name value →
        ∃ z, Text.WritesInteger value.toList z) := by
    intro name hcolumn hname
    rw [find?_columns_integer hname, and_iff_right (Keyed.has_iff_mem_names.mpr hcolumn)]
    simp only [isInteger_iff]
  refine ⟨forall₂_rows log, fun r hr name hmem => ?_, fun name hcolumn hname => ?_,
    fun name hcolumn hname => ⟨hinteger name hcolumn hname, fun hfind value hstored => ?_,
      fun hapart => ?_⟩⟩
  · by_cases hname : name = textColumn
    · rw [hname]
      exact textColumn_mem_columns log
    · -- what is there of the name in the row has been seen
      have hhas := Keyed.has_iff_mem_names.mpr hmem
      obtain ⟨value, hvalue⟩ := Option.isSome_iff_exists.mp hhas
      exact Keyed.has_iff_mem_names.mp
        ((has_columns hname).mpr ⟨value, Stored.seen ⟨r, hr, hvalue⟩ hname⟩)
  · obtain ⟨value, hseen⟩ := (has_columns hname).mp (Keyed.has_iff_mem_names.mpr hcolumn)
    obtain ⟨-, -, -, -, -, e, -, -, -, -, r, hr, hfind⟩ := hseen.exists_stored hname
    exact ⟨r, hr, Keyed.has_iff_mem_names.mp (by rw [Keyed.has, hfind]; rfl)⟩
  · exact (hinteger name hcolumn hname).mp hfind value (hstored.seen hname)
  · rw [hinteger name hcolumn hname]
    refine ⟨fun h value hstored => h value (hstored.seen hname), fun h value hseen => ?_⟩
    -- the value is itself the one that is stored
    obtain ⟨l, hl, hvisible, e, he, e', he', hlower, hlower', rfl, hstored⟩ :=
      hseen.exists_stored hname
    have hsame : e = e' := hapart l hl hvisible e he e' he' (hlower.trans hlower'.symm)
    exact h e.2 (hsame ▸ hstored)

/-- Two names of one column are on different lines, and the line with a text in it is hidden. -/
theorem build_describes_of_names :
    let log : Log := [
      { Line.ofText "a" 1 with fields := Keyed.ofList [("Car", "+1"), ("event", "LAP")] },
      { Line.ofText "b" 2 with fields := Keyed.ofList [("car", "x")], visible := false },
      { Line.ofText "c" 3 with fields := Keyed.ofList [("TEXT", "x"), ("car", "-2")] }]
    let p := build log
    p.columns.names = ["car", "event", "text"] ∧
      (∀ l ∈ log, l.visible = true → FieldsApart l) ∧
      p.columns.find? "car" = some .integer ∧ p.Stored "car" "-2" ∧
      ∃ z, Text.WritesInteger "-2".toList z := by
  intro log p
  have hnames : p.columns.names = ["car", "event", "text"] := by decide +kernel
  have hapart : ∀ l ∈ log, l.visible = true → FieldsApart l := by
    unfold FieldsApart
    decide +kernel
  have hstored : p.Stored "car" "-2" := by
    unfold Stored
    decide +kernel
  have hinteger : p.columns.find? "car" = some .integer := by decide +kernel
  have hcolumn : "car" ∈ p.columns.names := by
    rw [hnames]
    decide
  obtain ⟨-, -, -, htypes⟩ := build_describes log
  obtain ⟨-, -, hiff⟩ := htypes "car" hcolumn (by decide)
  exact ⟨hnames, hapart, hinteger, hstored, (hiff hapart).mp hinteger "-2" hstored⟩

/-- A column may be one of texts although all values stored under it are integers: of two fields of
a line with the same name in lower case only one is stored, and the other is a text. -/
theorem not_typed_by_rows : ¬ ∀ (log : Log) (name : String), name ∈ (build log).columns.names →
    name ≠ textColumn →
      ((build log).columns.find? name = some .integer ↔ ∀ value, (build log).Stored name value →
        ∃ z, Text.WritesInteger value.toList z) := by
  intro hclaim
  let log : Log := [{ Line.ofText "a" 1 with fields := Keyed.ofList [("N", "x"), ("n", "1")] }]
  have hrows : (build log).rows = [Keyed.ofList [("n", "1"), ("text", "a")]] := by decide +kernel
  have htype : (build log).columns.find? "n" = some .text := by decide +kernel
  have hcolumn : "n" ∈ (build log).columns.names := by decide +kernel
  have hall : ∀ value, (build log).Stored "n" value → ∃ z, Text.WritesInteger value.toList z := by
    rintro value ⟨r, hr, hfind⟩
    rw [hrows, List.mem_singleton] at hr
    rw [hr] at hfind
    obtain rfl : "1" = value := Option.some.inj hfind
    exact isInteger_iff.mp (by decide)
  have hinteger := (hclaim log "n" hcolumn (by decide)).mpr hall
  rw [htype] at hinteger
  cases hinteger

end Projection

end LogSift
