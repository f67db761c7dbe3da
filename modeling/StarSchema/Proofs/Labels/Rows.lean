import StarSchema.Proofs.Labels.Fetch
import StarSchema.Proofs.Value.Conversion

/-!
# Labels are what rows say

The labels of a table are collected in one pass over the rows of an answer. For a dimension a row
writes its label over that of an earlier row with the same key; for a lookup table a row adds the
label of its distal key behind those that its proximal key has already. Read from the end, the pass
leaves for each key the last label that the rows have for it, or all of them in order.

Both passes are folds over entries, pairs of a key and a label. What carries the proofs is a law for
one key: the fold over all entries does to the label of a key what the fold over the entries of that
key does, so rows of other keys may stand anywhere between.

Main definitions: `Row.entry?`, `Row.part?`, `labelsFor`, `Labels.AreOfEntries`,
`Labels.AreOfPairs`.

Main results: `areOfEntries_of_rows`, `areOfPairs_of_rows`.
-/

namespace StarSchema

/-! ### What rows say -/

/-- The key in a cell, its integer; none if the cell is null. -/
def Input.key? (cell : Input) : Option Int64 :=
  match convert .int cell with
  | .ok (some (.int key)) => some key
  | _ => none

/-- The text in a cell; the empty one if the cell is null, blank, zero or false. -/
def Input.labelText (cell : Input) : String :=
  if cell.isNull || cell.isBlank then "" else cell.toStr

/-- The key and the label in a row of a dimension. -/
def Row.entry? : Row → Option (Int64 × String)
  | [keyCell, labelCell] => keyCell.key?.map (·, labelCell.labelText)
  | _ => none

/-- The proximal and the distal key in a row of a lookup table. -/
def Row.pair? : Row → Option (Int64 × Int64)
  | [proximalCell, distalCell] => do return (← proximalCell.key?, ← distalCell.key?)
  | _ => none

/-- The proximal key of a pair with the label of its distal key, if there is one to show. -/
def partOver? (distal : Labels) (pair : Int64 × Int64) : Option (Int64 × String) :=
  (distal[pair.2]?.filter (· ≠ "")).map (pair.1, ·)

/-- The proximal key in a row of a lookup table and the label that the row adds to it. -/
def Row.part? (distal : Labels) (row : Row) : Option (Int64 × String) :=
  row.pair?.bind (partOver? distal)

/-- The labels that entries have for a key, in order. -/
def labelsFor (key : Int64) (entries : List (Int64 × String)) : List String :=
  (entries.filter (·.1 == key)).map (·.2)

/-- A row of two cells, of which the first is null or an integer. Any cell has a text. -/
def Row.IsEntry (row : Row) : Prop :=
  ∃ keyCell labelCell, row = [keyCell, labelCell] ∧ (convert .int keyCell).isOk = true

/-- A row of two cells, each null or an integer. -/
def Row.IsPair (row : Row) : Prop :=
  ∃ proximalCell distalCell, row = [proximalCell, distalCell] ∧
    (convert .int proximalCell).isOk = true ∧ (convert .int distalCell).isOk = true

/-- The labels say what the rows of a dimension say, and nothing else. -/
structure Labels.AreOfEntries (labels : Labels) (rows : List Row) : Prop where
  /-- The key zero, which refers to no row, has the empty label even if a row has that key. -/
  zero : labels[(0 : Int64)]? = some ""
  /-- A cell that is not null has a key. -/
  present : ∀ keyCell labelCell, [keyCell, labelCell] ∈ rows → keyCell ≠ .null →
    ∃ key ∈ labels, convert .int keyCell = .ok (some (.int key))
  keys : ∀ key, key ∈ labels ↔
    key = 0 ∨ ∃ keyCell labelCell, [keyCell, labelCell] ∈ rows ∧ keyCell.key? = some key
  /-- Of the rows with one key the last one counts. -/
  label : ∀ key ≠ 0, labels[key]? = (labelsFor key (rows.filterMap Row.entry?)).getLast?

/-- The labels say what the rows of a lookup table say over the labels of its distal dimension, and
nothing else. -/
structure Labels.AreOfPairs (labels distal : Labels) (rows : List Row) : Prop where
  zero : labels[(0 : Int64)]? = some ""
  keys : ∀ key, key ∈ labels ↔
    key = 0 ∨ ∃ proximalCell distalCell other label, [proximalCell, distalCell] ∈ rows ∧
      proximalCell.key? = some key ∧ distalCell.key? = some other ∧
      distal[other]? = some label ∧ label ≠ ""
  /-- All labels of a key, in the order of the rows. -/
  label : ∀ key ≠ 0, key ∈ labels →
    labels[key]? = some ("; ".intercalate (labelsFor key (rows.filterMap (Row.part? distal))))

/-! ### One row -/

theorem Input.isOk_convert_int_iff {cell : Input} :
    (convert .int cell).isOk = true ↔
      cell = .null ∨ ∃ key, convert .int cell = .ok (some (.int key)) := by
  constructor
  · intro converted
    obtain ⟨v?, hv⟩ := exists_eq_ok_of_isOk converted
    cases v? with
    | none =>
      -- only null has no integer, since blank input has zero
      left
      rw [convert] at hv
      split at hv
      · next null => cases cell <;> first | rfl | cases null
      · split at hv
        · cases hv
        · obtain ⟨n, -, impossible⟩ := map_eq_ok_iff.mp hv
          cases impossible
    | some v =>
      have type := dataType_of_convert hv
      cases v with
      | int key => exact .inr ⟨key, hv⟩
      | bool | date | float | str => cases type
  · rintro (rfl | ⟨key, hv⟩)
    · rfl
    · rw [hv]
      rfl

theorem Input.key?_eq_some_iff {cell : Input} {key : Int64} :
    cell.key? = some key ↔ convert .int cell = .ok (some (.int key)) := by
  rw [key?]
  split
  · next n hn => rw [hn]; simp
  · next other =>
    simp only [reduceCtorEq, false_iff]
    exact other key

theorem keyOfCell_eq {cell : Input} (converted : (convert .int cell).isOk = true) :
    keyOfCell cell = .ok cell.key? := by
  rcases Input.isOk_convert_int_iff.mp converted with rfl | ⟨key, hkey⟩
  · rfl
  · rw [keyOfCell, Input.key?_eq_some_iff.mpr hkey, hkey]
    rfl

theorem labelOfCell_eq (cell : Input) : labelOfCell cell = .ok cell.labelText := by
  rw [labelOfCell, convert, Input.labelText]
  cases null : cell.isNull with
  | true => rfl
  | false =>
    cases blank : cell.isBlank <;> rfl

theorem labelOfRow_eq {row : Row} (h : row.IsEntry) : labelOfRow row = .ok row.entry? := by
  obtain ⟨keyCell, labelCell, rfl, converted⟩ := h
  rw [labelOfRow, keyOfCell_eq converted, Row.entry?, labelOfCell_eq]
  cases keyCell.key? <;> rfl

theorem pairOfRow_eq {row : Row} (h : row.IsPair) : pairOfRow row = .ok row.pair? := by
  obtain ⟨proximalCell, distalCell, rfl, proximal, distal⟩ := h
  rw [pairOfRow, keyOfCell_eq proximal, keyOfCell_eq distal]
  rfl

theorem Row.IsEntry.length_eq {row : Row} (h : row.IsEntry) : row.length = 2 := by
  obtain ⟨_, _, rfl, -⟩ := h
  rfl

theorem Row.IsPair.length_eq {row : Row} (h : row.IsPair) : row.length = 2 := by
  obtain ⟨_, _, rfl, -⟩ := h
  rfl

/-- A row of two cells whose keys can be read is a pair. -/
theorem Row.isPair_of_pairOfRow {row : Row} (width : row.length = 2)
    {pair? : Option (Int64 × Int64)} (h : pairOfRow row = .ok pair?) : row.IsPair := by
  obtain ⟨proximalCell, distalCell, rfl⟩ := List.length_eq_two.mp width
  have isOk {cell : Input} {key? : Option Int64} (read : keyOfCell cell = .ok key?) :
      (convert .int cell).isOk = true := by
    obtain ⟨v?, converted, -⟩ := bind_eq_ok_iff.mp read
    rw [converted]
    rfl
  obtain ⟨proximal?, proximal, h⟩ := bind_eq_ok_iff.mp h
  obtain ⟨distal?, distal, -⟩ := bind_eq_ok_iff.mp h
  exact ⟨_, _, rfl, isOk proximal, isOk distal⟩

theorem Row.entry?_eq_some_iff {row : Row} {key : Int64} {label : String} :
    row.entry? = some (key, label) ↔ ∃ keyCell labelCell, row = [keyCell, labelCell] ∧
      keyCell.key? = some key ∧ labelCell.labelText = label := by
  unfold entry?
  split
  · simp
  · next other =>
    simp only [reduceCtorEq, false_iff]
    rintro ⟨keyCell, labelCell, same, -⟩
    exact other _ _ same

theorem Row.pair?_eq_some_iff {row : Row} {proximal distal : Int64} :
    row.pair? = some (proximal, distal) ↔ ∃ proximalCell distalCell,
      row = [proximalCell, distalCell] ∧ proximalCell.key? = some proximal ∧
        distalCell.key? = some distal := by
  unfold pair?
  split
  · simp [Option.bind_eq_some_iff]
  · next other =>
    simp only [reduceCtorEq, false_iff]
    rintro ⟨proximalCell, distalCell, same, -⟩
    exact other _ _ same

theorem partOver?_eq_some_iff {distal : Labels} {pair : Int64 × Int64} {key : Int64}
    {label : String} :
    partOver? distal pair = some (key, label) ↔
      pair.1 = key ∧ distal[pair.2]? = some label ∧ label ≠ "" := by
  simp [partOver?, Option.map_eq_some_iff, Option.filter_eq_some_iff, and_comm, and_assoc]

theorem Row.part?_eq_some_iff {distal : Labels} {row : Row} {key : Int64} {label : String} :
    row.part? distal = some (key, label) ↔ ∃ proximalCell distalCell other,
      row = [proximalCell, distalCell] ∧ proximalCell.key? = some key ∧
        distalCell.key? = some other ∧ distal[other]? = some label ∧ label ≠ "" := by
  rw [part?, Option.bind_eq_some_iff]
  constructor
  · rintro ⟨⟨proximal, other⟩, hpair, hpart⟩
    obtain ⟨proximalCell, distalCell, rfl, hproximal, hother⟩ := pair?_eq_some_iff.mp hpair
    obtain ⟨rfl, found, shown⟩ := partOver?_eq_some_iff.mp hpart
    exact ⟨_, _, other, rfl, hproximal, hother, found, shown⟩
  · rintro ⟨proximalCell, distalCell, other, rfl, hproximal, hother, found, shown⟩
    exact ⟨(key, other), pair?_eq_some_iff.mpr ⟨_, _, rfl, hproximal, hother⟩,
      partOver?_eq_some_iff.mpr ⟨rfl, found, shown⟩⟩

/-! ### One key -/

theorem labelsFor_cons_self (key : Int64) (label : String) (entries : List (Int64 × String)) :
    labelsFor key ((key, label) :: entries) = label :: labelsFor key entries := by
  rw [labelsFor, List.filter_cons_of_pos (by exact beq_self_eq_true key)]
  rfl

theorem labelsFor_cons_of_ne {key other : Int64} (h : other ≠ key) (label : String)
    (entries : List (Int64 × String)) :
    labelsFor key ((other, label) :: entries) = labelsFor key entries := by
  rw [labelsFor, List.filter_cons_of_neg (by simpa using h)]
  rfl

theorem labelsFor_ne_nil_iff {key : Int64} {entries : List (Int64 × String)} :
    labelsFor key entries ≠ [] ↔ ∃ label, (key, label) ∈ entries := by
  rw [labelsFor, ne_eq, List.map_eq_nil_iff, List.filter_eq_nil_iff]
  simp

theorem getElem?_withoutSelection_of_ne {key : Int64} (h : key ≠ 0) (labels : Labels) :
    (withoutSelection labels)[key]? = labels[key]? := by
  rw [withoutSelection, Std.TreeMap.getElem?_insert]
  simp [h.symm]

/-- Each entry writes over what its key had. -/
theorem getElem?_foldl_insert (entries : List (Int64 × String)) (labels : Labels) (key : Int64) :
    (entries.foldl (fun labels (key, label) => labels.insert key label) labels)[key]? =
      (labelsFor key entries).getLast?.or labels[key]? := by
  induction entries generalizing labels with
  | nil => rfl
  | cons entry entries ih =>
    obtain ⟨other, label⟩ := entry
    rw [List.foldl_cons, ih, Std.TreeMap.getElem?_insert]
    by_cases same : other = key
    · subst same
      rw [labelsFor_cons_self, List.getLast?_cons]
      cases (labelsFor other entries).getLast? <;> simp
    · rw [labelsFor_cons_of_ne same]
      simp [same]

/-- All labels of a key as one. -/
def joined? : List String → Option String
  | [] => none
  | label :: labels => some ("; ".intercalate (label :: labels))

theorem joined?_of_ne_nil {labels : List String} (h : labels ≠ []) :
    joined? labels = some ("; ".intercalate labels) := by
  cases labels with
  | nil => exact absurd rfl h
  | cons => rfl

theorem joined?_ne_none_iff {labels : List String} : joined? labels ≠ none ↔ labels ≠ [] := by
  cases labels <;> simp [joined?]

/-- A label with one more behind it, and then the rest. -/
theorem joined?_cons_cons (first second : String) (rest : List String) :
    joined? (first :: second :: rest) = joined? ((first ++ lookupSeparator ++ second) :: rest) :=
  rfl

theorem getElem?_appendLabel_self (labels : Labels) (key : Int64) (label : String) :
    (appendLabel labels key label)[key]? = joined? (labels[key]?.toList ++ [label]) := by
  rw [appendLabel]
  cases labels[key]? <;> simp [joined?, lookupSeparator]

theorem getElem?_appendLabel_of_ne {key other : Int64} (h : other ≠ key) (labels : Labels)
    (label : String) : (appendLabel labels other label)[key]? = labels[key]? := by
  rw [appendLabel]
  cases labels[other]? <;> simp [Std.TreeMap.getElem?_insert, h]

theorem addPair_eq (distal labels : Labels) (pair : Int64 × Int64) :
    addPair distal labels pair =
      match partOver? distal pair with
      | some (key, label) => appendLabel labels key label
      | none => labels := by
  rw [addPair, partOver?]
  cases distal[pair.2]? with
  | none => rfl
  | some label =>
    by_cases empty : label = ""
    · subst empty
      rfl
    · have kept : (some label).filter (· ≠ "") = some label := by simp [empty]
      rw [kept]
      exact if_neg empty

/-- Each pair that has a label to show adds it behind those that its key has. -/
theorem getElem?_foldl_addPair (distal : Labels) (pairs : List (Int64 × Int64)) (labels : Labels)
    (key : Int64) :
    (pairs.foldl (addPair distal) labels)[key]? =
      joined? (labels[key]?.toList ++ labelsFor key (pairs.filterMap (partOver? distal))) := by
  induction pairs generalizing labels with
  | nil => cases found : labels[key]? <;> simp [labelsFor, joined?, found]
  | cons pair pairs ih =>
    rw [List.foldl_cons, ih, addPair_eq]
    cases part : partOver? distal pair with
    | none => rw [List.filterMap_cons_none part]
    | some entry =>
      obtain ⟨other, label⟩ := entry
      rw [List.filterMap_cons_some part]
      by_cases same : other = key
      · subst same
        rw [labelsFor_cons_self, getElem?_appendLabel_self]
        cases labels[other]? with
        | none => rfl
        | some before => exact (joined?_cons_cons ..).symm
      · rw [labelsFor_cons_of_ne same, getElem?_appendLabel_of_ne same]

/-! ### All rows -/

theorem mapM_eq_ok_map {ε α β : Type} {f : α → Except ε β} {g : α → β} {xs : List α}
    (h : ∀ x ∈ xs, f x = .ok (g x)) : xs.mapM f = .ok (xs.map g) := by
  rw [mapM_eq_ok_iff, List.forall₂_map_right_iff, List.forall₂_same]
  exact h

/-- What a traversal finds, with the items left out for which it finds nothing. -/
theorem filterMap_id_map {α β : Type} (g : α → Option β) (xs : List α) :
    (xs.map g).filterMap id = xs.filterMap g := by
  rw [List.filterMap_map]
  rfl

theorem dimensionLabels_eq {rows : List Row} (h : ∀ row ∈ rows, row.IsEntry) :
    dimensionLabels rows = .ok (withoutSelection ((rows.filterMap Row.entry?).foldl
      (fun labels (key, label) => labels.insert key label) ∅)) := by
  rw [dimensionLabels, mapM_eq_ok_map fun row hrow => labelOfRow_eq (h row hrow),
    ← filterMap_id_map]
  rfl

theorem lookupLabels_eq_of_isPair {rows : List Row} (h : ∀ row ∈ rows, row.IsPair)
    (distal : Labels) :
    lookupLabels distal rows = .ok (joinedLabels distal (rows.filterMap Row.pair?)) := by
  rw [lookupLabels_eq, readPairs, mapM_eq_ok_map fun row hrow => pairOfRow_eq (h row hrow),
    ← filterMap_id_map]
  rfl

theorem mem_labels_iff {labels : Labels} {key : Int64} :
    key ∈ labels ↔ labels[key]? ≠ none := by
  rw [Std.TreeMap.mem_iff_isSome_getElem?, Option.isSome_iff_ne_none]

/-- The key zero apart, the labels of entries are for their keys. -/
theorem keys_iff {labels : Labels} (zero : labels[(0 : Int64)]? = some "")
    {entries : List (Int64 × String)}
    (found : ∀ key ≠ 0, labels[key]? ≠ none ↔ labelsFor key entries ≠ []) {P : Int64 → Prop}
    (entry : ∀ key, (∃ label, (key, label) ∈ entries) ↔ P key) (key : Int64) :
    key ∈ labels ↔ key = 0 ∨ P key := by
  by_cases selection : key = 0
  · subst selection
    rw [mem_labels_iff, zero]
    simp
  · rw [mem_labels_iff, found key selection, labelsFor_ne_nil_iff, entry, or_iff_right selection]

theorem mem_entries_iff (rows : List Row) (key : Int64) :
    (∃ label, (key, label) ∈ rows.filterMap Row.entry?) ↔
      ∃ keyCell labelCell, [keyCell, labelCell] ∈ rows ∧ keyCell.key? = some key := by
  simp only [List.mem_filterMap, Row.entry?_eq_some_iff]
  constructor
  · rintro ⟨label, row, hrow, keyCell, labelCell, rfl, hkey, -⟩
    exact ⟨keyCell, labelCell, hrow, hkey⟩
  · rintro ⟨keyCell, labelCell, hrow, hkey⟩
    exact ⟨_, _, hrow, keyCell, labelCell, rfl, hkey, rfl⟩

theorem mem_parts_iff (distal : Labels) (rows : List Row) (key : Int64) :
    (∃ label, (key, label) ∈ rows.filterMap (Row.part? distal)) ↔
      ∃ proximalCell distalCell other label, [proximalCell, distalCell] ∈ rows ∧
        proximalCell.key? = some key ∧ distalCell.key? = some other ∧
        distal[other]? = some label ∧ label ≠ "" := by
  simp only [List.mem_filterMap, Row.part?_eq_some_iff]
  constructor
  · rintro ⟨label, row, hrow, proximalCell, distalCell, other, rfl, shown⟩
    exact ⟨proximalCell, distalCell, other, label, hrow, shown⟩
  · rintro ⟨proximalCell, distalCell, other, label, hrow, shown⟩
    exact ⟨label, _, hrow, proximalCell, distalCell, other, rfl, shown⟩

/-- **The labels of a dimension are those of its rows.** -/
theorem areOfEntries_of_rows {rows : List Row} (h : ∀ row ∈ rows, row.IsEntry) :
    ∃ labels, dimensionLabels rows = .ok labels ∧ labels.AreOfEntries rows := by
  refine ⟨_, dimensionLabels_eq h, ?_⟩
  generalize hlabels : withoutSelection _ = labels
  have zero : labels[(0 : Int64)]? = some "" := hlabels ▸ withoutSelection_zero _
  have label (key : Int64) (hkey : key ≠ 0) :
      labels[key]? = (labelsFor key (rows.filterMap Row.entry?)).getLast? := by
    rw [← hlabels, getElem?_withoutSelection_of_ne hkey, getElem?_foldl_insert]
    simp
  have keys := keys_iff zero (fun key hkey => by simp [label key hkey]) (mem_entries_iff rows)
  refine ⟨zero, fun keyCell labelCell hrow present => ?_, keys, label⟩
  obtain ⟨_, _, same, converted⟩ := h _ hrow
  cases same
  obtain ⟨key, hkey⟩ := (Input.isOk_convert_int_iff.mp converted).resolve_left present
  exact ⟨key, (keys key).mpr (.inr ⟨_, _, hrow, Input.key?_eq_some_iff.mpr hkey⟩), hkey⟩

/-- **The labels of a lookup table are those of its rows**, over those of its distal dimension. -/
theorem areOfPairs_of_rows {rows : List Row} (h : ∀ row ∈ rows, row.IsPair) (distal : Labels) :
    ∃ labels, lookupLabels distal rows = .ok labels ∧ labels.AreOfPairs distal rows := by
  refine ⟨_, lookupLabels_eq_of_isPair h distal, ?_⟩
  generalize hlabels : joinedLabels distal _ = labels
  have zero : labels[(0 : Int64)]? = some "" := hlabels ▸ joinedLabels_zero _ _
  have parts : (rows.filterMap Row.pair?).filterMap (partOver? distal) =
      rows.filterMap (Row.part? distal) := List.filterMap_filterMap
  have label (key : Int64) (hkey : key ≠ 0) :
      labels[key]? = joined? (labelsFor key (rows.filterMap (Row.part? distal))) := by
    rw [← hlabels, joinedLabels, getElem?_withoutSelection_of_ne hkey, getElem?_foldl_addPair,
      parts]
    simp
  have keys := keys_iff zero (fun key hkey => by rw [label key hkey, joined?_ne_none_iff])
    (mem_parts_iff distal rows)
  refine ⟨zero, keys, fun key hkey mem => ?_⟩
  rw [mem_labels_iff, label key hkey, joined?_ne_none_iff] at mem
  rw [label key hkey, joined?_of_ne_nil mem]

end StarSchema
