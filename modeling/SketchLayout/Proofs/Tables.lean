import Mathlib.Data.List.Forall2
import SketchLayout.Proofs.FixedPlaces
import SketchLayout.Proofs.Machine
import SketchLayout.Report.Table

/-!
# Tables are complete

A table is read back line by line and word by word. `Table.words` splits a row at white space and at the
signs around an interval; a row is made of gaps and words in turn (`Parted`), and so its words come back
whatever their widths (`words_spelled`). `Table.Shows` says what the block of a report holds: a caption, a row
for each item with its label and its numbers, each rounded once, and the number of items. Only the three
axes have rows of intervals, which is enough for what a job comes to (`length_intervals_le`).
-/

namespace SketchLayout

namespace Table

/-! ## Lines and words -/

/-- What stands between the words of a row: white space and the signs around an interval. -/
def isSeparator (c : Char) : Bool := isBlank c || ['[', ']', ',', ':'].contains c

/-- The words of a row. -/
def words (row : List Char) : List (List Char) := (row.splitOnP isSeparator).filter fun word => !word.isEmpty

/-- Some characters without a separator. -/
structure IsWord (text : List Char) : Prop where
  ne_nil : text ≠ []
  plain : ∀ c ∈ text, isSeparator c = false

theorem words_nil : words [] = [] := rfl

theorem words_append_cons (row rest : List Char) {c : Char} (hc : isSeparator c = true) :
    words (row ++ c :: rest) = words row ++ words rest := by
  rw [words, List.splitOnP_append_cons row rest hc, List.filter_append]
  rfl

/-- Separators alone hold no words. -/
theorem words_gap {gap : List Char} (hgap : ∀ c ∈ gap, isSeparator c = true) (rest : List Char) :
    words (gap ++ rest) = words rest := by
  induction gap with
  | nil => rfl
  | cons c gap ih =>
    have hc : isSeparator c = true := hgap c (List.mem_cons_self ..)
    have hmore := words_append_cons [] (gap ++ rest) hc
    rw [words_nil, List.nil_append, List.nil_append] at hmore
    rw [List.cons_append, hmore]
    exact ih fun d hd => hgap d (List.mem_cons_of_mem c hd)

theorem words_word {text : List Char} (h : IsWord text) : words text = [text] := by
  rw [words, List.splitOnP_eq_singleton h.plain]
  simp [h.ne_nil]

/-- Some separators, none of which breaks the line. -/
structure IsGap (text : List Char) : Prop where
  ne_nil : text ≠ []
  blank : ∀ c ∈ text, isSeparator c = true ∧ c ≠ '\n'

theorem isWord_iff {text : List Char} : IsWord text ↔ text ≠ [] ∧ text.any isSeparator = false := by
  simp only [List.any_eq_false, Bool.not_eq_true]
  exact ⟨fun h => ⟨h.1, h.2⟩, fun h => ⟨h.1, h.2⟩⟩

theorem isGap_iff {text : List Char} : IsGap text ↔ text ≠ [] ∧ text.all isSeparator = true ∧ '\n' ∉ text := by
  rw [List.all_eq_true]
  constructor
  · rintro ⟨hne, hblank⟩
    exact ⟨hne, fun c hc => (hblank c hc).1, fun hbreak => (hblank _ hbreak).2 rfl⟩
  · rintro ⟨hne, hblank, hbreak⟩
    exact ⟨hne, fun c hc => ⟨hblank c hc, ne_of_mem_of_not_mem hc hbreak⟩⟩

instance (text : List Char) : Decidable (IsWord text) := decidable_of_iff _ isWord_iff.symm

instance (text : List Char) : Decidable (IsGap text) := decidable_of_iff _ isGap_iff.symm

/-- Gaps and words in turn, each gap in front of its word. -/
structure Parted (parts : List (List Char × List Char)) : Prop where
  gaps : ∀ gap ∈ parts.map Prod.fst, IsGap gap
  words : ∀ word ∈ parts.map Prod.snd, IsWord word

theorem parted_cons {p : List Char × List Char} {parts : List (List Char × List Char)} :
    Parted (p :: parts) ↔ IsGap p.1 ∧ IsWord p.2 ∧ Parted parts := by
  constructor
  · rintro ⟨hgaps, hwords⟩
    rw [List.map_cons, List.forall_mem_cons] at hgaps hwords
    exact ⟨hgaps.1, hwords.1, hgaps.2, hwords.2⟩
  · rintro ⟨hgap, hword, hgaps, hwords⟩
    exact ⟨List.forall_mem_cons.2 ⟨hgap, hgaps⟩, List.forall_mem_cons.2 ⟨hword, hwords⟩⟩

/-- The row of gaps and words. -/
def spelled (parts : List (List Char × List Char)) : List Char := parts.flatMap fun p => p.1 ++ p.2

theorem spelled_cons (p : List Char × List Char) (parts : List (List Char × List Char)) :
    spelled (p :: parts) = p.1 ++ (p.2 ++ spelled parts) := by
  simp [spelled]

/-- A word ends where a row of gaps and words goes on. -/
theorem words_append_spelled {parts : List (List Char × List Char)} (h : Parted parts) (text : List Char) :
    words (text ++ spelled parts) = words text ++ words (spelled parts) := by
  cases parts with
  | nil => simp [spelled, words_nil]
  | cons p parts =>
    obtain ⟨⟨hne, hblank⟩, -, -⟩ := parted_cons.1 h
    obtain ⟨c, gap, hp⟩ := List.exists_cons_of_ne_nil hne
    have hc : isSeparator c = true := (hblank c (by rw [hp]; exact List.mem_cons_self ..)).1
    have hnone : words (c :: (gap ++ (p.2 ++ spelled parts))) = words (gap ++ (p.2 ++ spelled parts)) :=
      words_append_cons [] _ hc
    rw [spelled_cons, hp, List.cons_append, words_append_cons _ _ hc, hnone]

/-- **The words of a row are read back.** -/
theorem words_spelled {parts : List (List Char × List Char)} (h : Parted parts) :
    words (spelled parts) = parts.map Prod.snd := by
  induction parts with
  | nil => rfl
  | cons p parts ih =>
    obtain ⟨hgap, hword, hrest⟩ := parted_cons.1 h
    rw [spelled_cons, words_gap (fun c hc => (hgap.blank c hc).1), words_append_spelled hrest, words_word hword,
      ih hrest]
    rfl

theorem newline_notMem_spelled {parts : List (List Char × List Char)} (h : Parted parts) : '\n' ∉ spelled parts := by
  induction parts with
  | nil => exact List.not_mem_nil
  | cons p parts ih =>
    obtain ⟨hgap, hword, hrest⟩ := parted_cons.1 h
    rw [spelled_cons, List.mem_append, List.mem_append]
    rintro (hmem | hmem | hmem)
    · exact (hgap.blank _ hmem).2 rfl
    · have hplain := hword.plain _ hmem
      revert hplain
      decide
    · exact ih hrest hmem

/-- Lines that end in breaks are read back, with nothing behind the last break. -/
theorem splitOn_lines {lines : List (List Char)} (h : ∀ line ∈ lines, '\n' ∉ line) :
    (lines.flatMap (· ++ ['\n'])).splitOn '\n' = lines ++ [[]] := by
  induction lines with
  | nil => rfl
  | cons line lines ih =>
    have hline : ∀ c ∈ line, (c == '\n') = false := by
      intro c hc
      rw [beq_eq_false_iff_ne]
      rintro rfl
      exact h line (List.mem_cons_self ..) hc
    have hrest := ih fun line' hline' => h line' (List.mem_cons_of_mem line hline')
    rw [List.splitOn_eq_splitOnP] at hrest ⊢
    have hsplit : (line :: lines).flatMap (· ++ ['\n']) = line ++ '\n' :: lines.flatMap (· ++ ['\n']) := by simp
    rw [hsplit, List.splitOnP_append_cons_of_forall_mem hline '\n' (by decide), hrest]
    rfl

/-! ## Words in rows -/

theorem isWord_of_plainChar {text : List Char} (hne : text ≠ []) (h : ∀ c ∈ text, Numeral.plainChar c = true) :
    IsWord text := by
  refine ⟨hne, fun c hc => ?_⟩
  have hplain := h c hc
  have hblank : isBlank c = false := Numeral.isBlank_of_plainChar hplain
  have hsign : ['[', ']', ',', ':'].contains c = false := by
    by_contra hsign
    rw [Bool.not_eq_false, List.contains_iff_mem] at hsign
    simp only [List.mem_cons, List.not_mem_nil, or_false] at hsign
    rcases hsign with rfl | rfl | rfl | rfl <;> revert hplain <;> decide
  rw [isSeparator, hblank, hsign]
  rfl

theorem isWord_number (precision : Nat) (x : Float) : IsWord (number precision x) :=
  isWord_of_plainChar (Numeral.writeFixed_ne_nil _ _) (Numeral.plainChar_writeFixed _ _)

theorem isWord_digits (n : Nat) : IsWord (Numeral.digits n) :=
  isWord_of_plainChar Nat.toDigits_ne_nil fun _ => Numeral.plainChar_digits

/-! ## Lines without colour -/

/-- The characters of a line without colour, its break apart. -/
def chars (line : Line) : List Char := line.flatMap (Span.render false)

/-- The gap in front of a cell: a blank more than what its width asks for. -/
def margin (s : Span) : List Char := ' ' :: List.replicate (s.width - s.text.length) ' '

theorem isGap_margin (s : Span) : IsGap (margin s) := by
  refine ⟨List.cons_ne_nil _ _, fun c hc => ?_⟩
  have hblank : c = ' ' := by
    rcases List.mem_cons.mp hc with hc | hc
    · exact hc
    · exact List.eq_of_mem_replicate hc
  rw [hblank]
  decide

theorem parted_cells {spans : List Span} (h : ∀ s ∈ spans, IsWord s.text) :
    Parted (spans.map fun s => (margin s, s.text)) := by
  constructor
  · rw [List.map_map]
    exact List.forall_mem_map.2 fun s _ => isGap_margin s
  · rw [List.map_map]
    exact List.forall_mem_map.2 h

theorem chars_cells (spans : List Span) :
    chars (cells spans) = ' ' :: spelled (spans.map fun s => (margin s, s.text)) := by
  have hspans : chars (spans.flatMap fun s => [.ofText " ", s]) = spelled (spans.map fun s => (margin s, s.text)) := by
    induction spans with
    | nil => rfl
    | cons s spans ih =>
      have hhead : chars [.ofText " ", s] = margin s ++ s.text := by
        simp [chars, Span.render, Span.ofText, Span.pad, margin]
      simp only [chars, spelled, List.flatMap_cons, List.flatMap_append, List.map_cons] at ih hhead ⊢
      rw [ih, hhead]
  have hblank : Span.render false (.ofText " ") = [' '] := rfl
  rw [cells, chars, List.flatMap_cons, hblank, List.singleton_append]
  exact congrArg (List.cons ' ') hspans

/-- A line of cells has their words. -/
theorem words_cells {spans : List Span} (h : ∀ s ∈ spans, IsWord s.text) :
    words (chars (cells spans)) = spans.map Span.text := by
  have hgap : ∀ c ∈ [' '], isSeparator c = true := List.forall_mem_singleton.2 rfl
  have hrow := words_gap hgap (spelled (spans.map fun s => (margin s, s.text)))
  rw [List.singleton_append, words_spelled (parted_cells h), List.map_map] at hrow
  rw [chars_cells, hrow]
  rfl

theorem newline_notMem_cells {spans : List Span} (h : ∀ s ∈ spans, IsWord s.text) : '\n' ∉ chars (cells spans) := by
  rw [chars_cells, List.mem_cons, not_or]
  exact ⟨by decide, newline_notMem_spelled (parted_cells h)⟩

/-- The gaps and words of the line of an interval. -/
def intervalParts (precision : Nat) (axis : Axis) (i : Interval Float) : List (List Char × List Char) :=
  [([' ', ' '], axis.name.toList), ([':', ' ', '['], number precision i.min), ([',', ' '], number precision i.max),
    ([']', ' ', ' '], "size".toList), ([' '], number precision i.size)]

theorem chars_intervalRow (precision : Nat) (axis : Axis) (i : Interval Float) :
    chars (intervalRow precision axis i) = spelled (intervalParts precision axis i) := by
  cases axis <;> simp [chars, intervalRow, spelled, intervalParts, Span.render, Span.ofText, Span.pad, Axis.name]

theorem parted_intervalParts (precision : Nat) (axis : Axis) (i : Interval Float) :
    Parted (intervalParts precision axis i) := by
  have hname : IsWord axis.name.toList := by cases axis <;> decide
  have hsize : IsWord "size".toList := by decide
  constructor
  · have hgaps : ∀ gap ∈ [[' ', ' '], [':', ' ', '['], [',', ' '], [']', ' ', ' '], [' ']], IsGap gap := by decide
    exact hgaps
  · simp only [intervalParts, List.map_cons, List.map_nil, List.forall_mem_cons]
    exact ⟨hname, isWord_number _ _, isWord_number _ _, hsize, isWord_number _ _, by simp⟩

/-- The gaps and words of the last line. -/
def summaryParts (n : Nat) : List (List Char × List Char) :=
  [([' ', ' '], "Items".toList), ([':', ' '], Numeral.digits n)]

theorem chars_summary (o : Output Float) : chars (summary o) = spelled (summaryParts o.size) := by
  simp [chars, summary, spelled, summaryParts, Span.render, Span.ofText, Span.pad]

theorem parted_summaryParts (n : Nat) : Parted (summaryParts n) := by
  have hitems : IsWord "Items".toList := by decide
  constructor
  · have hgaps : ∀ gap ∈ [[' ', ' '], [':', ' ']], IsGap gap := by decide
    exact hgaps
  · simp only [summaryParts, List.map_cons, List.map_nil, List.forall_mem_cons]
    exact ⟨hitems, isWord_digits n, by simp⟩

/-! ## What a row says -/

/-- A part of a row: a word, or a number. -/
inductive Part where
  | word (text : List Char)
  | number (x : Float)

/-- Whether a text is a part of a row: the word itself, or the number rounded to the precision. -/
def Part.Reads (precision : Nat) : Part → List Char → Prop
  | word w, text => text = w
  | number x, text => ∀ q, Scalar.reach x = .finite q → Numeral.Rounds precision q text

theorem reads_number (precision : Nat) (x : Float) : Part.Reads precision (.number x) (number precision x) :=
  fun _ hq => Numeral.rounds_writeFixed hq precision

/-- The parts of the row of an item: the letter of its axis or its number, and the numbers it consists of. -/
def row? (o : Output Float) (index : Nat) : Option (List Part) :=
  match o with
  | .intervals items => do
    let axis ← Axis.all[index]?
    let i ← items[index]?
    return [.word axis.name.toList, .number i.min, .number i.max, .word "size".toList, .number i.size]
  | .points items => items[index]?.map fun p => [.word (Numeral.digits index), .number p.x, .number p.y]
  | .tiles items => items[index]?.map fun r =>
    [.word (Numeral.digits index), .number r.x.min, .number r.x.max, .number r.y.min, .number r.y.max]

/-- Whether rows are those of the items of an output, in order. -/
structure RowsOf (precision : Nat) (o : Output Float) (rows : List (List Char)) : Prop where
  length : rows.length = o.size
  reads : ∀ (index : Nat) (row : List Char), rows[index]? = some row →
    ∃ parts, row? o index = some parts ∧ List.Forall₂ (Part.Reads precision) parts (words row)

theorem reads_intervalRow (precision : Nat) (axis : Axis) (i : Interval Float) :
    List.Forall₂ (Part.Reads precision)
      [.word axis.name.toList, .number i.min, .number i.max, .word "size".toList, .number i.size]
      (words (chars (intervalRow precision axis i))) := by
  rw [chars_intervalRow, words_spelled (parted_intervalParts precision axis i)]
  exact .cons rfl <| .cons (reads_number _ _) <| .cons (reads_number _ _) <| .cons rfl <|
    .cons (reads_number _ _) .nil

theorem isWord_numberedRow (precision width index : Nat) (xs : List Float) :
    ∀ s ∈ ({ text := Numeral.digits index, width := indexWidth } : Span) ::
      xs.map fun x => ({ text := number precision x, width } : Span), IsWord s.text := by
  rw [List.forall_mem_cons, List.forall_mem_map]
  exact ⟨isWord_digits index, fun x _ => isWord_number precision x⟩

theorem reads_numberedRow (precision width index : Nat) (xs : List Float) :
    List.Forall₂ (Part.Reads precision) (.word (Numeral.digits index) :: xs.map .number)
      (words (chars (numberedRow precision width index xs))) := by
  rw [numberedRow, words_cells (isWord_numberedRow precision width index xs), List.map_cons, List.map_map]
  refine .cons rfl ?_
  rw [List.forall₂_map_left_iff, List.forall₂_map_right_iff, List.forall₂_same]
  exact fun x _ => reads_number precision x

/-- The rows of numbered items say their numbers. -/
theorem rowsOf_numbered {precision width : Nat} {o : Output Float} {items : List (List Float)}
    (hsize : items.length = o.size)
    (hrow : ∀ index, row? o index = items[index]?.map fun xs => .word (Numeral.digits index) :: xs.map .number) :
    RowsOf precision o
      ((items.zipIdx.map fun (xs, index) => numberedRow precision width index xs).map chars) := by
  refine ⟨by simpa using hsize, fun index row h => ?_⟩
  rw [List.map_map, List.getElem?_map, List.getElem?_zipIdx, Option.map_map] at h
  obtain ⟨xs, hxs, rfl⟩ := Option.map_eq_some_iff.1 h
  refine ⟨.word (Numeral.digits index) :: xs.map .number, by rw [hrow, hxs]; rfl, ?_⟩
  have hreads := reads_numberedRow precision width index xs
  simpa using hreads

/-- Up to three intervals have a row each. -/
theorem rowsOf_intervals {precision : Nat} {items : List (Interval Float)} (h : items.length ≤ 3) :
    RowsOf precision (.intervals items) ((List.zipWith (intervalRow precision) Axis.all items).map chars) := by
  constructor
  · have haxes : Axis.all.length = 3 := rfl
    rw [List.length_map, List.length_zipWith, haxes]
    exact Nat.min_eq_right h
  · intro index row hrow
    rw [List.getElem?_map, List.getElem?_zipWith] at hrow
    cases haxis : Axis.all[index]? with
    | none => simp [haxis] at hrow
    | some axis =>
      cases hitem : items[index]? with
      | none => simp [haxis, hitem] at hrow
      | some i =>
        simp only [haxis, hitem, Option.map_some, Option.some.injEq] at hrow
        subst hrow
        exact ⟨_, by simp only [row?, haxis, hitem]; rfl, reads_intervalRow precision axis i⟩

/-! ## Blocks -/

/-- The first lines of the block of a report: the name and the kind of the job between two rules. -/
def caption (r : Report Float) : List (List Char) :=
  let across := List.replicate 60 '━'
  [[], across, ("Job: " ++ r.name ++ " (" ++ r.kind ++ ")").toList, across]

/-- The words of the line of headings; intervals have none. -/
def headingWords : Output Float → List (List (List Char))
  | .intervals _ => []
  | .points _ => [["#", "x", "y"].map String.toList]
  | .tiles _ => [["#", "min_x", "max_x", "min_y", "max_y"].map String.toList]

/-- Whether a text is the block of a report, line by line: a caption, the headings, a row for each item, and
the number of items. -/
def Shows (precision : Nat) (r : Report Float) (block : List Char) : Prop :=
  ∃ headings rows last, block.splitOn '\n' = caption r ++ headings ++ rows ++ [last, []] ∧
    headings.map words = headingWords r.output ∧ RowsOf precision r.output rows ∧
    words last = ["Items".toList, Numeral.digits r.output.size]

theorem isWord_headings {width : Nat} {names : List String} (h : ∀ name ∈ names, IsWord name.toList) :
    ∀ s ∈ ({ text := ['#'], style := .gray, width := indexWidth } : Span) ::
      names.map fun name => ({ text := name.toList, style := .bold, width } : Span), IsWord s.text := by
  have hnumber : IsWord ['#'] := by decide
  rw [List.forall_mem_cons, List.forall_mem_map]
  exact ⟨hnumber, h⟩

/-- The lines of numbered items are headings and rows. -/
theorem numbered_lines (precision width : Nat) {names : List String} (hnames : ∀ name ∈ names, IsWord name.toList)
    {o : Output Float} (items : List (List Float)) (hsize : items.length = o.size)
    (hrow : ∀ index, row? o index = items[index]?.map fun xs => .word (Numeral.digits index) :: xs.map .number) :
    ∃ heading rows, (numbered precision width names items).map chars = heading :: rows ∧
      words heading = ['#'] :: names.map String.toList ∧ RowsOf precision o rows ∧
      ∀ line ∈ heading :: rows, '\n' ∉ line := by
  refine ⟨_, _, rfl, ?_, rowsOf_numbered hsize hrow, ?_⟩
  · rw [headings, words_cells (isWord_headings hnames), List.map_cons, List.map_map]
    rfl
  · rw [List.forall_mem_cons, List.forall_mem_map, List.forall_mem_map]
    refine ⟨newline_notMem_cells (isWord_headings hnames), fun p _ => ?_⟩
    exact newline_notMem_cells (isWord_numberedRow precision width p.2 p.1)

/-- The lines of an output are headings and rows, as long as there are not more intervals than axes. -/
theorem body_lines (precision : Nat) {o : Output Float} (h : ∀ items, o = .intervals items → items.length ≤ 3) :
    ∃ headings rows, (body precision o).map chars = headings ++ rows ∧ headings.map words = headingWords o ∧
      RowsOf precision o rows ∧ ∀ line ∈ headings ++ rows, '\n' ∉ line := by
  cases o with
  | intervals items =>
    refine ⟨[], _, rfl, rfl, rowsOf_intervals (h items rfl), ?_⟩
    rw [List.nil_append, List.forall_mem_map]
    intro line hline
    rw [body, ← List.map_uncurry_zip_eq_zipWith] at hline
    obtain ⟨⟨axis, i⟩, -, rfl⟩ := List.mem_map.mp hline
    rw [Function.uncurry_apply_pair, chars_intervalRow]
    exact newline_notMem_spelled (parted_intervalParts precision axis i)
  | points items =>
    have hnames : ∀ name ∈ ["x", "y"], IsWord name.toList := by decide
    have hrow : ∀ index, row? (.points items) index = (items.map fun p => [p.x, p.y])[index]?.map
        fun xs => .word (Numeral.digits index) :: xs.map .number := by
      intro index
      rw [List.getElem?_map, Option.map_map]
      rfl
    obtain ⟨heading, rows, hlines, hwords, hrows, hbreak⟩ :=
      numbered_lines precision 14 hnames _ (List.length_map ..) hrow
    exact ⟨[heading], rows, hlines, by rw [List.map_singleton, hwords]; rfl, hrows, hbreak⟩
  | tiles items =>
    have hnames : ∀ name ∈ ["min_x", "max_x", "min_y", "max_y"], IsWord name.toList := by decide
    have hrow : ∀ index, row? (.tiles items) index =
        (items.map fun r => [r.x.min, r.x.max, r.y.min, r.y.max])[index]?.map
          fun xs => .word (Numeral.digits index) :: xs.map .number := by
      intro index
      rw [List.getElem?_map, Option.map_map]
      rfl
    obtain ⟨heading, rows, hlines, hwords, hrows, hbreak⟩ :=
      numbered_lines precision 12 hnames _ (List.length_map ..) hrow
    exact ⟨[heading], rows, hlines, by rw [List.map_singleton, hwords]; rfl, hrows, hbreak⟩

theorem chars_title (r : Report Float) : chars (title r) = ("Job: " ++ r.name ++ " (" ++ r.kind ++ ")").toList := by
  simp [chars, title, Span.render, Span.ofText, Span.pad]

theorem newline_notMem_caption {r : Report Float} (hname : '\n' ∉ r.name.toList) (hkind : '\n' ∉ r.kind.toList) :
    ∀ line ∈ caption r, '\n' ∉ line := by
  have hacross : '\n' ∉ List.replicate 60 '━' := by decide
  have htitle : '\n' ∉ ("Job: " ++ r.name ++ " (" ++ r.kind ++ ")").toList := by
    simp [hname, hkind]
  simp only [caption, List.forall_mem_cons]
  exact ⟨List.not_mem_nil, hacross, htitle, hacross, by simp⟩

theorem newline_notMem_summary (o : Output Float) : '\n' ∉ chars (summary o) := by
  rw [chars_summary]
  exact newline_notMem_spelled (parted_summaryParts _)

/-- A block is its lines, each with its break. -/
theorem chars_block (precision : Nat) (r : Report Float) :
    (block precision r).flatMap (Line.render false) = ((block precision r).map chars).flatMap (· ++ ['\n']) := by
  rw [List.flatMap_map]
  rfl

/-- The block of a report shows it. -/
theorem shows_block (precision : Nat) {r : Report Float} (hname : '\n' ∉ r.name.toList) (hkind : '\n' ∉ r.kind.toList)
    (hintervals : ∀ items, r.output = .intervals items → items.length ≤ 3) :
    Shows precision r ((block precision r).flatMap (Line.render false)) := by
  obtain ⟨headings, rows, hbody, hheadings, hrows, hbreak⟩ := body_lines precision hintervals
  have hrule : chars rule = List.replicate 60 '━' := rfl
  have hlines : (block precision r).map chars = caption r ++ (headings ++ rows) ++ [chars (summary r.output)] := by
    rw [block, List.map_append, List.map_append, hbody]
    simp only [List.map_cons, List.map_nil, hrule, chars_title]
    rfl
  have hall : ∀ line ∈ (block precision r).map chars, '\n' ∉ line := by
    rw [hlines]
    intro line hline
    rcases List.mem_append.mp hline with hline | hline
    · rcases List.mem_append.mp hline with hline | hline
      · exact newline_notMem_caption hname hkind line hline
      · exact hbreak line hline
    · rw [List.mem_singleton.mp hline]
      exact newline_notMem_summary r.output
  refine ⟨headings, rows, chars (summary r.output), ?_, hheadings, hrows, ?_⟩
  · rw [chars_block, splitOn_lines hall, hlines]
    simp only [List.append_assoc, List.cons_append, List.nil_append]
  · rw [chars_summary, words_spelled (parted_summaryParts _)]
    rfl

end Table

/-! ## Tables of what jobs come to -/

/-- A job comes to at most three intervals. -/
theorem Job.length_intervals_le {j : Job Float} {items : List (Interval Float)} (h : j.run = .ok (.intervals items)) :
    items.length ≤ 3 := by
  have hlists := (lists_of_run h).2
  cases j with
  | dims d =>
    have hsize : items.length = min 3 d.specs.length := hlists
    omega
  | rect o => cases hrun : o.points <;> simp [run, hrun, Except.map] at h
  | grid g => cases hrun : g.points <;> simp [run, hrun, Except.map] at h
  | distribute d => cases hrun : d.points <;> simp [run, hrun, Except.map] at h
  | stretch s => cases hrun : s.tiles <;> simp [run, hrun, Except.map] at h

theorem NamedJob.report_eq_ok {n : NamedJob Float} {r : Report Float} (h : n.report = .ok r) :
    r.name = n.name ∧ r.kind = n.job.kind.name ∧ n.job.run = .ok r.output := by
  unfold report at h
  cases hrun : n.job.run with
  | error e => simp [hrun, Except.map] at h
  | ok output =>
    simp only [hrun, Except.map, Except.ok.injEq] at h
    subst h
    exact ⟨rfl, rfl, rfl⟩

theorem Kind.newline_notMem_name (k : Kind) : '\n' ∉ k.name.toList := by cases k <;> decide

/-- **Tables are complete and rounded once.** For reports on jobs that ran, whose names break no line, the
table without colour is one block for each report, in order: its caption, the headings, a row for each item
with its label and its numbers, each the nearest number with just so many places, and the number of items. -/
theorem tables_complete (precision : Nat) (reports : List (Report Float))
    (hrun : ∀ r ∈ reports, ∃ n : NamedJob Float, n.report = .ok r) (hname : ∀ r ∈ reports, '\n' ∉ r.name.toList) :
    ∃ blocks : List (List Char), Report.print ⟨.table, precision⟩ false reports = String.ofList blocks.flatten ∧
      List.Forall₂ (Table.Shows precision) reports blocks := by
  refine ⟨reports.map fun r => (Table.block precision r).flatMap (Line.render false), ?_, ?_⟩
  · rw [← List.flatMap_def]
    rfl
  · rw [List.forall₂_map_right_iff, List.forall₂_same]
    intro r hr
    obtain ⟨n, hn⟩ := hrun r hr
    obtain ⟨-, hkind, houtput⟩ := NamedJob.report_eq_ok hn
    refine Table.shows_block precision (hname r hr) ?_ fun items hitems => ?_
    · rw [hkind]
      exact n.job.kind.newline_notMem_name
    · rw [hitems] at houtput
      exact Job.length_intervals_le houtput

/-- Two intervals around a middle that is not zero for both, under a name full of separators. -/
def drawers : NamedJob Float := ⟨"drawers [1, 2]: a", .dims ⟨[.size 2.5, .range 3 (-0.0625)], .flag true⟩⟩

/-- Two tiles with a gap along X. -/
def hatches : NamedJob Float :=
  ⟨"", .stretch ⟨{ size := .size 1e6, count := some 2, spacing := 0.5 },
    { size := .range 0 1, count := some 1, spacing := 0 }, .flag false⟩⟩

/-- What both jobs come to. -/
def mixed : List (Report Float) :=
  [⟨"drawers [1, 2]: a", "dims", .intervals [⟨-1.25, 1.25⟩, ⟨-0.0625, 3⟩]⟩,
    ⟨"", "stretch", .tiles [⟨⟨0, 499999.75⟩, ⟨0, 1⟩⟩, ⟨⟨500000.25, 1000000⟩, ⟨0, 1⟩⟩]⟩]

theorem interval_and_tile_tables_complete :
    ((∀ r ∈ mixed, ∃ n : NamedJob Float, n.report = .ok r) ∧ ∀ r ∈ mixed, '\n' ∉ r.name.toList) ∧
      ∃ blocks : List (List Char), Report.print ⟨.table, 1⟩ false mixed = String.ofList blocks.flatten ∧
        List.Forall₂ (Table.Shows 1) mixed blocks := by
  have hdrawers : drawers.report = .ok ⟨"drawers [1, 2]: a", "dims", .intervals [⟨-1.25, 1.25⟩, ⟨-0.0625, 3⟩]⟩ := by
    decide +kernel
  have hhatches : hatches.report =
      .ok ⟨"", "stretch", .tiles [⟨⟨0, 499999.75⟩, ⟨0, 1⟩⟩, ⟨⟨500000.25, 1000000⟩, ⟨0, 1⟩⟩]⟩ := by decide +kernel
  have hrun : ∀ r ∈ mixed, ∃ n : NamedJob Float, n.report = .ok r := by
    simp only [mixed, List.forall_mem_cons]
    exact ⟨⟨drawers, hdrawers⟩, ⟨hatches, hhatches⟩, by simp⟩
  have hname : ∀ r ∈ mixed, '\n' ∉ r.name.toList := by decide +kernel
  exact ⟨⟨hrun, hname⟩, tables_complete 1 mixed hrun hname⟩

end SketchLayout
