import SketchLayout.Proofs.Tables

/-!
# Colour is decoration

`Style.bare` deletes from a text every sequence of `ESC [`, digits and semicolons, and `m`, as does a reader who
sees no colour. No sequence reaches across a character that it cannot go on with, and so such a character
parts a text (`Style.bare_append_cons`).

Two beginnings are alike when whatever follows hides the difference (`Style.Alike`). What switches a style on or
off is like nothing at all, and a line in colour is like the line without, padding included
(`Table.alike_block`), because a span that has a width has no sequences of its own. The name of a job may have
some: what is switched on again behind them is deleted too (`Style.bare_reopen`).
-/

namespace SketchLayout

namespace Style

/-! ## Sequences -/

/-- The characters of the numbers in a sequence. -/
def isCode (c : Char) : Bool := c.isDigit || c == ';'

/-- What stands behind the sequence that a text begins with. -/
def behind? : List Char → Option (List Char)
  | '\x1b' :: '[' :: rest =>
    match rest.dropWhile isCode with
    | 'm' :: rest => some rest
    | _ => none
  | _ => none

/-- What follows the escape character in a sequence. -/
def IsBody (body : List Char) : Prop := ∃ codes, body = '[' :: (codes ++ ['m']) ∧ ∀ c ∈ codes, isCode c = true

/-- What a sequence that has begun goes on with. -/
def goesOn (c : Char) : Bool := c == '[' || isCode c || c == 'm'

theorem IsBody.notMem {body : List Char} (h : IsBody body) {c : Char} (hc : goesOn c = false) : c ∉ body := by
  obtain ⟨codes, rfl, hcodes⟩ := h
  simp only [goesOn, Bool.or_eq_false_iff, beq_eq_false_iff_ne] at hc
  obtain ⟨⟨hbracket, hcode⟩, hend⟩ := hc
  have hnot : c ∉ codes := by
    intro hmem
    rw [hcodes c hmem] at hcode
    cases hcode
  simp [hbracket, hnot, hend]

theorem behind?_eq_some {text rest : List Char} :
    behind? text = some rest ↔ ∃ body, IsBody body ∧ text = '\x1b' :: (body ++ rest) := by
  constructor
  · intro h
    unfold behind? at h
    split at h
    · rename_i tail
      split at h
      · rename_i hdrop
        obtain rfl := Option.some.inj h
        refine ⟨_, ⟨tail.takeWhile isCode, rfl, fun c hc => List.mem_takeWhile_imp hc⟩, ?_⟩
        rw [List.cons_append, List.append_assoc, List.singleton_append, ← hdrop, List.takeWhile_append_dropWhile]
      · cases h
    · cases h
  · rintro ⟨body, ⟨codes, rfl, hcodes⟩, rfl⟩
    have hdrop : (codes ++ 'm' :: rest).dropWhile isCode = 'm' :: rest := by
      rw [List.dropWhile_append_of_pos hcodes]
      rfl
    simp [behind?, hdrop]

theorem behind?_eq_none {text : List Char} :
    behind? text = none ↔ ∀ body rest, IsBody body → text ≠ '\x1b' :: (body ++ rest) := by
  rw [Option.eq_none_iff_forall_ne_some]
  constructor
  · intro h body rest hbody htext
    exact h rest (behind?_eq_some.2 ⟨body, hbody, htext⟩)
  · intro h rest hsome
    obtain ⟨body, hbody, htext⟩ := behind?_eq_some.1 hsome
    exact h body rest hbody htext

theorem length_behind? {text rest : List Char} (h : behind? text = some rest) : rest.length < text.length := by
  obtain ⟨body, -, rfl⟩ := behind?_eq_some.1 h
  simp only [List.length_cons, List.length_append]
  omega

/-- A text without its sequences. -/
def bare : List Char → List Char
  | [] => []
  | c :: rest =>
    match _ : behind? (c :: rest) with
    | some rest => bare rest
    | none => c :: bare rest
termination_by text => text.length
decreasing_by
  · exact length_behind? ‹_›
  · exact Nat.lt_succ_self _

theorem bare_of_none {c : Char} {rest : List Char} (h : behind? (c :: rest) = none) :
    bare (c :: rest) = c :: bare rest := by
  rw [bare]
  split
  · rename_i h'
    rw [h] at h'
    cases h'
  · rfl

/-- A sequence is deleted. -/
theorem bare_sequence {body : List Char} (h : IsBody body) (rest : List Char) :
    bare ('\x1b' :: (body ++ rest)) = bare rest := by
  have hsome : behind? ('\x1b' :: (body ++ rest)) = some rest := behind?_eq_some.2 ⟨body, h, rfl⟩
  rw [bare]
  split
  · rename_i h'
    rw [hsome, Option.some.injEq] at h'
    rw [h']
  · rename_i h'
    rw [hsome] at h'
    cases h'

theorem bare_cons {c : Char} (hc : c ≠ '\x1b') (rest : List Char) : bare (c :: rest) = c :: bare rest :=
  bare_of_none (behind?_eq_none.2 fun _ _ _ htext => hc (List.cons.inj htext).1)

/-- Only whole sequences are deleted. -/
example : bare "\x1b[1;31mred\x1b[0m \x1b[2K\x1b[".toList = "red \x1b[2K\x1b[".toList := by cbv

theorem bare_append_of_notMem {text : List Char} (h : '\x1b' ∉ text) (rest : List Char) :
    bare (text ++ rest) = text ++ bare rest := by
  induction text with
  | nil => rfl
  | cons c text ih =>
    rw [List.mem_cons, not_or] at h
    rw [List.cons_append, bare_cons (Ne.symm h.1), ih h.2, List.cons_append]

/-- A text without escape characters has no sequences. -/
theorem bare_eq_self {text : List Char} (h : '\x1b' ∉ text) : bare text = text := by
  have happend := bare_append_of_notMem h []
  rwa [List.append_nil, bare, List.append_nil] at happend

theorem isCode_of_mem_codes {codes : List Nat} {c : Char}
    (h : c ∈ List.intercalate [';'] (codes.map (Nat.toDigits 10))) : isCode c = true := by
  have hdigits : ∀ n, ∀ d ∈ Nat.toDigits 10 n, isCode d = true := by
    intro n d hd
    simp [isCode, Nat.isDigit_of_mem_toDigits (by decide) (by decide) hd]
  induction codes with
  | nil => simp at h
  | cons n codes ih =>
    cases codes with
    | nil =>
      rw [List.map_singleton, List.intercalate_singleton] at h
      exact hdigits n c h
    | cons m codes =>
      rw [List.map_cons, List.map_cons, List.intercalate_cons_cons, List.mem_append, List.mem_append] at h
      rcases h with (h | h) | h
      · exact hdigits n c h
      · rw [List.mem_singleton.1 h]
        rfl
      · exact ih h

/-- What switches styles on or off is deleted. -/
theorem bare_escape (codes : List Nat) (rest : List Char) : bare (escape codes ++ rest) = bare rest :=
  bare_sequence ⟨_, rfl, fun _ => isCode_of_mem_codes⟩ rest

/-! ## Where a text may be parted -/

theorem exists_append_of_notMem {c : Char} {text rest head tail : List Char} (hc : c ∉ head)
    (h : text ++ c :: rest = head ++ tail) : ∃ more, text = head ++ more := by
  rcases List.append_eq_append_iff.1 h with ⟨short, hhead, hrest⟩ | ⟨more, htext, -⟩
  · cases short with
    | nil => exact ⟨[], by rw [hhead, List.append_nil, List.append_nil]⟩
    | cons d short =>
      obtain ⟨rfl, -⟩ := List.cons.inj hrest
      exact absurd (hhead ▸ List.mem_append_right text (List.mem_cons_self ..)) hc
  · exact ⟨more, htext⟩

/-- **A text is parted by a character that no sequence goes on with**: none begins in front of it and ends
behind it. -/
theorem bare_append_cons {c : Char} (hc : goesOn c = false) (text rest : List Char) :
    bare (text ++ c :: rest) = bare text ++ bare (c :: rest) := by
  fun_induction bare text with
  | case1 => rfl
  | case2 d text tail h ih =>
    obtain ⟨body, hbody, htext⟩ := behind?_eq_some.1 h
    rw [htext, List.cons_append, List.append_assoc, bare_sequence hbody, ih]
  | case3 d text h ih =>
    have hlonger : behind? (d :: (text ++ c :: rest)) = none := by
      rw [behind?_eq_none] at h ⊢
      intro body tail hbody htext
      obtain ⟨rfl, hparts⟩ := List.cons.inj htext
      -- a sequence that the longer text begins with ends in front of `c`
      obtain ⟨more, rfl⟩ := exists_append_of_notMem (hbody.notMem hc) hparts
      exact h body more hbody rfl
    rw [List.cons_append, bare_of_none hlonger, ih, List.cons_append]

/-! ## Sequences in a name -/

theorem isBody_off : IsBody ['[', '0', 'm'] := ⟨['0'], rfl, List.forall_mem_singleton.2 rfl⟩

theorem reopen_off (on rest : List Char) : Span.reopen on (off ++ rest) = off ++ on ++ Span.reopen on rest := rfl

theorem reopen_cons (on : List Char) {c : Char} {rest : List Char} (h : ∀ tail, c :: rest ≠ off ++ tail) :
    Span.reopen on (c :: rest) = c :: Span.reopen on rest := by
  rw [Span.reopen]
  rintro tail rfl rfl
  exact h tail rfl

theorem reopen_append_of_notMem {text : List Char} (h : '\x1b' ∉ text) (on rest : List Char) :
    Span.reopen on (text ++ rest) = text ++ Span.reopen on rest := by
  induction text with
  | nil => rfl
  | cons c text ih =>
    rw [List.mem_cons, not_or] at h
    have hplain : ∀ tail, c :: (text ++ rest) ≠ off ++ tail := fun tail htail => h.1 (List.cons.inj htail).1.symm
    rw [List.cons_append, reopen_cons on hplain, ih h.2, List.cons_append]

theorem reopen_eq_self {text : List Char} (h : '\x1b' ∉ text) (on : List Char) : Span.reopen on text = text := by
  have happend := reopen_append_of_notMem h on []
  rwa [List.append_nil, Span.reopen, List.append_nil] at happend

/-- What a text begins with is the same when more is switched on, up to the first escape character. -/
theorem exists_append_of_reopen {on text head tail : List Char} (hhead : '\x1b' ∉ head)
    (h : Span.reopen on text = head ++ tail) : ∃ more, text = head ++ more := by
  induction head generalizing text with
  | nil => exact ⟨text, rfl⟩
  | cons c head ih =>
    rw [List.mem_cons, not_or] at hhead
    cases text with
    | nil => cases h
    | cons d text =>
      by_cases hoff : ∃ rest, d :: text = off ++ rest
      · obtain ⟨rest, hrest⟩ := hoff
        rw [hrest, reopen_off] at h
        exact absurd (List.cons.inj h).1 hhead.1
      · rw [reopen_cons on (not_exists.1 hoff)] at h
        obtain ⟨rfl, hrest⟩ := List.cons.inj h
        obtain ⟨more, rfl⟩ := ih hhead.2 hrest
        exact ⟨more, rfl⟩

/-- A sequence other than the one that switches styles off stays as it is. -/
theorem reopen_sequence {body : List Char} (h : IsBody body) (hoff : body ≠ ['[', '0', 'm']) (on rest : List Char) :
    Span.reopen on ('\x1b' :: (body ++ rest)) = '\x1b' :: (body ++ Span.reopen on rest) := by
  have hnot : ∀ tail, '\x1b' :: (body ++ rest) ≠ off ++ tail := by
    intro tail htext
    -- both readings of the text end their sequence at the same place
    have htail : behind? (off ++ tail) = some tail := behind?_eq_some.2 ⟨_, isBody_off, rfl⟩
    rw [← htext, behind?_eq_some.2 ⟨body, h, rfl⟩, Option.some.injEq] at htail
    subst htail
    exact hoff (List.append_cancel_right (List.cons.inj htext).2)
  rw [reopen_cons on hnot, reopen_append_of_notMem (h.notMem rfl)]

/-- **What is switched on again behind the sequences of a text is deleted with them.** -/
theorem bare_reopen (codes : List Nat) (text : List Char) : bare (Span.reopen (escape codes) text) = bare text := by
  fun_induction bare text with
  | case1 => rw [Span.reopen, bare]
  | case2 c text rest h ih =>
    obtain ⟨body, hbody, htext⟩ := behind?_eq_some.1 h
    rw [htext]
    by_cases hoff : body = ['[', '0', 'm']
    · have hopen : Span.reopen (escape codes) ('\x1b' :: (body ++ rest)) =
          off ++ (escape codes ++ Span.reopen (escape codes) rest) := by
        rw [hoff, ← List.append_assoc]
        exact reopen_off (escape codes) rest
      rw [hopen, off, bare_escape, bare_escape, ih]
    · rw [reopen_sequence hbody hoff, bare_sequence hbody, ih]
  | case3 c text h ih =>
    rw [behind?_eq_none] at h
    have hnot : ∀ tail, c :: text ≠ off ++ tail := fun tail => h _ tail isBody_off
    have hnone : behind? (c :: Span.reopen (escape codes) text) = none := by
      rw [behind?_eq_none]
      intro body tail hbody htext
      obtain ⟨rfl, hparts⟩ := List.cons.inj htext
      -- nothing is switched on inside a sequence, so the text itself would begin with this one
      obtain ⟨more, rfl⟩ := exists_append_of_reopen (hbody.notMem rfl) hparts
      exact h body more hbody rfl
    rw [reopen_cons _ hnot, bare_of_none hnone, ih]

/-! ## Texts that are alike -/

/-- Two beginnings of texts that no difference is seen between, as long as none is seen in what follows. -/
def Alike (a b : List Char) : Prop := ∀ ⦃x y : List Char⦄, bare x = bare y → bare (a ++ x) = bare (b ++ y)

variable {a b c d : List Char}

theorem Alike.bare_eq (h : Alike a b) : bare a = bare b := by
  have hnil := @h [] [] rfl
  rwa [List.append_nil, List.append_nil] at hnil

theorem alike_of_notMem (h : '\x1b' ∉ a) : Alike a a := by
  intro x y hxy
  rw [bare_append_of_notMem h, bare_append_of_notMem h, hxy]

theorem alike_escape (codes : List Nat) : Alike (escape codes) [] := fun _ _ hxy => (bare_escape codes _).trans hxy

theorem Alike.append (hab : Alike a b) (hcd : Alike c d) : Alike (a ++ c) (b ++ d) := by
  intro x y hxy
  rw [List.append_assoc, List.append_assoc]
  exact hab (hcd hxy)

theorem alike_flatMap {β : Type} {f g : β → List Char} {items : List β} (h : ∀ item ∈ items, Alike (f item) (g item)) :
    Alike (items.flatMap f) (items.flatMap g) := by
  induction items with
  | nil => exact fun _ _ hxy => hxy
  | cons item items ih =>
    rw [List.forall_mem_cons] at h
    exact h.1.append (ih h.2)

end Style

open Style

/-! ## Spans and lines -/

theorem Span.notMem_pad {text : List Char} (h : '\x1b' ∉ text) (width : Nat) : '\x1b' ∉ pad width text := by
  simp [pad, h]

/-- A span without escape characters is in colour what it is without. -/
theorem Span.alike_render {s : Span} (h : '\x1b' ∉ s.text) : Alike (s.render true) (s.render false) := by
  have htext : Alike (pad s.width s.text) (pad s.width s.text) := alike_of_notMem (notMem_pad h s.width)
  by_cases hstyle : s.style = .plain
  · simpa [render, hstyle] using htext
  · have hsides := ((alike_escape s.style.codes).append htext).append (alike_escape [0])
    simpa [render, hstyle, reopen_eq_self h, off] using hsides

namespace Line

/-- Whether no span of a line has escape characters. -/
def Clean (line : Line) : Prop := ∀ s ∈ line, '\x1b' ∉ s.text

theorem render_cons (colour : Bool) (s : Span) (line : Line) :
    Line.render colour (s :: line) = s.render colour ++ Line.render colour line := by
  simp [Line.render]

theorem alike_of_clean {line : Line} (h : line.Clean) : Alike (line.render true) (line.render false) :=
  (alike_flatMap fun s hs => Span.alike_render (h s hs)).append (alike_of_notMem (by decide))

theorem notMem_of_clean {line : Line} (h : line.Clean) : '\x1b' ∉ line.render false := by
  rw [Line.render, List.mem_append, List.mem_flatMap]
  rintro (⟨s, hs, hmem⟩ | hmem)
  · exact Span.notMem_pad (h s hs) s.width hmem
  · revert hmem
    decide

theorem alike_cons_of_notMem {s : Span} (h : '\x1b' ∉ s.text) {line : Line}
    (hline : Alike (line.render true) (line.render false)) :
    Alike (Line.render true (s :: line)) (Line.render false (s :: line)) := by
  rw [render_cons, render_cons]
  exact (Span.alike_render h).append hline

/-- A styled span without a width may have sequences of its own, if the line goes on with what no sequence goes
on with. -/
theorem alike_cons (text : List Char) {style : Style} (hstyle : style ≠ .plain) {line : Line}
    (hline : Alike (line.render true) (line.render false)) {c : Char} {rest : List Char}
    (hrest : line.render false = c :: rest) (hc : goesOn c = false) :
    Alike (Line.render true ({ text, style } :: line)) (Line.render false ({ text, style } :: line)) := by
  intro x y hxy
  have hcolour : Line.render true ({ text, style } :: line) ++ x =
      escape style.codes ++ (Span.reopen (escape style.codes) text ++ (off ++ (line.render true ++ x))) := by
    simp [render_cons, Span.render, hstyle, Span.pad]
  have hplain : Line.render false ({ text, style } :: line) ++ y = text ++ (line.render false ++ y) := by
    simp [render_cons, Span.render, Span.pad]
  calc bare (Line.render true ({ text, style } :: line) ++ x)
      = bare (Span.reopen (escape style.codes) text ++ (off ++ (line.render true ++ x))) := by
        rw [hcolour, bare_escape]
    _ = bare (Span.reopen (escape style.codes) text) ++ bare (off ++ (line.render true ++ x)) :=
        bare_append_cons rfl _ _
    _ = bare text ++ bare (line.render false ++ y) := by
        rw [bare_reopen, off, bare_escape, hline hxy]
    _ = bare (Line.render false ({ text, style } :: line) ++ y) := by
        rw [hplain, hrest, List.cons_append, bare_append_cons hc]

end Line

namespace Table

/-! ## The lines of a table -/

theorem notMem_number (precision : Nat) (x : Float) : '\x1b' ∉ number precision x :=
  fun h => absurd (Numeral.plainChar_writeFixed _ _ _ h) (by decide)

theorem notMem_digits (n : Nat) : '\x1b' ∉ Numeral.digits n := fun h => absurd (Numeral.plainChar_digits h) (by decide)

theorem clean_rule : Line.Clean rule := by
  rw [rule, Line.Clean, List.forall_mem_singleton]
  decide

theorem clean_intervalRow (precision : Nat) (axis : Axis) (i : Interval Float) :
    Line.Clean (intervalRow precision axis i) := by
  have hname : '\x1b' ∉ (axis.name ++ ":").toList := by cases axis <;> decide
  simp only [Line.Clean, intervalRow, List.forall_mem_cons, Span.ofText]
  exact ⟨by decide, hname, by decide, notMem_number _ _, by decide, notMem_number _ _, by decide, by decide, by decide,
    notMem_number _ _, by simp⟩

theorem clean_cells {spans : List Span} (h : ∀ s ∈ spans, '\x1b' ∉ s.text) : Line.Clean (cells spans) := by
  have hblank : '\x1b' ∉ (Span.ofText " ").text := by decide
  simp only [Line.Clean, cells, List.forall_mem_cons, List.forall_mem_flatMap]
  exact ⟨hblank, fun s hs => ⟨hblank, h s hs, by simp⟩⟩

theorem clean_numbered (precision width : Nat) {names : List String} (hnames : ∀ name ∈ names, '\x1b' ∉ name.toList)
    (items : List (List Float)) : ∀ line ∈ numbered precision width names items, Line.Clean line := by
  rw [numbered, List.forall_mem_cons, List.forall_mem_map]
  constructor
  · apply clean_cells
    rw [List.forall_mem_cons, List.forall_mem_map]
    exact ⟨by decide, hnames⟩
  · intro row _
    apply clean_cells
    rw [List.forall_mem_cons, List.forall_mem_map]
    exact ⟨notMem_digits row.2, fun x _ => notMem_number precision x⟩

theorem clean_body (precision : Nat) (o : Output Float) : ∀ line ∈ body precision o, Line.Clean line := by
  cases o with
  | intervals items =>
    intro line hline
    rw [body, ← List.map_uncurry_zip_eq_zipWith] at hline
    obtain ⟨⟨axis, i⟩, -, rfl⟩ := List.mem_map.1 hline
    exact clean_intervalRow precision axis i
  | points items => exact clean_numbered precision 14 (by decide) _
  | tiles items => exact clean_numbered precision 12 (by decide) _

theorem clean_summary (o : Output Float) : Line.Clean (summary o) := by
  simp only [Line.Clean, summary, List.forall_mem_cons, Span.ofText]
  exact ⟨by decide, by decide, by decide, notMem_digits _, by simp⟩

theorem clean_title {r : Report Float} (hname : '\x1b' ∉ r.name.toList) (hkind : '\x1b' ∉ r.kind.toList) :
    Line.Clean (title r) := by
  simp only [Line.Clean, title, List.forall_mem_cons, Span.ofText]
  exact ⟨by decide, by decide, hname, by decide, by simp [hkind], by simp⟩

/-- The title is alike in colour whatever the name and the kind are: a blank and the end of the line part them
from what follows. -/
theorem alike_title (r : Report Float) : Alike ((title r).render true) ((title r).render false) := by
  have hlabel : '\x1b' ∉ "Job:".toList := by decide
  have hblank : '\x1b' ∉ (Span.ofText " ").text := by decide
  have hend : Alike (Line.render true []) (Line.render false []) := Line.alike_of_clean (List.forall_mem_nil _)
  have hgray : Style.gray ≠ .plain := by decide
  have hcyan : Style.cyan ≠ .plain := by decide
  have hkind := Line.alike_cons ("(" ++ r.kind ++ ")").toList hgray hend rfl rfl
  have hname := Line.alike_cons r.name.toList hcyan (Line.alike_cons_of_notMem hblank hkind) rfl rfl
  exact Line.alike_cons_of_notMem hlabel (Line.alike_cons_of_notMem hblank hname)

/-- The lines of a report are clean, the title apart. -/
theorem clean_block (precision : Nat) (r : Report Float) :
    ∀ line ∈ block precision r, line = title r ∨ Line.Clean line := by
  intro line hline
  simp only [block, List.mem_append, List.mem_cons, List.not_mem_nil, or_false] at hline
  rcases hline with ((rfl | rfl | rfl | rfl) | hline) | rfl
  · exact .inr (List.forall_mem_nil _)
  · exact .inr clean_rule
  · exact .inl rfl
  · exact .inr clean_rule
  · exact .inr (clean_body precision r.output line hline)
  · exact .inr (clean_summary r.output)

/-- **A report in colour is like the report without.** -/
theorem alike_block (precision : Nat) (r : Report Float) :
    Alike ((block precision r).flatMap (Line.render true)) ((block precision r).flatMap (Line.render false)) := by
  refine alike_flatMap fun line hline => ?_
  obtain rfl | hclean := clean_block precision r line hline
  · exact alike_title r
  · exact Line.alike_of_clean hclean

theorem notMem_block (precision : Nat) {r : Report Float} (hname : '\x1b' ∉ r.name.toList)
    (hkind : '\x1b' ∉ r.kind.toList) : '\x1b' ∉ (block precision r).flatMap (Line.render false) := by
  rw [List.mem_flatMap]
  rintro ⟨line, hline, hmem⟩
  obtain rfl | hclean := clean_block precision r line hline
  · exact Line.notMem_of_clean (clean_title hname hkind) hmem
  · exact Line.notMem_of_clean hclean hmem

end Table

/-! ## Tables -/

/-- No word for a kind has an escape character. -/
theorem Kind.escape_notMem_name (k : Kind) : '\x1b' ∉ k.name.toList := by cases k <;> decide

/-- **Colour never changes what a table says.** Without their sequences the table in colour and the table without
are the same text, whatever reports are called. If no name and no kind has an escape character, this is the
table without colour itself, to the last blank; of what jobs come to only the names matter. -/
theorem colour_changes_no_character (precision : Nat) (reports : List (Report Float)) :
    Style.bare (Report.print ⟨.table, precision⟩ true reports).toList =
        Style.bare (Report.print ⟨.table, precision⟩ false reports).toList ∧
      ((∀ r ∈ reports, '\x1b' ∉ r.name.toList) → (∀ r ∈ reports, '\x1b' ∉ r.kind.toList) →
        Style.bare (Report.print ⟨.table, precision⟩ true reports).toList =
          (Report.print ⟨.table, precision⟩ false reports).toList) ∧
      ((∀ r ∈ reports, '\x1b' ∉ r.name.toList) → (∀ r ∈ reports, ∃ n : NamedJob Float, n.report = .ok r) →
        Style.bare (Report.print ⟨.table, precision⟩ true reports).toList =
          (Report.print ⟨.table, precision⟩ false reports).toList) := by
  simp only [Report.print, String.toList_ofList]
  have hsame : Style.bare (Report.table precision true reports) = Style.bare (Report.table precision false reports) :=
    (alike_flatMap fun r _ => Table.alike_block precision r).bare_eq
  have hself (hnames : ∀ r ∈ reports, '\x1b' ∉ r.name.toList) (hkinds : ∀ r ∈ reports, '\x1b' ∉ r.kind.toList) :
      Style.bare (Report.table precision true reports) = Report.table precision false reports := by
    rw [hsame]
    apply bare_eq_self
    rw [Report.table, List.mem_flatMap]
    rintro ⟨r, hr, hmem⟩
    exact Table.notMem_block precision (hnames r hr) (hkinds r hr) hmem
  refine ⟨hsame, hself, fun hnames hruns => hself hnames fun r hr => ?_⟩
  obtain ⟨n, hn⟩ := hruns r hr
  obtain ⟨-, hkind, -⟩ := NamedJob.report_eq_ok hn
  rw [hkind]
  exact n.job.kind.escape_notMem_name

/-- A rectangle whose name is two sequences but for the escape characters. -/
def ribbon : NamedJob Float := ⟨"[31mribbon[0m; m", .rect ⟨.size 2, .range 1 (-0.5), .flag false⟩⟩

/-- A region that is too narrow for its tiles. -/
def selvedge : NamedJob Float :=
  ⟨"", .stretch ⟨{ size := .size 1, minTile := some 2, spacing := 0 }, { size := .size 1, count := some 1, spacing := 0 },
    .flag false⟩⟩

/-- What both jobs come to. -/
def marked : List (Report Float) :=
  [⟨"[31mribbon[0m; m", "rect", .points [⟨0, -0.5⟩, ⟨0, 1⟩, ⟨2, 1⟩, ⟨2, -0.5⟩]⟩, ⟨"", "stretch", .tiles []⟩]

theorem bracketed_names_change_no_character :
    ((∀ r ∈ marked, '\x1b' ∉ r.name.toList) ∧ (∀ r ∈ marked, '\x1b' ∉ r.kind.toList) ∧
        ∀ r ∈ marked, ∃ n : NamedJob Float, n.report = .ok r) ∧
      Report.print ⟨.table, 3⟩ true marked ≠ Report.print ⟨.table, 3⟩ false marked ∧
      Style.bare (Report.print ⟨.table, 3⟩ true marked).toList = (Report.print ⟨.table, 3⟩ false marked).toList ∧
      Style.bare (Report.print ⟨.table, 0⟩ true marked).toList = (Report.print ⟨.table, 0⟩ false marked).toList := by
  have hnames : ∀ r ∈ marked, '\x1b' ∉ r.name.toList := by decide +kernel
  have hkinds : ∀ r ∈ marked, '\x1b' ∉ r.kind.toList := by decide +kernel
  have hribbon : ribbon.report =
      .ok ⟨"[31mribbon[0m; m", "rect", .points [⟨0, -0.5⟩, ⟨0, 1⟩, ⟨2, 1⟩, ⟨2, -0.5⟩]⟩ := by decide +kernel
  have hselvedge : selvedge.report = .ok ⟨"", "stretch", .tiles []⟩ := by decide +kernel
  have hruns : ∀ r ∈ marked, ∃ n : NamedJob Float, n.report = .ok r := by
    simp only [marked, List.forall_mem_cons]
    exact ⟨⟨ribbon, hribbon⟩, ⟨selvedge, hselvedge⟩, by simp⟩
  refine ⟨⟨hnames, hkinds, hruns⟩, by decide +kernel, ?_, ?_⟩
  · exact (colour_changes_no_character 3 marked).2.1 hnames hkinds
  · exact (colour_changes_no_character 0 marked).2.2 hnames hruns

end SketchLayout
