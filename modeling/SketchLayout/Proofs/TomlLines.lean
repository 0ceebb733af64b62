import SketchLayout.Document.Toml.Reader
import SketchLayout.Proofs.JsonTokens

/-!
# Lines of settings are read back

A TOML text that only gives bare names their values, a line for each, is read as the table of these
values in their order (`read?_settings`). What a line has to know of its value is `EndsLine`: however the
text goes on behind the line, the value is read, and nothing is read beyond it. Texts in plain quotes
(`endsLine_quoted`) and counts of at most sixty-three bits (`endsLine_count`) are of that kind.

The names have to differ: a second line for a name is refused, whatever it says.
-/

namespace SketchLayout.Toml

/-! ## Bare keys -/

/-- Names that need no quotes as keys. -/
def Bare (name : String) : Prop := name.toList ≠ [] ∧ ∀ c ∈ name.toList, isKeyChar c = true

theorem Bare.exists_cons {name : String} (h : Bare name) :
    ∃ c cs, name.toList = c :: cs ∧ isKeyChar c = true := by
  obtain ⟨hne, hall⟩ := h
  cases hname : name.toList with
  | nil => exact absurd hname hne
  | cons c cs => exact ⟨c, cs, rfl, hall c (by rw [hname]; exact List.mem_cons_self ..)⟩

/-- A character of a class is none that is not of it. -/
theorem ne_of_class {p : Char → Bool} {c d : Char} (hc : p c = true) (hd : p d = false) : c ≠ d := by
  rintro rfl
  rw [hc] at hd
  cases hd

theorem dropSpace_cons {c : Char} (h : isSpace c = false) (text : List Char) : dropSpace (c :: text) = c :: text :=
  List.dropWhile_cons_of_neg (by simp [h])

/-- Blanks are of no class that leaves them out, as the characters of keys and the digits do. -/
theorem isSpace_of_class {p : Char → Bool} {c : Char} (hc : p c = true) (hblank : p ' ' = false)
    (htab : p '\t' = false) : isSpace c = false := by
  simp [isSpace, ne_of_class hc hblank, ne_of_class hc htab]

theorem isSpace_of_isKeyChar {c : Char} (h : isKeyChar c = true) : isSpace c = false := isSpace_of_class h rfl rfl

/-- What is taken of a class ends in front of the first character that is not of it. -/
theorem takeWhile_class {p : Char → Bool} {front : List Char} {c : Char} (hfront : ∀ d ∈ front, p d = true)
    (hc : p c = false) (rest : List Char) :
    (front ++ c :: rest).takeWhile p = front ∧ (front ++ c :: rest).dropWhile p = c :: rest := by
  have hstop : ¬ p c = true := by simp [hc]
  rw [List.takeWhile_append_of_pos hfront, List.dropWhile_append_of_pos hfront, List.takeWhile_cons_of_neg hstop,
    List.dropWhile_cons_of_neg hstop]
  exact ⟨List.append_nil front, rfl⟩

theorem keyPart?_bare {name : String} (h : Bare name) (rest : List Char) :
    keyPart? (name.toList ++ ' ' :: rest) = some (name, ' ' :: rest) := by
  obtain ⟨c, cs, hname, hc⟩ := h.exists_cons
  have hblank : isKeyChar ' ' = false := rfl
  obtain ⟨hword, hrest⟩ := takeWhile_class h.2 hblank rest
  rw [keyPart?.eq_def]
  split
  case h_1 heq =>
    rw [hname] at heq
    exact absurd (List.cons.inj heq).1 (ne_of_class hc rfl)
  case h_2 heq =>
    rw [hname] at heq
    exact absurd (List.cons.inj heq).1 (ne_of_class hc rfl)
  case h_3 =>
    have hne : name.toList.isEmpty = false := by rw [hname]; rfl
    simp only [hword, hrest, hne, Bool.false_eq_true, if_false, String.ofList_toList]

theorem keyFrom?_bare {name : String} (h : Bare name) (rest : List Char) (fuel : Nat) :
    keyFrom? (fuel + 1) (name.toList ++ ' ' :: '=' :: rest) = some ([name], '=' :: rest) := by
  obtain ⟨c, cs, hname, hc⟩ := h.exists_cons
  have hfront : dropSpace (name.toList ++ ' ' :: '=' :: rest) = name.toList ++ ' ' :: '=' :: rest := by
    rw [hname]
    exact dropSpace_cons (isSpace_of_isKeyChar hc) _
  have hbehind : dropSpace (' ' :: '=' :: rest) = '=' :: rest := rfl
  simp only [keyFrom?, hfront, keyPart?_bare h, Option.bind_eq_bind, Option.bind_some, hbehind]
  rfl

/-- A bare name in front of an equals sign is the whole key. -/
theorem key?_bare {name : String} (h : Bare name) (rest : List Char) :
    key? (name.toList ++ ' ' :: '=' :: rest) = some (([], name), '=' :: rest) := by
  have hparts : keyFrom? nestingLimit (name.toList ++ ' ' :: '=' :: rest) = some ([name], '=' :: rest) :=
    keyFrom?_bare h rest 79
  simp only [key?, hparts, Option.bind_eq_bind, Option.bind_some]
  rfl

/-! ## Values at the end of a line -/

/-- Whether a value is read from a text that a line ends with, and nothing beyond the text. -/
def EndsLine (d : Document) (text : List Char) : Prop :=
  ∀ fuel levels rest, value? (fuel + 1) levels (dropSpace (text ++ '\n' :: rest)) = some (d, '\n' :: rest)

/-- Characters that stand for themselves in double quotes. -/
def isPlain (c : Char) : Bool := isTextChar c && c != '"' && c != '\\'

theorem basicFrom?_plain {cs : List Char} (h : cs.all isPlain = true) (rest : List Char) :
    ∀ fuel, cs.length < fuel → basicFrom? fuel (cs ++ '"' :: rest) = some (cs, rest) := by
  induction cs with
  | nil =>
    intro fuel hfuel
    cases fuel with
    | zero => simp at hfuel
    | succ fuel => rfl
  | cons c cs ih =>
    intro fuel hfuel
    cases fuel with
    | zero => simp at hfuel
    | succ fuel =>
      simp only [List.all_cons, isPlain, Bool.and_eq_true, bne_iff_ne] at h
      obtain ⟨⟨⟨htext, hquote⟩, hslash⟩, hall⟩ := h
      have hih := ih hall fuel (by simpa using hfuel)
      rw [List.cons_append, basicFrom?.eq_def]
      split
      all_goals simp_all

/-- A text in plain quotes. Three quotes in a row would open a text over lines, but behind the second there
is a character of the text, or the end of the line. -/
theorem endsLine_quoted {cs : List Char} (h : cs.all isPlain = true) :
    EndsLine (.text (String.ofList cs)) ('"' :: cs ++ ['"']) := by
  intro fuel levels rest
  have hbasic : basic? (cs ++ '"' :: '\n' :: rest) = some (cs, '\n' :: rest) :=
    basicFrom?_plain h _ _ (by simp)
  have htext : text? ('"' :: (cs ++ '"' :: '\n' :: rest)) = some (cs, '\n' :: rest) := by
    rw [text?.eq_2 _ ?_, hbasic]
    intro more heq
    cases cs with
    | nil => simp at heq
    | cons c cs =>
      have hc : c = '"' := (List.cons.inj heq).1
      simp [isPlain, hc] at h
  have hdrop : dropSpace ('"' :: cs ++ ['"'] ++ '\n' :: rest) = '"' :: (cs ++ '"' :: '\n' :: rest) := by
    simp [dropSpace, isSpace]
  rw [hdrop, value?, htext]
  rfl

/-! ## Counts -/

/-- A date has a minus sign in it. -/
theorem afterDate?_of_notMem {text : List Char} (h : '-' ∉ text) : afterDate? text = none := by
  rw [afterDate?.eq_def]
  split
  · simp at h
  · rfl

/-- A time of day has a colon in it. -/
theorem afterTime?_of_notMem {text : List Char} (h : ':' ∉ text) : afterTime? text = none := by
  rw [afterTime?.eq_def]
  split
  · simp at h
  · rfl

section Digits

variable {text : List Char} (htext : ∀ c ∈ text, c.isDigit = true)
include htext

theorem notMem_of_isDigit {d : Char} (hd : d.isDigit = false) : d ∉ text := fun hmem => ne_of_class (htext d hmem) hd rfl

theorem isStamp_digits : isStamp text = false := by
  have hdate : afterDate? text = none := afterDate?_of_notMem (notMem_of_isDigit htext rfl)
  have htime : afterTime? text = none := afterTime?_of_notMem (notMem_of_isDigit htext rfl)
  rw [isStamp, hdate, htime]
  rfl

theorem ungroupRest?_digits : ungroupRest? Char.isDigit text = some text := by
  induction text with
  | nil => rfl
  | cons c text ih =>
    have hc : c.isDigit = true := htext c (List.mem_cons_self ..)
    have hih := ih fun d hd => htext d (List.mem_cons_of_mem c hd)
    rw [ungroupRest?.eq_def]
    split
    · simp_all
    · rename_i heq
      exact absurd (List.cons.inj heq).1 (ne_of_class hc rfl)
    · rename_i heq
      obtain ⟨rfl, rfl⟩ := List.cons.inj heq
      rw [if_pos hc, hih]
      rfl

theorem ungroup?_digits (hne : text ≠ []) : ungroup? Char.isDigit text = some text := by
  cases text with
  | nil => exact absurd rfl hne
  | cons c text =>
    have hc : c.isDigit = true := htext c (List.mem_cons_self ..)
    have hrest := ungroupRest?_digits fun d hd => htext d (List.mem_cons_of_mem c hd)
    rw [ungroup?, if_pos hc, hrest]
    rfl

/-- Digits without a needless zero in front are read as their number. -/
theorem decimal?_digits (hne : text ≠ []) (hlead : text = ['0'] ∨ text.head? ≠ some '0') :
    decimal? false text = bounded? (digitsValue text) := by
  have hgroup : ∀ c ∈ text, isGroupChar c = true := fun c hc => by simp [isGroupChar, htext c hc]
  have hzero : (text.head? == some '0' && text.length != 1) = false := by
    rcases hlead with rfl | hhead
    · rfl
    · simp [hhead]
  simp only [decimal?, List.takeWhile_eq_self_iff.mpr hgroup, List.dropWhile_eq_nil_iff.mpr hgroup,
    ungroup?_digits htext hne, Option.bind_eq_bind, Option.bind_some, hzero, Bool.false_eq_true, if_false]

/-- So a word of such digits is no boolean, date or time, and has no base. -/
theorem word?_digits (hne : text ≠ []) (hlead : text = ['0'] ∨ text.head? ≠ some '0') :
    word? text = bounded? (digitsValue text) := by
  have hno : ∀ word : List Char, word.all Char.isDigit = false → (text == word) = false := by
    intro word hword
    rw [beq_eq_false_iff_ne]
    rintro rfl
    rw [List.all_eq_true.mpr htext] at hword
    cases hword
  have hsign : FloatLiteral.sign text = (false, text) := by
    refine FloatLiteral.sign.eq_3 text ?_ ?_
    all_goals
      rintro rest rfl
      exact ne_of_class (htext _ (List.mem_cons_self ..)) (by decide) rfl
  have hbase : ∀ c rest, c.isDigit = false → text ≠ '0' :: c :: rest := by
    rintro c rest hc rfl
    exact ne_of_class (htext c (by simp)) hc rfl
  have hnumber : number? text = decimal? false text := by
    rw [number?.eq_4 text (hbase 'x' · rfl) (hbase 'o' · rfl) (hbase 'b' · rfl)]
    simp only [hsign, hno ['i', 'n', 'f'] rfl, hno ['n', 'a', 'n'] rfl, Bool.false_eq_true, if_false]
  simp only [word?, hno ['t', 'r', 'u', 'e'] rfl, hno ['f', 'a', 'l', 's', 'e'] rfl, isStamp_digits htext,
    Bool.false_eq_true, if_false, hnumber, decimal?_digits htext hne hlead]

end Digits

/-- No text, list or table begins with a digit. -/
theorem value?_of_isDigit {c : Char} (h : c.isDigit = true) (fuel levels : Nat) (rest : List Char) :
    value? (fuel + 1) levels (c :: rest) = wordAt? (c :: rest) := by
  have hno : ∀ d more, d.isDigit = false → c :: rest ≠ d :: more := by
    intro d more hd heq
    exact ne_of_class h hd (List.cons.inj heq).1
  exact value?.eq_6 _ _ _ (hno '"' · rfl) (hno '\'' · rfl) (hno '[' · rfl) (hno '\x7b' · rfl)

/-- A count that an integer of sixty-four bits with a sign can hold. -/
theorem endsLine_count {n : Nat} (h : n < 0x8000000000000000) : EndsLine (.int n) (Numeral.digits n) := by
  intro fuel levels rest
  have hdigits : ∀ c ∈ Numeral.digits n, c.isDigit = true := fun c => Json.isDigit_of_mem_digits
  have hne : Numeral.digits n ≠ [] := Nat.toDigits_ne_nil
  have hlead : Numeral.digits n = ['0'] ∨ (Numeral.digits n).head? ≠ some '0' := by
    by_cases hn : n = 0
    · subst hn
      exact .inl rfl
    · exact .inr (Json.head?_digits n hn)
  have hword : ∀ c ∈ Numeral.digits n, isWordChar c = true := fun c hc => by
    simp [isWordChar, Char.isAlphanum, hdigits c hc]
  have hvalue : word? (Numeral.digits n) = some (.int n) := by
    have hbounds : -0x8000000000000000 ≤ (n : Int) ∧ (n : Int) < 0x8000000000000000 := by omega
    rw [word?_digits hdigits hne hlead, Json.digitsValue_digits]
    exact if_pos (by simpa using hbounds)
  have hat : wordAt? (Numeral.digits n ++ '\n' :: rest) = some (.int n, '\n' :: rest) := by
    have hbreak : isWordChar '\n' = false := rfl
    obtain ⟨htake, hdrop⟩ := takeWhile_class hword hbreak rest
    simp only [wordAt?, htake, hdrop, hvalue]
    rfl
  obtain ⟨c, cs, hcons⟩ := List.exists_cons_of_ne_nil hne
  have hc : c.isDigit = true := hdigits c (by rw [hcons]; exact List.mem_cons_self ..)
  have hspace : isSpace c = false := isSpace_of_class hc rfl rfl
  rw [hcons, List.cons_append] at hat ⊢
  rw [dropSpace_cons hspace, value?_of_isDigit hc, hat]

/-! ## Lines -/

/-- A line that gives a bare name its value, by a text that spells the value. -/
structure Setting where
  name : String
  value : Document
  text : List Char
  bare : Bare name
  endsLine : EndsLine value text

namespace Setting

variable (s : Setting)

def line : List Char := s.name.toList ++ ' ' :: '=' :: ' ' :: (s.text ++ ['\n'])

def entry : String × Entry := (s.name, .value s.value)

theorem line_append (rest : List Char) :
    s.line ++ rest = s.name.toList ++ ' ' :: '=' :: ' ' :: (s.text ++ '\n' :: rest) := by simp [line]

theorem exists_cons_line (rest : List Char) : ∃ c cs, s.line ++ rest = c :: cs ∧ isKeyChar c = true := by
  obtain ⟨c, cs, hname, hc⟩ := s.bare.exists_cons
  exact ⟨c, _, by rw [line_append, hname, List.cons_append], hc⟩

end Setting

/-- A name that is not in the table yet is put at its end. -/
theorem change?_new {name : String} (f : Option Entry → Option Entry) {fields : Fields}
    (h : name ∉ fields.map Prod.fst) : change? name f fields = (f none).map fun e => fields ++ [(name, e)] := by
  induction fields with
  | nil => rfl
  | cons field fields ih =>
    simp only [List.map_cons, List.mem_cons, not_or] at h
    have hne : (field.1 == name) = false := beq_false_of_ne (Ne.symm h.1)
    rw [change?, hne, ih h.2]
    cases f none <;> rfl

theorem lineEnd?_break (rest : List Char) : lineEnd? ('\n' :: rest) = some rest := rfl

/-- A line that begins with a key does not end there. -/
theorem lineEnd?_of_isKeyChar {c : Char} (h : isKeyChar c = true) (text : List Char) : lineEnd? (c :: text) = none := by
  have hdrop := dropSpace_cons (isSpace_of_isKeyChar h) text
  have hmark : c ≠ '#' := ne_of_class h rfl
  have hfeed : c ≠ '\n' := ne_of_class h rfl
  have hreturn : c ≠ '\r' := ne_of_class h rfl
  simp [lineEnd?, hdrop, hmark, afterBreak?, hfeed, hreturn]

theorem line?_setting (s : Setting) {fields : Fields} (hnew : s.name ∉ fields.map Prod.fst) (rest : List Char) :
    line? ⟨fields, []⟩ (s.line ++ rest) = some (⟨fields ++ [s.entry], []⟩, rest) := by
  obtain ⟨c, cs, hcons, hc⟩ := s.exists_cons_line rest
  have hno : ∀ more, s.line ++ rest ≠ '[' :: more := by
    intro more heq
    rw [hcons] at heq
    exact ne_of_class hc rfl (List.cons.inj heq).1
  have hkey := key?_bare s.bare (' ' :: (s.text ++ '\n' :: rest))
  have hvalue : ∀ fuel, value? (fuel + 1) (nestingLimit - 1) (dropSpace (' ' :: (s.text ++ '\n' :: rest))) =
      some (s.value, '\n' :: rest) := fun fuel => s.endsLine fuel (nestingLimit - 1) rest
  have hassign : within? (assign? s.name s.value []) [] fields = some (fields ++ [s.entry]) :=
    change?_new _ hnew
  rw [line?.eq_3 _ _ (fun more => hno _) hno, s.line_append, hkey]
  simp only [Option.bind_eq_bind, Option.bind_some, hvalue, lineEnd?_break, hassign]
  rfl

/-- **Settings are read one after another.** Every line adds its entry at the end of the table. -/
theorem lines?_settings (settings : List Setting) :
    ∀ (fields : Fields) (fuel : Nat), (fields.map Prod.fst ++ settings.map Setting.name).Nodup →
      (settings.flatMap Setting.line).length ≤ fuel →
      lines? fuel ⟨fields, []⟩ (settings.flatMap Setting.line) =
        some ⟨fields ++ settings.map Setting.entry, []⟩ := by
  induction settings with
  | nil =>
    intro fields fuel _ _
    cases fuel <;> simp [lines?, dropSpace]
  | cons s settings ih =>
    intro fields fuel hnodup hfuel
    obtain ⟨c, cs, hcons, hc⟩ := s.exists_cons_line (settings.flatMap Setting.line)
    have hnew : s.name ∉ fields.map Prod.fst := by
      intro hmem
      exact (List.nodup_append.mp hnodup).2.2 _ hmem _ (List.mem_cons_self ..) rfl
    have hline := line?_setting s hnew (settings.flatMap Setting.line)
    have hlength : 0 < s.line.length := by
      simp only [Setting.line, List.length_append, List.length_cons]
      omega
    rw [List.flatMap_cons, List.length_append] at hfuel
    rw [List.flatMap_cons, List.map_cons]
    cases fuel with
    | zero => omega
    | succ fuel =>
      have hnodup' : ((fields ++ [s.entry]).map Prod.fst ++ settings.map Setting.name).Nodup := by
        simpa [Setting.entry] using hnodup
      have hih := ih (fields ++ [s.entry]) fuel hnodup' (by omega)
      rw [hcons] at hline ⊢
      simp only [lines?, dropSpace_cons (isSpace_of_isKeyChar hc), lineEnd?_of_isKeyChar hc, hline,
        Option.bind_eq_bind, Option.bind_some, hih, List.append_assoc, List.singleton_append]

theorem fieldsToDocument_settings (settings : List Setting) :
    fieldsToDocument (settings.map Setting.entry) = settings.map fun s => (s.name, s.value) := by
  induction settings with
  | nil => rfl
  | cons s settings ih => simp only [List.map_cons, Setting.entry, fieldsToDocument, Entry.toDocument, ← ih]

theorem read?_settings {settings : List Setting} (hnodup : (settings.map Setting.name).Nodup) :
    read? (String.ofList (settings.flatMap Setting.line)) =
      some (.object (settings.map fun s => (s.name, s.value))) := by
  have hlines := lines?_settings settings [] (settings.flatMap Setting.line).length hnodup (Nat.le_refl _)
  have hmark : ∀ rest, settings.flatMap Setting.line ≠ '\ufeff' :: rest := by
    intro rest heq
    cases settings with
    | nil => cases heq
    | cons s settings =>
      obtain ⟨c, cs, hcons, hc⟩ := s.exists_cons_line (settings.flatMap Setting.line)
      rw [List.flatMap_cons, hcons] at heq
      exact ne_of_class hc (by decide) (List.cons.inj heq).1
  unfold read?
  rw [String.toList_ofList]
  split
  · rename_i rest heq
    exact absurd heq (hmark rest)
  · simp only [hlines, Option.bind_eq_bind, Option.bind_some, List.nil_append, fieldsToDocument_settings]
    rfl

end SketchLayout.Toml
