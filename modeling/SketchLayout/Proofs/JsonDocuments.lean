import SketchLayout.Document.Json.Reader
import SketchLayout.Proofs.JsonTokens

/-!
# Written documents are read back

A text renders a document when it spells tokens that are read as the document, whatever stands behind
it (`Renders`). Rendered values make rendered lists and objects, with white space between them as
wanted, and so both layouts of a document are read back. What is left open is how a double comes back
from its digits: that is `ReadsBack`, asked of every double in the document.
-/

namespace SketchLayout

/-- Whether a double comes back from its text. -/
def Json.ReadsBack (x : Float) : Prop := Json.read? (Json.toLine (.number x)) = some (.number x)

instance (x : Float) : Decidable (Json.ReadsBack x) :=
  decidable_of_iff ((match Json.read? (Json.toLine (.number x)) with
    | some (.number y) => decide (y = x)
    | _ => false) = true) <| by
    unfold Json.ReadsBack
    split <;> simp_all

/-- The documents that have a form in JSON: whole numbers stay in range and doubles come back. -/
inductive Document.Writable : Document → Prop
  | null : Writable null
  | bool (b : Bool) : Writable (bool b)
  | int {n : Int} (hlow : -0x8000000000000000 ≤ n) (hhigh : n < 0x10000000000000000) : Writable (int n)
  | number {x : Float} (h : Json.ReadsBack x) : Writable (number x)
  | text (s : String) : Writable (text s)
  | list {items : List Document} (h : ∀ d ∈ items, Writable d) : Writable (list items)
  | object {fields : List (String × Document)} (h : ∀ field ∈ fields, Writable field.2) : Writable (object fields)

namespace Json

/-! ## Texts behind one another -/

/-- Whether a text spells its tokens in front of any text that stands apart. -/
def Writes (text : List Char) (ts : List Token) : Prop :=
  ∀ tail us, Apart tail → Spells tail us → Spells (text ++ tail) (ts ++ us)

theorem Apart.append {text tail : List Char} (htext : Apart text) (htail : Apart tail) : Apart (text ++ tail) := by
  cases text with
  | nil => exact htail
  | cons c text => exact htext

theorem isSpace_nil : ∀ c ∈ ([] : List Char), isSpace c = true := by simp

/-- White space stands apart. -/
theorem apart_of_spaces {gap : List Char} (hgap : ∀ c ∈ gap, isSpace c = true) : Apart gap := by
  intro c hc
  have hspace : isSpace c = true := hgap c (List.mem_of_mem_head? hc)
  simp only [isSpace, Bool.or_eq_true, beq_iff_eq] at hspace
  obtain ((rfl | rfl) | rfl) | rfl := hspace <;> rfl

namespace Writes

theorem append {a b : List Char} {ts us : List Token} (ha : Writes a ts) (hb : Writes b us) (happart : Apart b) :
    Writes (a ++ b) (ts ++ us) := by
  intro tail vs htail h
  rw [List.append_assoc, List.append_assoc]
  exact ha _ _ (happart.append htail) (hb tail vs htail h)

/-- A sign of its own is a token whatever follows. -/
theorem cons {c : Char} {t : Token} (ht : ∀ rest, token? (c :: rest) = some (t, rest)) {text : List Char}
    {ts : List Token} (h : Writes text ts) : Writes (c :: text) (t :: ts) := by
  intro tail us htail hspells
  exact .token (ht _) (by simp) (h tail us htail hspells)

theorem nil : Writes [] [] := fun _ _ _ h => h

theorem gap {gap text : List Char} {ts : List Token} (hgap : ∀ c ∈ gap, isSpace c = true) (h : Writes text ts) :
    Writes (gap ++ text) ts := by
  intro tail us htail hspells
  rw [List.append_assoc]
  exact (h tail us htail hspells).spaces hgap

/-- A text that is read as one token whatever stands apart behind it. -/
theorem word {text : List Char} {t : Token} (hne : text ≠ [])
    (ht : ∀ tail, Apart tail → token? (text ++ tail) = some (t, tail)) : Writes text [t] := by
  intro tail us htail hspells
  refine .token (ht tail htail) ?_ hspells
  have hlen := List.length_pos_iff.mpr hne
  rw [List.length_append]
  omega

theorem quote (s : String) : Writes (quote s) [.text (some s)] :=
  word (by simp [Json.quote]) fun tail _ => token?_quote s tail

theorem integer (n : Int) : Writes (integer n) [integerToken n] := by
  have hnumber := number?_of_token? (token?_integer n)
  refine word ?_ fun tail htail => ?_
  · intro heq
    rw [heq] at hnumber
    cases hnumber
  · have happend := number?_append htail hnumber
    exact token?_of_number? happend

end Writes

theorem spaces_of_tokensFrom {fuel : Nat} {text : List Char} (h : tokensFrom fuel text = some []) :
    ∀ c ∈ text, isSpace c = true := by
  cases fuel with
  | zero =>
    simp only [tokensFrom] at h
    split at h
    · rename_i hall
      simpa using hall
    · cases h
  | succ fuel =>
    simp only [tokensFrom] at h
    split at h
    · rename_i hdrop
      exact List.dropWhile_eq_nil_iff.mp hdrop
    · simp [Option.bind_eq_some_iff] at h

/-- A text that holds nothing but a number writes it. -/
theorem Writes.number {text : List Char} {n : NumberToken} (h : tokens? text = some [.number n]) :
    Writes text [.number n] := by
  have htext : text.takeWhile isSpace ++ text.dropWhile isSpace = text := List.takeWhile_append_dropWhile
  have hgap : ∀ c ∈ text.takeWhile isSpace, isSpace c = true := fun c hc => List.mem_takeWhile_imp hc
  unfold tokens? at h
  cases hlen : text.length with
  | zero => simp [hlen, tokensFrom] at h
  | succ fuel =>
    rw [hlen] at h
    simp only [tokensFrom] at h
    split at h
    · cases h
    · simp only [Option.bind_eq_bind, Option.bind_eq_some_iff] at h
      obtain ⟨⟨t, rest⟩, ht, ts, hts, heq⟩ := h
      cases heq
      have hnumber := number?_of_token? ht
      have hrest := spaces_of_tokensFrom hts
      rw [← htext]
      refine Writes.gap hgap fun tail us htail hspells => ?_
      have happend := number?_append htail hnumber
      refine .token (token?_of_number? happend) (number?_shorter happend) ?_
      exact hspells.spaces hrest

/-! ## Rendered values -/

/-- Whether a text stands for a document wherever it stands. -/
def Renders (text : List Char) (d : Document) : Prop :=
  ∃ ts, Writes text ts ∧ ∀ fuel rest, 2 * ts.length ≤ fuel → value? fuel (ts ++ rest) = some (d, rest)

/-- Whether a text stands for the items of a list, brackets apart. -/
def RendersItems (text : List Char) (items : List Document) : Prop :=
  ∃ ts, Writes text ts ∧
    ∀ fuel rest, 2 * ts.length < fuel → items? fuel (ts ++ .closeList :: rest) = some (items, rest)

/-- Whether a text stands for the fields of an object, braces apart. -/
def RendersFields (text : List Char) (fields : List (String × Document)) : Prop :=
  ∃ ts, Writes text ts ∧ ∀ fuel rest, 2 * ts.length < fuel →
    fields? fuel (ts ++ .closeObject :: rest) = some (fields.map fun field => (some field.1, field.2), rest)

/-- A value of one token. -/
theorem Renders.leaf {text : List Char} {t : Token} {d : Document} (hwrites : Writes text [t])
    (hvalue : ∀ fuel rest, value? (fuel + 1) (t :: rest) = some (d, rest)) : Renders text d := by
  refine ⟨[t], hwrites, fun fuel rest hfuel => ?_⟩
  obtain ⟨fuel, rfl⟩ : ∃ k, fuel = k + 1 := ⟨fuel - 1, by simp at hfuel; omega⟩
  exact hvalue fuel rest

/-- What stands between two brackets, with white space inside them. -/
theorem Renders.bracketed {c c' : Char} {t t' : Token} (hopen : ∀ rest, token? (c :: rest) = some (t, rest))
    (hclose : ∀ rest, token? (c' :: rest) = some (t', rest)) (hapart : inNumber c' = false)
    {text gap gap' : List Char} {ts : List Token} {d : Document} (hgap : ∀ c ∈ gap, isSpace c = true)
    (hgap' : ∀ c ∈ gap', isSpace c = true) (hwrites : Writes text ts)
    (hvalue : ∀ fuel rest, 2 * ts.length < fuel → value? (fuel + 1) (t :: (ts ++ t' :: rest)) = some (d, rest)) :
    Renders (c :: (gap ++ (text ++ (gap' ++ [c'])))) d := by
  have hend : Writes (gap' ++ [c']) [t'] := .gap hgap' (.cons hclose .nil)
  have happart : Apart (gap' ++ [c']) := (apart_of_spaces hgap').append (apart_cons hapart [])
  refine ⟨t :: (ts ++ [t']), .cons hopen (.gap hgap (hwrites.append hend happart)), fun fuel rest hfuel => ?_⟩
  simp only [List.length_cons, List.length_append, List.length_nil] at hfuel
  obtain ⟨fuel, rfl⟩ : ∃ k, fuel = k + 1 := ⟨fuel - 1, by omega⟩
  rw [List.cons_append, List.append_assoc]
  exact hvalue fuel rest (by omega)

theorem numberValue_integer {n : Int} (hlow : -0x8000000000000000 ≤ n) (hhigh : n < 0x10000000000000000) :
    numberValue ⟨⟨n < 0, n.natAbs, 0⟩, true⟩ = .int n := by
  have hsmall : n.natAbs < 0x10000000000000000 := by omega
  unfold numberValue
  by_cases hn : n < 0
  · have hnonzero : n.natAbs ≠ 0 := by omega
    have hle : n.natAbs ≤ 0x8000000000000000 := by omega
    have hback : -(n.natAbs : Int) = n := by omega
    rw [if_neg (by simp [hn]), if_pos (by simp [hn, hnonzero, hle])]
    exact congrArg Document.int hback
  · have hback : (n.natAbs : Int) = n := by omega
    rw [if_pos (by simp [hn, hsmall])]
    exact congrArg Document.int hback

theorem renders_null : Renders (atom .null) .null := .leaf (.word (by decide) fun _ _ => rfl) fun _ _ => rfl

theorem renders_bool (b : Bool) : Renders (atom (.bool b)) (.bool b) := by
  cases b <;> exact .leaf (.word (by decide) fun _ _ => rfl) fun _ _ => rfl

theorem renders_text (s : String) : Renders (atom (.text s)) (.text s) := .leaf (.quote s) fun _ _ => rfl

theorem renders_int {n : Int} (hlow : -0x8000000000000000 ≤ n) (hhigh : n < 0x10000000000000000) :
    Renders (atom (.int n)) (.int n) := by
  refine .leaf (.integer n) fun fuel rest => ?_
  show some (numberValue ⟨⟨n < 0, n.natAbs, 0⟩, true⟩, rest) = _
  rw [numberValue_integer hlow hhigh]

theorem value?_eq_number {fuel : Nat} {ts rest : List Token} {x : Float}
    (h : value? fuel ts = some (.number x, rest)) :
    ∃ n, ts = .number n :: rest ∧ numberValue n = .number x := by
  cases fuel with
  | zero => cases h
  | succ fuel =>
    simp only [value?] at h
    split at h
    all_goals simp at h
    · rename_i n rest'
      obtain ⟨hvalue, rfl⟩ := h
      exact ⟨n, rfl, hvalue⟩
    · obtain ⟨fs, hfs, hvalue⟩ := h
      unfold objectValue at hvalue
      split at hvalue <;> cases hvalue

theorem renders_number {x : Float} (h : ReadsBack x) : Renders (atom (.number x)) (.number x) := by
  simp only [ReadsBack, read?, toLine, String.toList_ofList, Option.bind_eq_bind, Option.bind_eq_some_iff] at h
  obtain ⟨ts, hts, ⟨d, rest⟩, hvalue, heq⟩ := h
  cases rest with
  | cons t rest => cases heq
  | nil =>
    cases heq
    obtain ⟨n, rfl, hn⟩ := value?_eq_number hvalue
    refine .leaf (Writes.number hts) fun fuel rest => ?_
    show some (numberValue n, rest) = _
    rw [hn]

/-! ## Lists -/

theorem value?_openList {fuel : Nat} {ts rest : List Token} {items : List Document}
    (h : items? fuel ts = some (items, rest)) : value? (fuel + 1) (.openList :: ts) = some (.list items, rest) := by
  have hopen : ts.head? ≠ some .closeList := by
    intro hhead
    obtain ⟨us, rfl⟩ := List.head?_eq_some_iff.mp hhead
    cases fuel with
    | zero => cases h
    | succ fuel => cases fuel <;> simp [items?, value?] at h
  cases ts with
  | nil => simp [value?, h]
  | cons t ts => cases t <;> simp_all [value?]

theorem RendersItems.one {text : List Char} {d : Document} (h : Renders text d) : RendersItems text [d] := by
  obtain ⟨ts, hwrites, hvalue⟩ := h
  refine ⟨ts, hwrites, fun fuel rest hfuel => ?_⟩
  obtain ⟨fuel, rfl⟩ : ∃ k, fuel = k + 1 := ⟨fuel - 1, by omega⟩
  simp [items?, hvalue fuel _ (by omega)]

theorem RendersItems.cons {text more gap : List Char} {d : Document} {items : List Document}
    (hgap : ∀ c ∈ gap, isSpace c = true) (h : Renders text d) (hmore : RendersItems more items) :
    RendersItems (text ++ ',' :: (gap ++ more)) (d :: items) := by
  obtain ⟨ts, hwrites, hvalue⟩ := h
  obtain ⟨us, hwrites', hitems⟩ := hmore
  refine ⟨ts ++ .comma :: us, ?_, fun fuel rest hfuel => ?_⟩
  · exact hwrites.append (.cons (fun _ => rfl) (.gap hgap hwrites')) (apart_cons rfl _)
  · obtain ⟨fuel, rfl⟩ : ∃ k, fuel = k + 1 := ⟨fuel - 1, by omega⟩
    simp only [List.length_append, List.length_cons] at hfuel
    rw [List.append_assoc, items?, hvalue fuel _ (by omega)]
    simp [hitems fuel rest (by omega)]

theorem renders_nil : Renders ['[', ']'] (.list []) :=
  .bracketed (fun _ => rfl) (fun _ => rfl) rfl isSpace_nil isSpace_nil .nil fun _ _ _ => rfl

theorem RendersItems.renders {text gap gap' : List Char} {items : List Document}
    (hgap : ∀ c ∈ gap, isSpace c = true) (hgap' : ∀ c ∈ gap', isSpace c = true) (h : RendersItems text items) :
    Renders ('[' :: (gap ++ (text ++ (gap' ++ [']'])))) (.list items) := by
  obtain ⟨ts, hwrites, hitems⟩ := h
  refine .bracketed (fun _ => rfl) (fun _ => rfl) rfl hgap hgap' hwrites fun fuel rest hfuel => ?_
  exact value?_openList (hitems fuel rest hfuel)

/-! ## Objects -/

theorem objectValue_some (fields : List (String × Document)) :
    objectValue (fields.map fun field => (some field.1, field.2)) = .object fields := by
  have hall : ∀ fields : List (String × Document),
      (fields.map fun field => (some field.1, field.2)).mapM
        (fun field : Option String × Document => field.1.map fun name => (name, field.2)) = some fields := by
    intro fields
    induction fields with
    | nil => rfl
    | cons field fields ih => simp [ih]
  unfold objectValue
  rw [hall]

theorem value?_openObject {fuel : Nat} {ts rest : List Token} {fields : List (Option String × Document)}
    (h : fields? fuel ts = some (fields, rest)) :
    value? (fuel + 1) (.openObject :: ts) = some (objectValue fields, rest) := by
  have hopen : ts.head? ≠ some .closeObject := by
    intro hhead
    obtain ⟨us, rfl⟩ := List.head?_eq_some_iff.mp hhead
    cases fuel <;> simp [fields?] at h
  cases ts with
  | nil => simp [value?, h]
  | cons t ts => cases t <;> simp_all [value?]

/-- A value behind its name. -/
theorem writes_field {text gap : List Char} {ts : List Token} (name : String) (hgap : ∀ c ∈ gap, isSpace c = true)
    (h : Writes text ts) : Writes (quote name ++ ':' :: (gap ++ text)) (.text (some name) :: .colon :: ts) :=
  (Writes.quote name).append (.cons (fun _ => rfl) (.gap hgap h)) (apart_cons rfl _)

theorem RendersFields.one {text gap : List Char} {d : Document} (name : String) (hgap : ∀ c ∈ gap, isSpace c = true)
    (h : Renders text d) : RendersFields (quote name ++ ':' :: (gap ++ text)) [(name, d)] := by
  obtain ⟨ts, hwrites, hvalue⟩ := h
  refine ⟨_, writes_field name hgap hwrites, fun fuel rest hfuel => ?_⟩
  simp only [List.length_cons] at hfuel
  obtain ⟨fuel, rfl⟩ : ∃ k, fuel = k + 1 := ⟨fuel - 1, by omega⟩
  simp [fields?, hvalue fuel _ (by omega)]

theorem RendersFields.cons {text more gap gap' : List Char} {d : Document} {fields : List (String × Document)}
    (name : String) (hgap : ∀ c ∈ gap, isSpace c = true) (hgap' : ∀ c ∈ gap', isSpace c = true)
    (h : Renders text d) (hmore : RendersFields more fields) :
    RendersFields (quote name ++ ':' :: (gap ++ text) ++ ',' :: (gap' ++ more)) ((name, d) :: fields) := by
  obtain ⟨ts, hwrites, hvalue⟩ := h
  obtain ⟨us, hwrites', hfields⟩ := hmore
  refine ⟨.text (some name) :: .colon :: ts ++ .comma :: us, ?_, fun fuel rest hfuel => ?_⟩
  · exact (writes_field name hgap hwrites).append (.cons (fun _ => rfl) (.gap hgap' hwrites')) (apart_cons rfl _)
  · simp only [List.length_append, List.length_cons] at hfuel
    obtain ⟨fuel, rfl⟩ : ∃ k, fuel = k + 1 := ⟨fuel - 1, by omega⟩
    simp [fields?, hvalue fuel _ (by omega), hfields fuel rest (by omega)]

theorem renders_empty : Renders ['{', '}'] (.object []) :=
  .bracketed (fun _ => rfl) (fun _ => rfl) rfl isSpace_nil isSpace_nil .nil fun _ _ _ => rfl

theorem RendersFields.renders {text gap gap' : List Char} {fields : List (String × Document)}
    (hgap : ∀ c ∈ gap, isSpace c = true) (hgap' : ∀ c ∈ gap', isSpace c = true) (h : RendersFields text fields) :
    Renders ('{' :: (gap ++ (text ++ (gap' ++ ['}'])))) (.object fields) := by
  obtain ⟨ts, hwrites, hfields⟩ := h
  refine .bracketed (fun _ => rfl) (fun _ => rfl) rfl hgap hgap' hwrites fun fuel rest hfuel => ?_
  rw [← objectValue_some]
  exact value?_openObject (hfields fuel rest hfuel)

/-! ## Both layouts -/

theorem renders_compactItems {items : List Document} (h : ∀ d ∈ items, Renders (compact d) d) (hne : items ≠ []) :
    RendersItems (compactItems items) items := by
  induction items with
  | nil => exact absurd rfl hne
  | cons d items ih =>
    have hd : Renders (compact d) d := h d (List.mem_cons_self ..)
    cases items with
    | nil =>
      rw [compactItems]
      exact .one hd
    | cons d' items =>
      have hmore := ih (fun e he => h e (List.mem_cons_of_mem d he)) (by simp)
      rw [compactItems]
      · exact .cons isSpace_nil hd hmore
      · simp

theorem renders_compactFields {fields : List (String × Document)}
    (h : ∀ field ∈ fields, Renders (compact field.2) field.2) (hne : fields ≠ []) :
    RendersFields (compactFields fields) fields := by
  induction fields with
  | nil => exact absurd rfl hne
  | cons field fields ih =>
    obtain ⟨name, d⟩ := field
    have hd : Renders (compact d) d := h (name, d) (List.mem_cons_self ..)
    cases fields with
    | nil =>
      rw [compactFields]
      exact .one name isSpace_nil hd
    | cons field' fields =>
      have hmore := ih (fun e he => h e (List.mem_cons_of_mem _ he)) (by simp)
      rw [compactFields]
      · simpa using RendersFields.cons name isSpace_nil isSpace_nil hd hmore
      · simp

theorem renders_compact {d : Document} (h : d.Writable) : Renders (compact d) d := by
  induction h with
  | null => exact renders_null
  | bool b => exact renders_bool b
  | int hlow hhigh => exact renders_int hlow hhigh
  | number h => exact renders_number h
  | text s => exact renders_text s
  | @list items _ ih =>
    by_cases hne : items = []
    · subst hne
      exact renders_nil
    · have hitems := renders_compactItems ih hne
      simpa [compact] using hitems.renders isSpace_nil isSpace_nil
  | @object fields _ ih =>
    by_cases hne : fields = []
    · subst hne
      exact renders_empty
    · have hfields := renders_compactFields ih hne
      simpa [compact] using hfields.renders isSpace_nil isSpace_nil

theorem isSpace_newline (level : Nat) : ∀ c ∈ newline level, isSpace c = true := by
  intro c hc
  simp only [newline, List.mem_cons, List.mem_replicate] at hc
  obtain rfl | ⟨-, rfl⟩ := hc <;> rfl

theorem renders_indentedItems {level : Nat} {items : List Document} {d : Document}
    (hd : Renders (indented level d) d) (h : ∀ e ∈ items, Renders (indented level e) e) :
    RendersItems (indented level d ++ indentedItems level items) (d :: items) := by
  induction items generalizing d with
  | nil => simpa [indentedItems] using RendersItems.one hd
  | cons e items ih =>
    have he : Renders (indented level e) e := h e (List.mem_cons_self ..)
    have hmore := ih he fun e' he' => h e' (List.mem_cons_of_mem e he')
    simpa [indentedItems] using RendersItems.cons (isSpace_newline level) hd hmore

theorem renders_indentedFields {level : Nat} {fields : List (String × Document)} (name : String) {d : Document}
    (hd : Renders (indented level d) d) (h : ∀ field ∈ fields, Renders (indented level field.2) field.2) :
    RendersFields (quote name ++ ':' :: ' ' :: indented level d ++ indentedFields level fields)
      ((name, d) :: fields) := by
  have hspace : ∀ c ∈ [' '], isSpace c = true := by simp [isSpace]
  induction fields generalizing name d with
  | nil => simpa [indentedFields] using RendersFields.one name hspace hd
  | cons field fields ih =>
    obtain ⟨name', e⟩ := field
    have he : Renders (indented level e) e := h (name', e) (List.mem_cons_self ..)
    have hmore := ih name' he fun field hfield => h field (List.mem_cons_of_mem _ hfield)
    simpa [indentedFields] using RendersFields.cons name hspace (isSpace_newline level) hd hmore

theorem renders_indented {d : Document} (h : d.Writable) : ∀ level, Renders (indented level d) d := by
  induction h with
  | null => exact fun _ => renders_null
  | bool b => exact fun _ => renders_bool b
  | int hlow hhigh => exact fun _ => renders_int hlow hhigh
  | number h => exact fun _ => renders_number h
  | text s => exact fun _ => renders_text s
  | @list items _ ih =>
    intro level
    cases items with
    | nil => exact renders_nil
    | cons d items =>
      have hitems := renders_indentedItems (ih d (List.mem_cons_self ..) (level + 1))
        fun e he => ih e (List.mem_cons_of_mem d he) (level + 1)
      simpa [indented] using hitems.renders (isSpace_newline (level + 1)) (isSpace_newline level)
  | @object fields _ ih =>
    intro level
    cases fields with
    | nil => exact renders_empty
    | cons field fields =>
      obtain ⟨name, d⟩ := field
      have hfields := renders_indentedFields name (ih (name, d) (List.mem_cons_self ..) (level + 1))
        fun e he => ih e (List.mem_cons_of_mem _ he) (level + 1)
      simpa [indented] using hfields.renders (isSpace_newline (level + 1)) (isSpace_newline level)

/-- A text that renders a document is read as the document, also with white space behind it. -/
theorem Renders.read?_spaced {text gap : List Char} {d : Document} (h : Renders text d)
    (hgap : ∀ c ∈ gap, isSpace c = true) : read? (String.ofList (text ++ gap)) = some d := by
  obtain ⟨ts, hwrites, hvalue⟩ := h
  have hspaces : Spells (gap ++ []) [] := Spells.nil.spaces hgap
  rw [List.append_nil] at hspaces
  have hspells := hwrites gap [] (apart_of_spaces hgap) hspaces
  rw [List.append_nil] at hspells
  have hread := hvalue (2 * ts.length + 1) [] (by omega)
  rw [List.append_nil] at hread
  simp [read?, hspells.tokens?_eq, hread]

/-- A text that renders a document is read as the document. -/
theorem Renders.read?_eq {text : List Char} {d : Document} (h : Renders text d) :
    read? (String.ofList text) = some d := by
  have hread := h.read?_spaced isSpace_nil
  rwa [List.append_nil] at hread

/-- **A document written on one line is read back.** -/
theorem read?_toLine {d : Document} (h : d.Writable) : read? (toLine d) = some d := (renders_compact h).read?_eq

/-- **A document written with a line for every item and field is read back.** -/
theorem read?_toPage {d : Document} (h : d.Writable) : read? (toPage d) = some d := (renders_indented h 0).read?_eq

end Json

end SketchLayout
