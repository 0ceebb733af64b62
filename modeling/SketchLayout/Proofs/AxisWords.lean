import SketchLayout.Proofs.Centering

/-!
# Words of axis letters

A centering word is taken whole or not at all: it has a letter, and every character of it is one of the
setting's alphabet in either case (`Dimensionality.Admits`). Which axes are centered depends only on which
letters occur (`Axis.InWord`), so that order, repetition and case do not matter.

The three scans of a word (the folding to capitals, the check, the search for letters) agree because an axis
letter has just two forms, whatever else a character may be (`Axis.toUpper_eq_letter`).
-/

namespace SketchLayout

/-- Whether a word has a character, and only characters of the alphabet of a setting, in either case. -/
def Dimensionality.Admits (d : Dimensionality) (word : String) : Prop :=
  word ≠ "" ∧ ∀ c ∈ word.toList, ∃ l ∈ d.alphabet.toList, c = l ∨ c = l.toLower

theorem Dimensionality.admits_iff {d : Dimensionality} {word : String} :
    (word ≠ "" ∧ word.toList.all fun c => d.alphabet.toList.any fun l => c == l || c == l.toLower) ↔
      d.Admits word := by
  simp [Admits]

instance (d : Dimensionality) (word : String) : Decidable (d.Admits word) :=
  decidable_of_decidable_of_iff Dimensionality.admits_iff

/-- Whether the letter of an axis occurs in a word, in either case. -/
def Axis.InWord (a : Axis) (word : String) : Prop := a.letter ∈ word.toList ∨ a.letter.toLower ∈ word.toList

instance (a : Axis) (word : String) : Decidable (a.InWord word) := inferInstanceAs (Decidable (_ ∨ _))

theorem Axis.letter_inj {a b : Axis} (h : a.letter = b.letter) : a = b := by
  cases a <;> cases b <;> first | rfl | exact absurd h (by decide)

namespace Center

variable {word : String} {d : Dimensionality} {a : Axis}

/-- The words that can be read in a setting are those of its alphabet. -/
theorem fits_axes_iff : (axes word).Fits d ↔ d.Admits word := by
  have hempty : word.toList ≠ [] ↔ word ≠ "" := not_congr String.toList_eq_nil_iff
  have hletter : ∀ c, (∃ a ∈ d.axes, c.toUpper = a.letter) ↔ ∃ l ∈ d.alphabet.toList, c = l ∨ c = l.toLower := by
    intro c
    simp only [Dimensionality.alphabet, Dimensionality.letters, String.toList_ofList, List.mem_map,
      Axis.toUpper_eq_letter]
    constructor
    · rintro ⟨b, hb, hc⟩
      exact ⟨b.letter, ⟨b, hb, rfl⟩, hc⟩
    · rintro ⟨l, ⟨b, hb, rfl⟩, hc⟩
      exact ⟨b, hb, hc⟩
  unfold Fits Dimensionality.Admits
  simp only [hempty, hletter]

/-- The axes that a word names are those whose letters occur. -/
theorem names_axes_iff : (axes word).Names a ↔ a.InWord word := by
  unfold Names Axis.InWord
  simp only [Axis.toUpper_eq_letter]
  constructor
  · rintro ⟨c, hc, rfl | rfl⟩
    · exact .inl hc
    · exact .inr hc
  · rintro (hc | hc)
    · exact ⟨_, hc, .inl rfl⟩
    · exact ⟨_, hc, .inr rfl⟩

/-- An axis whose letter occurs in a word that can be read is one of the setting's. -/
theorem mem_of_inWord (hword : d.Admits word) (ha : a.InWord word) : a ∈ d.axes := by
  obtain ⟨c, hc, hca⟩ := names_axes_iff.2 ha
  obtain ⟨b, hb, hcb⟩ := (fits_axes_iff.2 hword).2 c hc
  rwa [Axis.letter_inj (hca.symm.trans hcb)]

/-- Reading a word: it succeeds for those the alphabet admits, and centers the axes whose letters occur. -/
theorem resolve_word_eq_ok {α : Type} {flags : CenterFlags} :
    ((axes word).resolve d : Except (LayoutError α) CenterFlags) = .ok flags ↔
      d.Admits word ∧ ∀ a, flags.get a = true ↔ a.InWord word := by
  rw [resolve_eq_ok, fits_axes_iff]
  refine and_congr_right fun hword => forall_congr' fun a => ?_
  rw [names_axes_iff, and_iff_right_of_imp (mem_of_inWord hword)]

/-- A word that the alphabet does not admit is refused as it stands. -/
theorem resolve_word_eq_error {α : Type} {e : LayoutError α} :
    ((axes word).resolve d : Except (LayoutError α) CenterFlags) = .error e ↔
      ¬ d.Admits word ∧ e = .invalidCenter word d := by
  have hok := isOk_resolve α (c := axes word) (d := d)
  rw [fits_axes_iff] at hok
  rw [← hok]
  rcases resolve_cases α (axes word) d with ⟨letters, heq, herror⟩ | ⟨flags, hflags⟩
  · cases heq
    rw [herror]
    simp [Except.isOk, Except.toBool, eq_comm]
  · rw [hflags]
    simp [Except.isOk, Except.toBool]

end Center

open Center

/-- **A word is read exactly when it is well formed.** It is read just if the alphabet of the setting admits it;
then an axis is centered just if its letter occurs, and in the plane Z never is. Any other word is refused with
itself and the setting, whose alphabet the complaint names. Of two words that can be read, those in which the
same letters occur are read alike. -/
theorem axis_words_read {α : Type} (word : String) (d : Dimensionality) :
    ((∃ flags, ((axes word).resolve d : Except (LayoutError α) CenterFlags) = .ok flags) ↔ d.Admits word) ∧
    (∀ flags, ((axes word).resolve d : Except (LayoutError α) CenterFlags) = .ok flags →
      (∀ a, flags.get a = true ↔ a.InWord word) ∧ (d = .two → flags.z = false)) ∧
    (∀ e, ((axes word).resolve d : Except (LayoutError α) CenterFlags) = .error e ↔
      ¬ d.Admits word ∧ e = .invalidCenter word d) ∧
    ∀ word', d.Admits word → d.Admits word' → (∀ a : Axis, a.InWord word ↔ a.InWord word') →
      ((axes word).resolve d : Except (LayoutError α) CenterFlags) = (axes word').resolve d := by
  refine ⟨?_, ?_, fun e => resolve_word_eq_error, ?_⟩
  · rw [← isOk_iff, isOk_resolve, fits_axes_iff]
  · intro flags hflags
    obtain ⟨hword, hget⟩ := resolve_word_eq_ok.1 hflags
    refine ⟨hget, ?_⟩
    rintro rfl
    -- an axis that is centered occurs in the word, and only the plane's axes do
    cases hz : flags.z with
    | false => rfl
    | true => exact absurd (mem_of_inWord hword ((hget .z).1 hz)) (by decide)
  · intro word' hword hword' hsame
    obtain ⟨flags, hflags⟩ := isOk_iff.1 ((isOk_resolve α).2 (fits_axes_iff.2 hword'))
    obtain ⟨-, hget⟩ := resolve_word_eq_ok.1 hflags
    rw [hflags]
    exact resolve_word_eq_ok.2 ⟨hword, fun a => (hget a).trans (hsame a).symm⟩

/-- Two orders and cases of one word, which space admits and the plane does not. -/
theorem xz_read_in_space :
    (((axes "zXx").resolve .three : Except (LayoutError Rat) CenterFlags) = .ok ⟨true, false, true⟩ ∧
      ∀ a, (CenterFlags.mk true false true).get a = true ↔ a.InWord "zXx") ∧
    (Dimensionality.three.Admits "zXx" ∧ Dimensionality.three.Admits "XZ" ∧
      ((axes "zXx").resolve .three : Except (LayoutError Rat) CenterFlags) = (axes "XZ").resolve .three) ∧
    ¬ Dimensionality.two.Admits "XZ" ∧
      ((axes "XZ").resolve .two : Except (LayoutError Rat) CenterFlags) = .error (.invalidCenter "XZ" .two) := by
  have hword : Dimensionality.three.Admits "zXx" := by decide
  have hword' : Dimensionality.three.Admits "XZ" := by decide
  have hplane : ¬ Dimensionality.two.Admits "XZ" := by decide
  have hsame : ∀ a : Axis, a.InWord "zXx" ↔ a.InWord "XZ" := by
    intro a
    cases a <;> decide
  have hflags : ((axes "zXx").resolve .three : Except (LayoutError Rat) CenterFlags) = .ok ⟨true, false, true⟩ :=
    eq_ok_of_toOption (by decide)
  obtain ⟨-, hread, -, halike⟩ := axis_words_read (α := Rat) "zXx" .three
  obtain ⟨-, -, hrefused, -⟩ := axis_words_read (α := Rat) "XZ" .two
  exact ⟨⟨hflags, (hread _ hflags).1⟩, ⟨hword, hword', halike _ hword hword' hsame⟩, hplane,
    (hrefused _).2 ⟨hplane, rfl⟩⟩

end SketchLayout
