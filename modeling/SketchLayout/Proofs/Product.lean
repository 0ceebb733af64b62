import SketchLayout.Pattern.Basic

/-!
# Products of two axes

Every generator lists the pairs of two lists, one per axis, with X in the outer place. Here is what
that says about the list: its length, the item at `i * ny + j`, and the list that the exchanged
axes give (`Transposed`).
-/

namespace SketchLayout

section
variable {β γ δ : Type}

/-! ## Length, items and membership -/

@[simp] theorem pairs_nil (f : β → γ → δ) (ys : List γ) : pairs f [] ys = [] := rfl

@[simp] theorem pairs_cons (f : β → γ → δ) (x : β) (xs : List β) (ys : List γ) :
    pairs f (x :: xs) ys = ys.map (f x) ++ pairs f xs ys := by
  simp [pairs]

@[simp] theorem pairs_nil_right (f : β → γ → δ) (xs : List β) : pairs f xs [] = [] := by
  simp [pairs]

@[simp] theorem length_pairs (f : β → γ → δ) (xs : List β) (ys : List γ) :
    (pairs f xs ys).length = xs.length * ys.length := by
  induction xs with
  | nil => simp
  | cons x xs ih => simp [ih, Nat.succ_mul, Nat.add_comm]

theorem mem_pairs {f : β → γ → δ} {xs : List β} {ys : List γ} {z : δ} :
    z ∈ pairs f xs ys ↔ ∃ x ∈ xs, ∃ y ∈ ys, f x y = z := by
  simp [pairs]

/-- The item at `i * ny + j` is made of the `i`-th and the `j`-th entry of the two lists. -/
theorem getElem?_pairs (f : β → γ → δ) (ys : List γ) {j : Nat} (hj : j < ys.length) :
    ∀ (xs : List β) (i : Nat),
      (pairs f xs ys)[i * ys.length + j]? = xs[i]?.bind fun x => ys[j]?.map (f x)
  | [], i => by simp
  | x :: xs, 0 => by
    rw [pairs_cons, List.getElem?_append_left (by simpa using hj)]
    simp
  | x :: xs, i + 1 => by
    have hi : (i + 1) * ys.length + j = i * ys.length + j + ys.length := by
      rw [Nat.succ_mul]; omega
    rw [pairs_cons, List.getElem?_append_right (by simp; omega), hi]
    simpa using getElem?_pairs f ys hj xs i

theorem getElem?_pairs_of (f : β → γ → δ) {xs : List β} {ys : List γ} {i j : Nat} {x : β} {y : γ}
    (hx : xs[i]? = some x) (hy : ys[j]? = some y) : (pairs f xs ys)[i * ys.length + j]? = some (f x y) := by
  rw [getElem?_pairs f ys (List.getElem?_eq_some_iff.1 hy).1, hx, hy]
  rfl

/-- The item at any index, by quotient and remainder. -/
theorem getElem?_pairs_div (f : β → γ → δ) {xs : List β} {ys : List γ} {k : Nat}
    (hk : k < (pairs f xs ys).length) :
    (pairs f xs ys)[k]? = xs[k / ys.length]?.bind fun x => ys[k % ys.length]?.map (f x) := by
  rw [length_pairs] at hk
  have hys : 0 < ys.length := by
    rcases Nat.eq_zero_or_pos ys.length with h | h
    · rw [h] at hk; omega
    · exact h
  rw [← getElem?_pairs f ys (Nat.mod_lt k hys), Nat.div_add_mod']

/-- Making items of other entries. -/
theorem pairs_map {β' γ' : Type} (f : β → γ → δ) (g : β' → β) (h : γ' → γ) (xs : List β') (ys : List γ') :
    pairs f (xs.map g) (ys.map h) = pairs (fun x y => f (g x) (h y)) xs ys := by
  simp [pairs, List.flatMap_map, Function.comp_def]

/-- Making other things of the items. -/
theorem map_pairs {ε : Type} (g : δ → ε) (f : β → γ → δ) (xs : List β) (ys : List γ) :
    (pairs f xs ys).map g = pairs (fun x y => g (f x y)) xs ys := by
  simp [pairs, List.map_flatMap, Function.comp_def]

end

/-! ## Exchanging the axes -/

/-- `qs` lists the items of `ps` with the axes exchanged: both hold `nx * ny` items, and what stands
at `i * ny + j` in `ps` stands, turned, at `j * nx + i` in `qs`. -/
structure Transposed {δ : Type} (turn : δ → δ) (nx ny : Nat) (ps qs : List δ) : Prop where
  length_left : ps.length = nx * ny
  length_right : qs.length = nx * ny
  item : ∀ i < nx, ∀ j < ny, qs[j * nx + i]? = ps[i * ny + j]?.map turn

theorem transposed_pairs {β δ : Type} (turn : δ → δ) (f : β → β → δ) (hf : ∀ x y, turn (f x y) = f y x)
    (xs ys : List β) : Transposed turn xs.length ys.length (pairs f xs ys) (pairs f ys xs) where
  length_left := length_pairs f xs ys
  length_right := by rw [length_pairs, Nat.mul_comm]
  item i hi j hj := by
    rw [getElem?_pairs f xs hi, getElem?_pairs f ys hj]
    simp [List.getElem?_eq_getElem hi, List.getElem?_eq_getElem hj, hf]

end SketchLayout
