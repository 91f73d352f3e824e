import Mathlib.Data.List.DropRight
import Mathlib.Data.List.Infix

/-!
# Text operations shared by the two languages

Strings are sequences of Unicode scalar values.  `strip` is the two-ended trimming that both
standard libraries offer, each with its own set of characters, and `contains` the search for a
fragment.

`strip_eq_strip_iff` compares two trimmings.  The sets may differ as they like inside a text; what
counts is the run of characters at either end that belong to one set or the other (`edges`).
What a text keeps when it is trimmed is said by `mem_strip`, `strip_eq_empty_iff` and `strip_strip`.
-/

namespace Text

/-- `s` without the longest prefix and the longest suffix of characters satisfying `p`. -/
def strip (p : Char → Bool) (s : String) : String :=
  String.ofList ((s.toList.dropWhile p).rdropWhile p)

/-- Does `fragment` occur in `s`?  Scalar values are compared.  Swift compares characters, which may
be several scalar values: it does not find a fragment whose end a combining mark modifies. -/
def contains (s fragment : String) : Bool :=
  s.toList.tails.any fun rest => fragment.toList.isPrefixOf rest

/-! ## Trimming a list -/

section Stripped

variable {α : Type*} {p q : α → Bool}

/-- `l` without the longest prefix and the longest suffix of elements satisfying `p`. -/
def stripped (p : α → Bool) (l : List α) : List α := (l.dropWhile p).rdropWhile p

/-- One of the two predicates is satisfied. -/
def either (p q : α → Bool) (x : α) : Bool := p x || q x

/-- The longest prefix and the longest suffix of elements satisfying `p`. -/
def edges (p : α → Bool) (l : List α) : List α := l.takeWhile p ++ l.rtakeWhile p

lemma either_of_agree {x : α} (h : p x = q x) (hx : either p q x = true) :
    p x = true ∧ q x = true := by
  rw [either, ← h, Bool.or_self] at hx
  exact ⟨hx, h ▸ hx⟩

lemma rdropWhile_cons (x : α) (xs : List α) :
    (x :: xs).rdropWhile p =
      if xs.rdropWhile p = [] then (if p x then [] else [x]) else x :: xs.rdropWhile p := by
  simp only [List.rdropWhile, List.reverse_cons, List.dropWhile_append, List.isEmpty_iff,
    List.reverse_eq_nil_iff]
  split
  · rw [List.dropWhile_cons, List.dropWhile_nil]
    split <;> rfl
  · simp

/-- What is kept begins with `x`, if `x` is kept. -/
lemma head?_rdropWhile_cons {x : α} (hx : p x = false) (xs : List α) :
    ((x :: xs).rdropWhile p).head? = some x := by
  rw [rdropWhile_cons]
  simp only [hx, Bool.false_eq_true, if_false]
  split <;> rfl

lemma stripped_cons_of_pos {x : α} (hx : p x = true) (xs : List α) :
    stripped p (x :: xs) = stripped p xs := by
  rw [stripped, List.dropWhile_cons_of_pos hx, stripped]

lemma stripped_cons_of_neg {x : α} (hx : p x = false) (xs : List α) :
    stripped p (x :: xs) = (x :: xs).rdropWhile p := by
  rw [stripped, List.dropWhile_cons_of_neg (by simp [hx])]

/-- The two ends may be trimmed in any order. -/
lemma dropWhile_rdropWhile (l : List α) : (l.rdropWhile p).dropWhile p = stripped p l := by
  induction l with
  | nil => rfl
  | cons x xs ih =>
      by_cases hx : p x = true
      · rw [stripped_cons_of_pos hx, rdropWhile_cons, ← ih]
        split
        · rename_i hnil
          rw [hnil]
        · rw [List.dropWhile_cons_of_pos hx]
      · have hx' : p x = false := by simpa using hx
        rw [stripped_cons_of_neg hx', rdropWhile_cons]
        simp only [hx', Bool.false_eq_true, if_false]
        split <;> rw [List.dropWhile_cons_of_neg hx]

lemma stripped_reverse (l : List α) : stripped p l.reverse = (stripped p l).reverse := by
  rw [← dropWhile_rdropWhile, List.rdropWhile_reverse, stripped, List.rdropWhile,
    List.reverse_reverse]

/-- What is kept does not begin with something to be trimmed. -/
lemma head?_stripped {l : List α} {x : α} (h : (stripped p l).head? = some x) : p x = false := by
  rw [← dropWhile_rdropWhile] at h
  have hnot := List.head?_dropWhile_not p (l.rdropWhile p)
  rw [h] at hnot
  simpa using hnot

/-- If two predicates agree on the prefix of what either of them drops, they drop the same. -/
lemma dropWhile_congr {l : List α} (h : ∀ x ∈ l.takeWhile (either p q), p x = q x) :
    l.dropWhile p = l.dropWhile q := by
  induction l with
  | nil => rfl
  | cons x xs ih =>
      by_cases hx : either p q x = true
      · rw [List.takeWhile_cons_of_pos hx, List.forall_mem_cons] at h
        obtain ⟨hagree, h⟩ := h
        obtain ⟨hp, hq⟩ := either_of_agree hagree hx
        rw [List.dropWhile_cons_of_pos hp, List.dropWhile_cons_of_pos hq, ih h]
      · simp only [either, Bool.or_eq_true, not_or] at hx
        rw [List.dropWhile_cons_of_neg hx.1, List.dropWhile_cons_of_neg hx.2]

/-- And if they leave the same, they agree there. -/
lemma agree_of_stripped_eq {l : List α} (h : stripped p l = stripped q l) :
    ∀ x ∈ l.takeWhile (either p q), p x = q x := by
  induction l with
  | nil => simp
  | cons x xs ih =>
      by_cases hx : either p q x = true
      · have hagree : p x = q x := by
          cases hp : p x <;> cases hq : q x
          · rfl
          · have hhead : (stripped q (x :: xs)).head? = some x := by
              rw [← h, stripped_cons_of_neg hp]
              exact head?_rdropWhile_cons hp xs
            exact (head?_stripped hhead).symm.trans hq
          · have hhead : (stripped p (x :: xs)).head? = some x := by
              rw [h, stripped_cons_of_neg hq]
              exact head?_rdropWhile_cons hq xs
            exact hp.symm.trans (head?_stripped hhead)
          · rfl
        obtain ⟨hp, hq⟩ := either_of_agree hagree hx
        rw [stripped_cons_of_pos hp, stripped_cons_of_pos hq] at h
        rw [List.takeWhile_cons_of_pos hx, List.forall_mem_cons]
        exact ⟨hagree, ih h⟩
      · rw [List.takeWhile_cons_of_neg hx]
        simp

lemma mem_takeWhile_mono {r : α → Bool} {l l' : List α} (h : l <+: l') {x : α}
    (hx : x ∈ l.takeWhile r) : x ∈ l'.takeWhile r := by
  obtain ⟨rest, rfl⟩ := h
  rw [List.takeWhile_append]
  split
  · exact List.mem_append_left _ (List.takeWhile_subset r hx)
  · exact hx

/-- **Two trimmings leave the same exactly when they agree at both ends.** -/
theorem stripped_eq_iff (l : List α) :
    stripped p l = stripped q l ↔ ∀ x ∈ edges (either p q) l, p x = q x := by
  rw [edges, List.forall_mem_append]
  constructor
  · intro h
    refine ⟨agree_of_stripped_eq h, fun x hx => ?_⟩
    have hreverse : stripped p l.reverse = stripped q l.reverse := by
      rw [stripped_reverse, stripped_reverse, h]
    exact agree_of_stripped_eq hreverse x (List.mem_reverse.mp hx)
  · rintro ⟨hleft, hright⟩
    have hdrop := dropWhile_congr hleft
    have hprefix : (l.dropWhile p).reverse <+: l.reverse :=
      List.reverse_prefix.mpr (List.dropWhile_suffix p)
    have hrdrop : (l.dropWhile p).reverse.dropWhile p = (l.dropWhile p).reverse.dropWhile q := by
      refine dropWhile_congr fun x hx => hright x ?_
      exact List.mem_reverse.mpr (mem_takeWhile_mono hprefix hx)
    rw [stripped, stripped, ← hdrop, List.rdropWhile, List.rdropWhile, hrdrop]

/-- What has been trimmed is not trimmed further. -/
lemma stripped_stripped (l : List α) : stripped p (stripped p l) = stripped p l := by
  have hdrop : (stripped p l).dropWhile p = stripped p l := by
    rw [← dropWhile_rdropWhile, List.dropWhile_idempotent]
  have hrdrop : (stripped p l).rdropWhile p = stripped p l := by
    rw [stripped, List.rdropWhile_idempotent]
  rw [stripped, hdrop, hrdrop]

/-- Trimming removes nothing but what is to be trimmed. -/
lemma mem_stripped_of_neg {x : α} (hx : p x = false) {l : List α} :
    x ∈ stripped p l ↔ x ∈ l := by
  have hdrop : ∀ l : List α, x ∈ l.dropWhile p ↔ x ∈ l := by
    intro l
    refine ⟨fun h => (List.dropWhile_suffix p).subset h, fun h => ?_⟩
    rw [← List.takeWhile_append_dropWhile (p := p) (l := l), List.mem_append] at h
    refine h.resolve_left fun htake => ?_
    rw [List.mem_takeWhile_imp htake] at hx
    simp at hx
  rw [stripped, List.rdropWhile, List.mem_reverse, hdrop, List.mem_reverse, hdrop]

lemma stripped_eq_nil_iff {l : List α} : stripped p l = [] ↔ ∀ x ∈ l, p x = true := by
  constructor
  · intro h x hx
    by_contra hneg
    rw [Bool.not_eq_true] at hneg
    have hmem := (mem_stripped_of_neg hneg).mpr hx
    rw [h] at hmem
    exact List.not_mem_nil hmem
  · intro h
    rw [stripped, List.dropWhile_eq_nil_iff.mpr h, List.rdropWhile_nil]

end Stripped

/-- Two sets of characters trim a text alike exactly when they agree on the characters of either
set at its two ends. -/
theorem strip_eq_strip_iff (p q : Char → Bool) (s : String) :
    strip p s = strip q s ↔ ∀ c ∈ edges (either p q) s.toList, p c = q c := by
  rw [← stripped_eq_iff, strip, strip, String.ofList_inj, stripped, stripped]

/-- A trimmed text is a fixed point of trimming. -/
lemma strip_strip (p : Char → Bool) (s : String) : strip p (strip p s) = strip p s := by
  rw [strip, strip, String.ofList_inj, String.toList_ofList]
  exact stripped_stripped s.toList

lemma strip_eq_empty_iff {p : Char → Bool} {s : String} :
    strip p s = "" ↔ ∀ c ∈ s.toList, p c = true := by
  rw [← stripped_eq_nil_iff, ← String.toList_inj, strip, String.toList_ofList]
  rfl

/-- A character that is not to be trimmed stays. -/
lemma mem_strip {p : Char → Bool} {c : Char} (hc : p c = false) {s : String} :
    c ∈ (strip p s).toList ↔ c ∈ s.toList := by
  rw [strip, String.toList_ofList]
  exact mem_stripped_of_neg hc

/-! ## Searching -/

lemma contains_iff_infix {s fragment : String} :
    contains s fragment = true ↔ fragment.toList <:+: s.toList := by
  simp only [contains, List.any_eq_true, List.mem_tails, List.isPrefixOf_iff_prefix]
  rw [List.infix_iff_prefix_suffix]
  exact exists_congr fun _ => and_comm

/-- A fragment does not reach across a character it does not have. -/
lemma infix_append_cons_iff {α : Type*} {fragment l l' : List α} {x : α} (hx : x ∉ fragment) :
    fragment <:+: l ++ x :: l' ↔ fragment <:+: l ∨ fragment <:+: l' := by
  rw [List.infix_append_iff, List.infix_cons_iff]
  have hcons : ∀ {front}, front <+: x :: l' → x ∉ front → front = [] := by
    rintro (_ | ⟨y, front⟩) hfront hmem
    · rfl
    · obtain ⟨rfl, -⟩ := List.cons_prefix_cons.mp hfront
      exact absurd List.mem_cons_self hmem
  constructor
  · rintro (h | (h | h) | ⟨back, front, rfl, hback, hfront⟩)
    · exact Or.inl h
    · exact Or.inl (hcons h hx ▸ List.nil_infix)
    · exact Or.inr h
    · rw [List.mem_append, not_or] at hx
      rw [hcons hfront hx.2, List.append_nil]
      exact Or.inl hback.isInfix
  · rintro (h | h)
    · exact Or.inl h
    · exact Or.inr (Or.inl (Or.inr h))

/-- A fragment does not begin in a text without its first character. -/
lemma cons_infix_append_iff {α : Type*} {fragment l l' : List α} {x : α} (hx : x ∉ l) :
    x :: fragment <:+: l ++ l' ↔ x :: fragment <:+: l' := by
  rw [List.infix_append_iff]
  constructor
  · rintro (h | h | ⟨back, front, heq, hback, hfront⟩)
    · exact absurd (h.subset List.mem_cons_self) hx
    · exact h
    · cases back with
      | nil => exact heq ▸ hfront.isInfix
      | cons y back =>
          obtain ⟨rfl, -⟩ := List.cons.inj heq
          exact absurd (hback.subset List.mem_cons_self) hx
  · exact fun h => Or.inr (Or.inl h)

/-- To search for a single character. -/
lemma contains_singleton (s : String) (c : Char) :
    contains s (String.ofList [c]) = true ↔ c ∈ s.toList := by
  simp only [contains, String.toList_ofList, List.any_eq_true, List.mem_tails]
  constructor
  · rintro ⟨rest, hrest, hpre⟩
    exact hrest.subset ((List.isPrefixOf_iff_prefix.mp hpre).subset (List.mem_singleton_self c))
  · intro hc
    obtain ⟨before, after, hsplit⟩ := List.append_of_mem hc
    refine ⟨c :: after, ⟨before, hsplit.symm⟩, List.isPrefixOf_iff_prefix.mpr ?_⟩
    exact ⟨after, rfl⟩

end Text
