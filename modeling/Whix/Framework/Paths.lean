import Mathlib.Data.List.Basic
import Mathlib.Data.List.DropRight
import Mathlib.Tactic.Common

/-!
# Paths as texts and as lists of components

A text over symbols, one of which separates, stands for the list of its nonempty pieces
(`components`).  A `Path` is such a list by itself; `Path.parse` reads one off a text, and
`Path.text` writes the one text among those with the same components that has no separator too
many.  `parse_text` says that reading is a left inverse of writing, and everything about
`standardized`, the composition the other way round, follows from it.  Going up from a path is done
on its text by leaving out what comes after the last separator (`text_last`).
-/

namespace Paths

/-- A list of components: none is empty, and none contains the separator. -/
structure Path {α : Type*} (sep : α) where
  parts : List (List α)
  wellFormed : ∀ c ∈ parts, c ≠ [] ∧ sep ∉ c

/-! ## Joining pieces -/

section Join

variable {α : Type*} {sep : α} {pieces : List (List α)}

/-- Leaving pieces out leaves symbols out. -/
lemma intercalate_filter_sublist (p : List α → Bool) :
    ([sep].intercalate (pieces.filter p)).Sublist ([sep].intercalate pieces) := by
  induction pieces with
  | nil => simp
  | cons c cs ih =>
      have hrest : (c ++ [sep] ++ [sep].intercalate (cs.filter p)).Sublist
          (c ++ [sep] ++ [sep].intercalate cs) := (List.Sublist.refl _).append ih
      by_cases hcs : cs = []
      · subst hcs
        by_cases hc : p c = true
        · rw [List.filter_cons_of_pos hc, List.filter_nil]
        · rw [List.filter_cons_of_neg hc, List.filter_nil, List.intercalate_nil]
          exact List.nil_sublist _
      · rw [List.intercalate_cons_of_ne_nil hcs]
        by_cases hc : p c = true
        · rw [List.filter_cons_of_pos hc]
          by_cases hkept : cs.filter p = []
          · rw [hkept, List.intercalate_singleton, List.append_assoc]
            exact List.sublist_append_left c _
          · rwa [List.intercalate_cons_of_ne_nil hkept]
        · rw [List.filter_cons_of_neg hc]
          exact ih.trans (List.sublist_append_right _ _)

/-- The last piece comes after the last separator. -/
lemma intercalate_concat (h : pieces ≠ []) (c : List α) :
    [sep].intercalate (pieces ++ [c]) = [sep].intercalate pieces ++ sep :: c := by
  induction pieces with
  | nil => exact absurd rfl h
  | cons d ds ih =>
      rw [List.cons_append, List.intercalate_cons_of_ne_nil (by simp)]
      by_cases hds : ds = []
      · simp [hds]
      · rw [ih hds, List.intercalate_cons_of_ne_nil hds, List.append_assoc _ _ (sep :: c)]

end Join

/-! ## Components -/

section Components

variable {α : Type*} [DecidableEq α] {sep : α}

/-- The nonempty pieces of a text between its separators. -/
def components (sep : α) (l : List α) : List (List α) := (l.splitOn sep).filter (· ≠ [])

/-- A piece of a split text is free of the separator. -/
lemma not_mem_of_mem_splitOn {c l : List α} (h : c ∈ l.splitOn sep) : sep ∉ c := by
  induction l generalizing c with
  | nil => simp_all [List.splitOn_nil]
  | cons x xs ih =>
      rw [List.splitOn_cons_eq_if_modifyHead] at h
      split at h
      · rcases List.mem_cons.mp h with rfl | h
        · exact List.not_mem_nil
        · exact ih h
      · rename_i hx
        obtain ⟨first, rest, hsplit⟩ := List.exists_cons_of_ne_nil (List.splitOn_ne_nil sep xs)
        rw [hsplit] at h ih
        rcases List.mem_cons.mp h with rfl | h
        · rw [List.mem_cons, not_or]
          exact ⟨fun heq => hx (by simp [heq]), ih List.mem_cons_self⟩
        · exact ih (List.mem_cons_of_mem _ h)

/-- A component is nonempty, free of the separator, and part of the text. -/
lemma mem_components {c l : List α} (h : c ∈ components sep l) : c ≠ [] ∧ sep ∉ c := by
  rw [components, List.mem_filter, decide_eq_true_eq] at h
  exact ⟨h.2, not_mem_of_mem_splitOn h.1⟩

@[simp] lemma components_nil : components sep ([] : List α) = [] := by
  simp [components, List.splitOn_nil]

/-- A separator ends a component. -/
lemma components_append_cons (l l' : List α) :
    components sep (l ++ sep :: l') = components sep l ++ components sep l' := by
  rw [components, List.splitOn_append_cons_self, List.filter_append, components, components]

/-- A text without separators is its own only component. -/
lemma components_of_not_mem {l : List α} (hne : l ≠ []) (hsep : sep ∉ l) :
    components sep l = [l] := by
  rw [components, List.splitOn_eq_singleton hsep, List.filter_singleton]
  simp [hne]

@[simp] lemma components_cons_self (l : List α) : components sep (sep :: l) = components sep l := by
  have h : components sep ([] ++ sep :: l) = _ := components_append_cons [] l
  rwa [List.nil_append, components_nil, List.nil_append] at h

end Components

namespace Path

variable {α : Type*} {sep : α} {p q : Path sep}

@[ext] lemma ext (h : p.parts = q.parts) : p = q := by
  cases p
  cases q
  subst h
  rfl

/-- The text of a path, without a separator too many. -/
def text (p : Path sep) : List α := [sep].intercalate p.parts

/-- One path below another. -/
def append (p q : Path sep) : Path sep where
  parts := p.parts ++ q.parts
  wellFormed c hc := (List.mem_append.mp hc).elim (p.wellFormed c) (q.wellFormed c)

/-- The path without components. -/
def root : Path sep := ⟨[], by simp⟩

/-- The path without its last component. -/
def up (p : Path sep) : Path sep :=
  ⟨p.parts.dropLast, fun c hc => p.wellFormed c (List.dropLast_subset _ hc)⟩

/-- The last component. -/
def name (p : Path sep) : List α := p.parts.getLastD []

lemma append_up (p : Path sep) {q : Path sep} (h : q.parts ≠ []) :
    (p.append q).up = p.append q.up :=
  ext (List.dropLast_append_of_ne_nil h)

variable [DecidableEq α]

instance : DecidableEq (Path sep) := fun p q =>
  decidable_of_iff (p.parts = q.parts) ⟨ext, fun h => h ▸ rfl⟩

/-- The path that a text stands for. -/
def parse (sep : α) (l : List α) : Path sep := ⟨components sep l, fun _ => mem_components⟩

/-- **Reading what was written.** -/
theorem parse_text (p : Path sep) : parse sep p.text = p := by
  refine ext ?_
  obtain ⟨parts, hparts⟩ := p
  change components sep ([sep].intercalate parts) = parts
  induction parts with
  | nil => simp
  | cons c cs ih =>
      obtain ⟨hne, hsep⟩ := hparts c List.mem_cons_self
      have ih := ih fun d hd => hparts d (List.mem_cons_of_mem c hd)
      by_cases hcs : cs = []
      · rw [hcs, List.intercalate_singleton, components_of_not_mem hne hsep]
      · rw [List.intercalate_cons_of_ne_nil hcs, List.append_assoc, List.singleton_append,
          components_append_cons, components_of_not_mem hne hsep, ih, List.singleton_append]

lemma text_injective : Function.Injective (text : Path sep → List α) :=
  Function.LeftInverse.injective parse_text

lemma parse_append (l l' : List α) :
    parse sep (l ++ sep :: l') = (parse sep l).append (parse sep l') :=
  ext (components_append_cons l l')

end Path

/-! ## Going up -/

section Last

variable {α : Type*} [DecidableEq α] {sep : α}

/-- What comes after the last separator. -/
def last (sep : α) (l : List α) : List α := l.rtakeWhile (· ≠ sep)

/-- What comes before the last separator, or nothing. -/
def deletingLast (sep : α) (l : List α) : List α := (l.rdropWhile (· ≠ sep)).dropLast

variable {c : List α}

lemma ne_of_not_mem (h : sep ∉ c) : ∀ x ∈ c.reverse, decide (x ≠ sep) = true := by
  intro x hx
  rw [decide_eq_true_eq]
  rintro rfl
  exact h (List.mem_reverse.mp hx)

lemma last_append_cons (l : List α) (h : sep ∉ c) : last sep (l ++ sep :: c) = c := by
  rw [last, List.rtakeWhile, List.reverse_append, List.reverse_cons, List.append_assoc,
    List.takeWhile_append_of_pos (ne_of_not_mem h), List.singleton_append,
    List.takeWhile_cons_of_neg (by simp), List.append_nil, List.reverse_reverse]

lemma last_of_not_mem (h : sep ∉ c) : last sep c = c := by
  rw [last, List.rtakeWhile, List.takeWhile_eq_self_iff.mpr (ne_of_not_mem h),
    List.reverse_reverse]

lemma deletingLast_append_cons (l : List α) (h : sep ∉ c) :
    deletingLast sep (l ++ sep :: c) = l := by
  rw [deletingLast, List.rdropWhile, List.reverse_append, List.reverse_cons, List.append_assoc,
    List.dropWhile_append_of_pos (ne_of_not_mem h), List.singleton_append,
    List.dropWhile_cons_of_neg (by simp), List.reverse_cons, List.reverse_reverse,
    List.dropLast_concat]

lemma deletingLast_of_not_mem (h : sep ∉ c) : deletingLast sep c = [] := by
  rw [deletingLast, List.rdropWhile, List.dropWhile_eq_nil_iff.mpr (ne_of_not_mem h)]
  rfl

namespace Path

/-- The last component, and the text without it. -/
theorem text_last (p : Path sep) :
    last sep p.text = p.name ∧ deletingLast sep p.text = p.up.text := by
  obtain ⟨parts, hparts⟩ := p
  rcases List.eq_nil_or_concat' parts with rfl | ⟨init, c, rfl⟩
  · exact ⟨rfl, rfl⟩
  · have hc : sep ∉ c := (hparts c (by simp)).2
    by_cases hinit : init = []
    · subst hinit
      simp only [text, name, up, List.nil_append, List.intercalate_singleton, last_of_not_mem hc,
        deletingLast_of_not_mem hc]
      exact ⟨rfl, rfl⟩
    · simp only [text, name, up, intercalate_concat hinit, last_append_cons _ hc,
        deletingLast_append_cons _ hc, List.getLastD_concat, List.dropLast_concat, and_self]

/-- The root is the only path that has no text. -/
lemma text_eq_nil_iff (p : Path sep) : p.text = [] ↔ p.parts = [] := by
  constructor
  · intro h
    have hparse : components sep p.text = p.parts := congrArg parts p.parse_text
    rw [← hparse, h, components_nil]
  · intro h
    rw [text, h, List.intercalate_nil]

end Path

end Last

/-! ## Standardized texts -/

section Standardized

variable {α : Type*} [DecidableEq α] {sep : α}

/-- The text with the same components and no separator too many. -/
def standardized (sep : α) (l : List α) : List α := (Path.parse sep l).text

/-- Standardizing keeps the components. -/
@[simp] lemma parse_standardized (l : List α) :
    Path.parse sep (standardized sep l) = Path.parse sep l :=
  Path.parse_text _

/-- A standardized text is a fixed point. -/
@[simp] lemma standardized_standardized (l : List α) :
    standardized sep (standardized sep l) = standardized sep l := by
  rw [standardized, parse_standardized, ← standardized]

lemma standardized_of_not_mem {l : List α} (hsep : sep ∉ l) : standardized sep l = l := by
  change [sep].intercalate (components sep l) = l
  by_cases hne : l = []
  · rw [hne, components_nil, List.intercalate_nil]
  · rw [components_of_not_mem hne hsep, List.intercalate_singleton]

/-- Standardizing only leaves symbols out. -/
lemma standardized_sublist (l : List α) : (standardized sep l).Sublist l := by
  have h : ([sep].intercalate ((l.splitOn sep).filter (· ≠ []))).Sublist _ :=
    intercalate_filter_sublist _
  rwa [List.intercalate_splitOn] at h

end Standardized

end Paths
