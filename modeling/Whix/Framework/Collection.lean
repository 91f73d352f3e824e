import Mathlib.Order.Defs.LinearOrder
import Mathlib.Data.List.Nodup
import Mathlib.Data.List.Sort
import Mathlib.Tactic.Common

/-!
# Keyed collections in key order

`Collection K α` is a finite map from keys to documents that lists its documents in ascending key
order, as a document store enumerates the results of a query.  The order is a field of the
structure, so a key names at most one document and `get?` determines the collection's members.
-/

/-- Documents stored under keys, listed in ascending key order. -/
structure Collection (K : Type) [LinearOrder K] (α : Type) where
  docs : List (K × α)
  ascending : (docs.map Prod.fst).Pairwise (· < ·)

namespace Collection

variable {K : Type} [LinearOrder K] {α : Type}

/-- Two documents under one key are the same document. -/
lemma eq_of_mem (c : Collection K α) {k : K} {a b : α} (ha : (k, a) ∈ c.docs)
    (hb : (k, b) ∈ c.docs) : a = b := by
  have hnodup : (c.docs.map Prod.fst).Nodup := c.ascending.imp ne_of_lt
  exact (Prod.mk.inj (List.inj_on_of_nodup_map hnodup ha hb rfl)).2

/-! ## Reading -/

/-- The document under key `k`. -/
def get? (c : Collection K α) (k : K) : Option α :=
  (c.docs.find? fun d => d.1 = k).map Prod.snd

/-- The documents that satisfy `p`, in key order. -/
def select (c : Collection K α) (p : α → Bool) : List (K × α) :=
  c.docs.filter fun d => p d.2

lemma get?_eq_some_iff {c : Collection K α} {k : K} {a : α} :
    c.get? k = some a ↔ (k, a) ∈ c.docs := by
  constructor
  · intro h
    obtain ⟨⟨k', a'⟩, hfind, rfl⟩ := Option.map_eq_some_iff.mp h
    have hk : k' = k := by simpa using List.find?_some hfind
    exact hk ▸ List.mem_of_find?_eq_some hfind
  · intro h
    have hsome : (c.docs.find? fun d => d.1 = k).isSome := by
      simp only [List.find?_isSome, decide_eq_true_eq]
      exact ⟨(k, a), h, rfl⟩
    obtain ⟨⟨k', a'⟩, hfind⟩ := Option.isSome_iff_exists.mp hsome
    obtain rfl : k' = k := by simpa using List.find?_some hfind
    rw [get?, hfind, Option.map_some, c.eq_of_mem h (List.mem_of_find?_eq_some hfind)]

@[simp] lemma mem_select {c : Collection K α} {p : α → Bool} {k : K} {a : α} :
    (k, a) ∈ c.select p ↔ c.get? k = some a ∧ p a = true := by
  simp [select, get?_eq_some_iff]

lemma select_eq_nil_iff {c : Collection K α} {p : α → Bool} :
    c.select p = [] ↔ ∀ k a, c.get? k = some a → p a = false := by
  simp [select, get?_eq_some_iff]

/-! ## Writing -/

/-- The collection without documents. -/
def empty : Collection K α := ⟨[], List.Pairwise.nil⟩

@[simp] lemma get?_empty (k : K) : (empty : Collection K α).get? k = none := rfl

/-- Insert a document in front of the first larger key. -/
def insertDoc (k : K) (a : α) (ds : List (K × α)) : List (K × α) :=
  ds.orderedInsert (fun x y => x.1 < y.1) (k, a)

lemma mem_insertDoc {k : K} {a : α} {ds : List (K × α)} {x : K × α} :
    x ∈ insertDoc k a ds ↔ x = (k, a) ∨ x ∈ ds :=
  List.mem_orderedInsert _

lemma insertDoc_ascending {k : K} {a : α} {ds : List (K × α)}
    (h : (ds.map Prod.fst).Pairwise (· < ·)) (hk : k ∉ ds.map Prod.fst) :
    ((insertDoc k a ds).map Prod.fst).Pairwise (· < ·) := by
  induction ds with
  | nil => simp [insertDoc]
  | cons d ds ih =>
      simp only [List.map_cons, List.pairwise_cons, List.mem_cons, not_or] at h hk
      rw [insertDoc, List.orderedInsert_cons]
      split
      · rename_i hlt
        simp only [List.map_cons, List.pairwise_cons, List.mem_cons, forall_eq_or_imp]
        exact ⟨⟨hlt, fun x hx => lt_trans hlt (h.1 x hx)⟩, h⟩
      · rename_i hle
        have hdk : d.1 < k := lt_of_le_of_ne (not_lt.mp hle) (Ne.symm hk.1)
        simp only [List.map_cons, List.pairwise_cons]
        refine ⟨fun x hx => ?_, ih h.2 hk.2⟩
        obtain ⟨y, hy, rfl⟩ := List.mem_map.mp hx
        rcases mem_insertDoc.mp hy with rfl | hy
        · exact hdk
        · exact h.1 y.1 (List.mem_map_of_mem hy)

/-- Create a document under a new key; `none` if the key is taken. -/
def add (c : Collection K α) (k : K) (a : α) : Option (Collection K α) :=
  if h : k ∈ c.docs.map Prod.fst then none
  else some ⟨insertDoc k a c.docs, insertDoc_ascending c.ascending h⟩

/-- Change the document under key `k`, if there is one. -/
def modify (c : Collection K α) (k : K) (f : α → α) : Collection K α where
  docs := c.docs.map fun d => if d.1 = k then (d.1, f d.2) else d
  ascending := by
    have hkeys : (c.docs.map fun d => if d.1 = k then (d.1, f d.2) else d).map Prod.fst =
        c.docs.map Prod.fst := by
      rw [List.map_map]
      refine List.map_congr_left fun d _ => ?_
      simp only [Function.comp_apply]
      split <;> rfl
    exact hkeys ▸ c.ascending

lemma mem_keys_iff {c : Collection K α} {k : K} :
    k ∈ c.docs.map Prod.fst ↔ ∃ a, c.get? k = some a := by
  simp [get?_eq_some_iff]

lemma add_eq_none_iff {c : Collection K α} {k : K} {a : α} :
    c.add k a = none ↔ ∃ b, c.get? k = some b := by
  rw [← mem_keys_iff, add]
  split <;> simp_all

/-- A successful `add` creates exactly one document, under a key that was free. -/
lemma get?_of_add {c c' : Collection K α} {k : K} {a : α} (h : c.add k a = some c') (k' : K) :
    c'.get? k' = if k' = k then some a else c.get? k' := by
  ext b
  have hmem : ∀ x, x ∈ c'.docs ↔ x = (k, a) ∨ x ∈ c.docs := by
    intro x
    rw [add] at h
    split at h
    · simp at h
    · rw [← Option.some.inj h]
      exact mem_insertDoc
  have hfree : ∀ b, (k, b) ∉ c.docs := by
    intro b hb
    have htaken : c.add k a = none := add_eq_none_iff.mpr ⟨b, get?_eq_some_iff.mpr hb⟩
    rw [htaken] at h
    simp at h
  rw [get?_eq_some_iff, hmem]
  split
  · rename_i hk
    subst hk
    simp [hfree, eq_comm]
  · rename_i hk
    simp [hk, get?_eq_some_iff]

lemma get?_add_self {c c' : Collection K α} {k : K} {a : α} (h : c.add k a = some c') :
    c'.get? k = some a := by
  rw [get?_of_add h, if_pos rfl]

lemma get?_eq_none_of_add {c c' : Collection K α} {k : K} {a : α} (h : c.add k a = some c') :
    c.get? k = none := by
  rw [← Option.not_isSome_iff_eq_none, Option.isSome_iff_exists]
  intro htaken
  rw [add_eq_none_iff.mpr htaken] at h
  simp at h

/-- What was stored stays stored. -/
lemma get?_add_of_some {c c' : Collection K α} {k k' : K} {a b : α} (h : c.add k a = some c')
    (hb : c.get? k' = some b) : c'.get? k' = some b := by
  have hne : k' ≠ k := by
    rintro rfl
    rw [get?_eq_none_of_add h] at hb
    simp at hb
  rw [get?_of_add h, if_neg hne, hb]

lemma get?_modify (c : Collection K α) (k k' : K) (f : α → α) :
    (c.modify k f).get? k' = if k' = k then (c.get? k').map f else c.get? k' := by
  ext b
  rw [get?_eq_some_iff, modify, List.mem_map]
  split
  · rename_i hk
    subst hk
    simp only [Option.map_eq_some_iff, get?_eq_some_iff]
    constructor
    · rintro ⟨⟨j, x⟩, hx, heq⟩
      split at heq
      · obtain ⟨rfl, rfl⟩ := Prod.mk.inj heq
        exact ⟨x, hx, rfl⟩
      · rename_i hne
        exact absurd (Prod.mk.inj heq).1 hne
    · rintro ⟨x, hx, rfl⟩
      exact ⟨(k', x), hx, by simp⟩
  · rename_i hk
    rw [get?_eq_some_iff]
    constructor
    · rintro ⟨⟨j, x⟩, hx, heq⟩
      split at heq
      · rename_i hj
        exact absurd ((Prod.mk.inj heq).1 ▸ hj) hk
      · exact heq ▸ hx
    · intro hx
      exact ⟨(k', b), hx, by simp [hk]⟩

end Collection
