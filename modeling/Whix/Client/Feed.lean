import Whix.Framework.Runs

/-!
# The feed

`FeedViewController` and its collection view.  A snapshot replaces `docs` at once, but the
collection view asks for the number of items only when the scheduled `reloadData` runs, and until
then goes by the count it was told last.  It asks for cells of any row below that count.

The controller also has the prefetching method of a table view, which nothing calls: the feed is a
collection view.
-/

namespace Whix

/-- How an index can trap. -/
inductive IndexTrap where
  | divisionByZero
  | indexOutOfRange

/-- A `FeedViewController` and what its collection view was told, over the type of documents. -/
structure Feed (α : Type) where
  docs : List α
  /-- the number of items last reported to the collection view -/
  itemCount : ℕ
  /-- the calls of `reloadData` scheduled on the main queue -/
  reloads : ℕ
  /-- the app has trapped -/
  trapped : Bool

/-- What can happen to the feed. -/
inductive FeedEvent (α : Type) where
  /-- The listener gets the documents, or an error. -/
  | snapshot (documents : Option (List α))
  /-- A scheduled `reloadData` runs. -/
  | reloadData
  /-- The collection view asks for the cell of a row. -/
  | cellForItemAt (row : ℕ)
  | scrollLatestClicked

namespace Feed

variable {α : Type} (f : Feed α)

/-- The feed once its view is on screen, before the first snapshot. -/
def start : Feed α where
  docs := []
  itemCount := 0
  reloads := 0
  trapped := false

/-- The snapshot listener: an error is printed. -/
def onSnapshot (documents : Option (List α)) : Feed α :=
  match documents with
  | some documents => { f with docs := documents, reloads := f.reloads + 1 }
  | none => f

/-- `collectionView(_:numberOfItemsInSection:)` -/
def numberOfItemsInSection : ℕ := f.docs.length

/-- `reloadData`: the collection view asks for the number of items again. -/
def reloadData : Feed α :=
  { f with itemCount := f.numberOfItemsInSection, reloads := f.reloads - 1 }

/-- The remainder `%` of two numbers that are not negative. -/
def remainder (m n : ℕ) : Except IndexTrap ℕ :=
  if n = 0 then throw .divisionByZero else return m % n

/-- `docs[indexPath.row % docs.count]`, with which the cell of a row is configured. -/
def document (row : ℕ) : Except IndexTrap α := do
  let i ← remainder row f.docs.length
  match f.docs[i]? with
  | some doc => return doc
  | none => throw .indexOutOfRange

/-- `collectionView(_:cellForItemAt:)`, as far as the feed goes. -/
def cellForItemAt (row : ℕ) : Feed α :=
  match f.document row with
  | .ok _ => f
  | .error _ => { f with trapped := true }

/-- The row that `scrollLatestClicked` passes to `scrollToItem`. -/
def latestRow : ℤ := f.docs.length - 1

@[simp] lemma cellForItemAt_docs (row : ℕ) : (f.cellForItemAt row).docs = f.docs := by
  unfold cellForItemAt
  split <;> rfl

@[simp] lemma cellForItemAt_itemCount (row : ℕ) :
    (f.cellForItemAt row).itemCount = f.itemCount := by
  unfold cellForItemAt
  split <;> rfl

/-- The remainder is always in range, if it can be taken. -/
lemma document_isOk_iff (row : ℕ) : (∃ doc, f.document row = .ok doc) ↔ f.docs ≠ [] := by
  constructor
  · rintro ⟨doc, hdoc⟩ hempty
    rw [document, remainder, hempty, List.length_nil, if_pos rfl] at hdoc
    exact absurd hdoc (by simp [throw, throwThe, MonadExceptOf.throw, bind, Except.bind])
  · intro hne
    have hpos : 0 < f.docs.length := List.length_pos_iff.mpr hne
    have hlt : row % f.docs.length < f.docs.length := Nat.mod_lt row hpos
    refine ⟨f.docs[row % f.docs.length], ?_⟩
    rw [document, remainder, if_neg hpos.ne']
    show (match f.docs[row % f.docs.length]? with
      | some doc => pure doc
      | none => throw .indexOutOfRange : Except IndexTrap α) = _
    rw [List.getElem?_eq_getElem hlt]
    rfl

end Feed

/-- One step of the feed, as long as the app has not trapped.  Scrolling changes nothing that is
modelled. -/
def feedStep {α : Type} (f : Feed α) (e : FeedEvent α) : Option (Feed α) :=
  if f.trapped then none else
    match e with
    | .snapshot documents => some (f.onSnapshot documents)
    | .reloadData => if f.reloads = 0 then none else some f.reloadData
    | .cellForItemAt row => if row < f.itemCount then some (f.cellForItemAt row) else none
    | .scrollLatestClicked => some f

end Whix
