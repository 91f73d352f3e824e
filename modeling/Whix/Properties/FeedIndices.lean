import Mathlib.Data.List.DropRight
import Whix.Client.Cell
import Whix.Client.Feed

/-!
# The indices of the feed

The collection view asks for rows below the count it was told last, and the feed answers out of
the documents it has now.  The remainder keeps a row in range whatever the two sizes are, as long
as there is a document at all; the scroll button computes its row without looking.

`feed_indices_iff` is exact, and in terms of what was delivered: which snapshot came last, and
which was the last one when the collection view was last reloaded.
-/

namespace Whix

open Runs

variable {α : Type}

/-- If the event computes an index, then the index is valid: the document of a row exists, and the
row to scroll to is one the collection view knows. -/
def IndexValid (f : Feed α) : FeedEvent α → Prop
  | .cellForItemAt row => ∃ doc, f.document row = .ok doc
  | .scrollLatestClicked => 0 ≤ f.latestRow ∧ f.latestRow < f.itemCount
  | _ => True

/-! ## What was delivered -/

/-- The documents that an event delivers. -/
def FeedEvent.documents : FeedEvent α → Option (List α)
  | .snapshot documents => documents
  | _ => none

/-- Is it a reload? -/
def FeedEvent.isReload : FeedEvent α → Bool
  | .reloadData => true
  | _ => false

/-- The documents delivered last, none at the beginning. -/
def lastSnapshot (events : List (FeedEvent α)) : List α :=
  (events.reverse.findSome? FeedEvent.documents).getD []

/-- The events up to the last reload. -/
def upToReload (events : List (FeedEvent α)) : List (FeedEvent α) :=
  events.rdropWhile fun e => !e.isReload

/-- If the event computes an index, then there is a document, and a tap finds at most as many as
there were when the collection view was last reloaded. -/
def InRange (before : List (FeedEvent α)) : FeedEvent α → Prop
  | .cellForItemAt _ => lastSnapshot before ≠ []
  | .scrollLatestClicked => lastSnapshot before ≠ [] ∧
      (lastSnapshot before).length ≤ (lastSnapshot (upToReload before)).length
  | _ => True

lemma lastSnapshot_snoc (events : List (FeedEvent α)) (e : FeedEvent α) :
    lastSnapshot (events ++ [e]) = e.documents.getD (lastSnapshot events) := by
  unfold lastSnapshot
  rw [List.reverse_append, List.reverse_singleton, List.singleton_append, List.findSome?_cons]
  cases e.documents with
  | none => rfl
  | some documents => rfl

lemma upToReload_snoc_of_not_reload {events : List (FeedEvent α)} {e : FeedEvent α}
    (h : e.isReload = false) : upToReload (events ++ [e]) = upToReload events :=
  List.rdropWhile_concat_pos _ _ _ (by simp [h])

lemma upToReload_snoc_reloadData (events : List (FeedEvent α)) :
    upToReload (events ++ [.reloadData]) = events ++ [.reloadData] :=
  List.rdropWhile_concat_neg _ _ _ (by simp [FeedEvent.isReload])

/-! ## The feed and its deliveries -/

/-- The feed has the documents delivered last, and the collection view was told the number of
those that were the last when it was reloaded. -/
structure UpToDate (events : List (FeedEvent α)) (f : Feed α) : Prop where
  docs : f.docs = lastSnapshot events
  itemCount : f.itemCount = (lastSnapshot (upToReload events)).length

lemma UpToDate.step {events : List (FeedEvent α)} {f f' : Feed α} {e : FeedEvent α}
    (h : UpToDate events f) (hstep : feedStep f e = some f') : UpToDate (events ++ [e]) f' := by
  unfold feedStep at hstep
  split at hstep
  · simp at hstep
  cases e with
  | snapshot documents =>
      obtain rfl := Option.some.inj hstep
      refine ⟨?_, ?_⟩
      · rw [lastSnapshot_snoc]
        cases documents with
        | none => exact h.docs
        | some documents => rfl
      · rw [upToReload_snoc_of_not_reload rfl, ← h.itemCount]
        cases documents with
        | none => rfl
        | some documents => rfl
  | reloadData =>
      simp only [Option.ite_none_left_eq_some] at hstep
      obtain rfl := Option.some.inj hstep.2
      refine ⟨?_, ?_⟩
      · rw [lastSnapshot_snoc]
        exact h.docs
      · rw [upToReload_snoc_reloadData, lastSnapshot_snoc]
        exact congrArg List.length h.docs
  | cellForItemAt row =>
      simp only [Option.ite_none_right_eq_some] at hstep
      obtain rfl := Option.some.inj hstep.2
      refine ⟨?_, ?_⟩
      · rw [lastSnapshot_snoc, Feed.cellForItemAt_docs]
        exact h.docs
      · rw [upToReload_snoc_of_not_reload rfl, Feed.cellForItemAt_itemCount]
        exact h.itemCount
  | scrollLatestClicked =>
      obtain rfl := Option.some.inj hstep
      refine ⟨?_, ?_⟩
      · rw [lastSnapshot_snoc]
        exact h.docs
      · rw [upToReload_snoc_of_not_reload rfl]
        exact h.itemCount

lemma upToDate_of_run {events : List (FeedEvent α)} {f : Feed α}
    (h : run feedStep .start events = some f) : UpToDate events f :=
  history_run ⟨rfl, rfl⟩ (fun _ _ _ _ _ hupToDate hstep => hupToDate.step hstep) h

/-- The row to scroll to, against the count that was reported. -/
lemma latestRow_valid_iff (f : Feed α) :
    (0 ≤ f.latestRow ∧ f.latestRow < f.itemCount) ↔
      f.docs ≠ [] ∧ f.docs.length ≤ f.itemCount := by
  rw [← List.length_pos_iff, Feed.latestRow]
  omega

/-- An index is valid exactly when the deliveries say so. -/
lemma indexValid_iff {events : List (FeedEvent α)} {f : Feed α} (h : UpToDate events f)
    (e : FeedEvent α) : IndexValid f e ↔ InRange events e := by
  cases e with
  | cellForItemAt row =>
      rw [IndexValid, InRange, ← h.docs]
      exact f.document_isOk_iff row
  | scrollLatestClicked =>
      rw [IndexValid, InRange, ← h.docs, ← h.itemCount]
      exact latestRow_valid_iff f
  | snapshot documents => exact Iff.rfl
  | reloadData => exact Iff.rfl

/-- **The indices of the feed, exactly.**  Through any sequence of snapshots, scheduled reloads,
cell requests and taps, every index is valid if and only if no cell is requested and the scroll
button is not tapped while the last snapshot is empty, and the button is not tapped while the last
snapshot has more documents than the collection view was told of. -/
theorem feed_indices_iff (r : Execution feedStep (Feed.start : Feed α)) :
    Along feedStep IndexValid .start r.events ↔
      ∀ before e, before ++ [e] <+: r.events → InRange before e := by
  constructor
  · intro h before e hprefix
    obtain ⟨f', hf'⟩ := r.run_prefix hprefix
    obtain ⟨f, hf, hstep⟩ := run_snoc_eq_some.mp hf'
    exact (indexValid_iff (upToDate_of_run hf) e).mp (h before e hprefix f f' hf hstep)
  · intro h before e hprefix f f' hf _
    exact (indexValid_iff (upToDate_of_run hf) e).mpr (h before e hprefix)

/-! ## An empty feed -/

/-- There are no posts, and the scroll button is tapped. -/
def emptyFeed : Execution feedStep (Feed.start : Feed QueryDocumentSnapshot) :=
  .ofEvents _ [.snapshot (some []), .reloadData, .scrollLatestClicked] rfl

/-- The row passed to `scrollToItem` is -1. -/
theorem row_out_of_range :
    ¬ ∀ r : Execution feedStep (Feed.start : Feed QueryDocumentSnapshot),
      Along feedStep IndexValid .start r.events := by
  intro h
  have hvalid := h emptyFeed [.snapshot (some []), .reloadData] .scrollLatestClicked
    (List.prefix_refl _) ⟨[], 0, 0, false⟩ ⟨[], 0, 0, false⟩ rfl rfl
  exact absurd hvalid.1 (by decide)

end Whix
