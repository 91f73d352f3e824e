import Whix.Backend.Sequential
import Whix.Framework.Runs

/-!
# Likes over a sequential history

Calls of `like` and `unlike` on one post, one at a time.  Intended is a set: `like` puts the caller
in, `unlike` takes the caller out, and nobody else is touched, so that a user is in it exactly
when their last call was a `like` (`LikesFollow`).

The array is not that set.  An `unlike` takes the last entry off, whoever it is, because the
reference it looks for is never found (`toggled_unlike`).  `likes_follow_iff` says when this does
no harm: the caller is listed at the end at most, and another user at the end is listed before as
well.
-/

namespace Whix

open Js Runs

/-- The store, and the calls made so far, newest first. -/
structure LikeHistory (postId : AutoId) where
  store : Store
  calls : List (LikeCall postId)

/-- No calls have been made yet. -/
def LikeHistory.start (pub : Published) : LikeHistory pub.postId := ⟨pub.store, []⟩

variable {P : Platform} {postId : AutoId}

/-- The history after one more call.  These calls create nothing, so it does not matter which
identifier the service has ready. -/
def LikeHistory.serve (P : Platform) (t : LikeHistory postId) (call : LikeCall postId) :
    LikeHistory postId where
  store := (Whix.serve P (.commit postId) call.request t.store).2
  calls := call :: t.calls

/-- Serve one call to its end. -/
def likeStep (P : Platform) (t : LikeHistory postId) (call : LikeCall postId) :
    Option (LikeHistory postId) :=
  some (t.serve P call)

/-- The array of the post. -/
def LikeHistory.likes (t : LikeHistory postId) : List DocumentReference :=
  match t.store.post.get? postId with
  | some doc => doc.likes
  | none => []

/-- Whether the last call under a username was `like` or `unlike`, if there was one. -/
def lastCall (username : String) (calls : List (LikeCall postId)) : Option Bool :=
  (calls.find? fun call => call.username = username).map LikeCall.like

/-- Every user is in the array exactly when their last call was a `like`. -/
def LikesFollow (t : LikeHistory postId) : Prop :=
  ∀ u doc, t.store.users.get? u = some doc →
    (userRef (some u) ∈ t.likes ↔ lastCall doc.username t.calls = some true)

/-- The call leaves everybody but its caller in or out of the array, as they were. -/
def OthersUntouched (P : Platform) (t : LikeHistory postId) (call : LikeCall postId) : Prop :=
  ∀ u doc, t.store.users.get? u = some doc → doc.username ≠ call.username →
    (userRef (some u) ∈ (t.serve P call).likes ↔ userRef (some u) ∈ t.likes)

/-- If the call is an `unlike`, then its caller is not listed before the last entry, and the user
in the last entry is its caller or is listed before as well. -/
def RemovesOwn (t : LikeHistory postId) (call : LikeCall postId) : Prop :=
  call.like = false → ∀ u doc, t.store.users.get? u = some doc →
    (doc.username = call.username → userRef (some u) ∉ t.likes.dropLast) ∧
      (doc.username ≠ call.username → t.likes.getLast? = some (userRef (some u)) →
        userRef (some u) ∈ t.likes.dropLast)

/-! ## One call -/

@[simp] lemma lastCall_cons (username : String) (call : LikeCall postId)
    (calls : List (LikeCall postId)) :
    lastCall username (call :: calls) =
      if call.username = username then some call.like else lastCall username calls := by
  rw [lastCall, List.find?_cons]
  split <;> simp_all [lastCall]

/-- The accounts stay as they are, and the post stays. -/
structure Keeps (pub : Published) (t : LikeHistory pub.postId) : Prop where
  users : t.store.users = pub.store.users
  posted : ∃ doc, t.store.post.get? pub.postId = some doc

section Step

variable {pub : Published} {t : LikeHistory pub.postId} (call : LikeCall pub.postId)

lemma Keeps.serve (h : Keeps pub t) : Keeps pub (t.serve P call) := by
  obtain ⟨doc, hdoc⟩ := h.posted
  refine ⟨?_, ?_⟩
  · rw [LikeHistory.serve, serve_likeCall call _ hdoc]
    exact h.users
  · simp only [LikeHistory.serve, serve_likeCall call _ hdoc, Collection.get?_modify, if_true,
      hdoc, Option.map_some, Option.some.injEq, exists_eq']

lemma likes_serve (h : Keeps pub t) :
    (t.serve P call).likes =
      if call.like then t.likes ++ [userRef (accountOf pub.store.users call.username)]
      else t.likes.dropLast := by
  obtain ⟨doc, hdoc⟩ := h.posted
  simp only [LikeHistory.likes, LikeHistory.serve, serve_likeCall call _ hdoc,
    Collection.get?_modify, if_true, hdoc, Option.map_some, LikeCall.update, LikeCall.toggle,
    h.users]
  cases call.like <;> simp

end Step

/-- What is in a list is before its end or at it. -/
lemma mem_iff_mem_dropLast_or {α : Type} {x : α} {l : List α} :
    x ∈ l ↔ x ∈ l.dropLast ∨ l.getLast? = some x := by
  rcases List.eq_nil_or_concat l with rfl | ⟨ys, y, rfl⟩
  · simp
  · simp [eq_comm]

/-- One call keeps the array in line with the calls exactly when it removes nobody but its
caller. -/
lemma likesFollow_serve_iff {pub : Published} (hunique : UniqueUsernames pub.store.users)
    {t : LikeHistory pub.postId} (hkeeps : Keeps pub t) (hfollow : LikesFollow t)
    (call : LikeCall pub.postId) :
    LikesFollow (t.serve P call) ↔ RemovesOwn t call := by
  have husers : (t.serve P call).store.users = t.store.users :=
    (hkeeps.serve call).users.trans hkeeps.users.symm
  rw [LikesFollow, RemovesOwn, husers, likes_serve call hkeeps]
  cases hlike : call.like with
  | true =>
      simp only [if_true, Bool.true_eq_false, false_implies, iff_true]
      intro u doc hdoc
      have hpicked := accountOf_eq_some_iff hunique (hkeeps.users ▸ hdoc) call.username
      simp only [LikeHistory.serve, lastCall_cons, List.mem_append, List.mem_singleton,
        userRef_inj, hlike]
      rw [hfollow u doc hdoc, eq_comm (a := some u), hpicked]
      split
      · rename_i hname
        simp [hname]
      · rename_i hname
        simp [Ne.symm hname]
  | false =>
      simp only [Bool.false_eq_true, if_false, true_implies]
      refine forall₃_congr fun u doc hdoc => ?_
      have hmem := hfollow u doc hdoc
      simp only [LikeHistory.serve, lastCall_cons, hlike]
      by_cases hname : call.username = doc.username
      · simp [hname]
      · rw [if_neg hname, ← hmem, mem_iff_mem_dropLast_or (l := t.likes)]
        simp [Ne.symm hname]

/-- Arrays in line with the calls before and after a call differ at most in its caller. -/
lemma othersUntouched_of_likesFollow {pub : Published} {t : LikeHistory pub.postId}
    (hkeeps : Keeps pub t) {call : LikeCall pub.postId} (hfollow : LikesFollow t)
    (hfollow' : LikesFollow (t.serve P call)) : OthersUntouched P t call := by
  intro u doc hdoc hname
  have husers : (t.serve P call).store.users = t.store.users :=
    (hkeeps.serve call).users.trans hkeeps.users.symm
  rw [hfollow u doc hdoc, hfollow' u doc (husers ▸ hdoc)]
  simp only [LikeHistory.serve, lastCall_cons, if_neg (Ne.symm hname)]

/-! ## Whole histories -/

/-- **A user's like depends on that user's own calls, exactly.**  For a post that nobody has liked
yet and accounts with unique usernames, through any sequence of calls: every array reached is in
line with the calls made, and no call changes whether another user is listed, if and only if every
`unlike` removes nobody but its caller. -/
theorem likes_follow_iff (pub : Published) (hunique : UniqueUsernames pub.store.users)
    (r : Execution (likeStep P) (LikeHistory.start pub)) :
    (r.Always LikesFollow ∧
        Along (likeStep P) (OthersUntouched P) (LikeHistory.start pub) r.events) ↔
      Along (likeStep P) RemovesOwn (LikeHistory.start pub) r.events := by
  have hkeeps : ∀ t call t', Keeps pub t → likeStep P t call = some t' → Keeps pub t' := by
    rintro t call t' ht hstep
    obtain rfl := Option.some.inj hstep
    exact ht.serve call
  have hstart : Keeps pub (LikeHistory.start pub) := ⟨rfl, pub.doc, pub.stored⟩
  have hfollow : LikesFollow (LikeHistory.start pub) := by
    intro u doc _
    simp [LikeHistory.likes, LikeHistory.start, pub.stored, pub.unliked, lastCall]
  have hexact := always_iff_along (J := Keeps pub) (P := LikesFollow)
    (C := RemovesOwn) hstart hfollow (fun t call t' ht _ hstep _ => hkeeps t call t' ht hstep)
    (fun t call t' ht hP hstep => by
      obtain rfl := Option.some.inj hstep
      exact likesFollow_serve_iff hunique ht hP call) r.events
  refine (and_iff_left_of_imp fun halways => ?_).trans hexact
  intro pre call hpre t t' ht hstep
  obtain rfl := Option.some.inj hstep
  have hpre' : pre <+: r.events := (List.prefix_append pre [call]).trans hpre
  exact othersUntouched_of_likesFollow (invariant_run hkeeps hstart ht) (halways pre hpre' t ht)
    (halways _ hpre _ (run_snoc_eq_some.mpr ⟨t, ht, hstep⟩))

lemma twoUsers_unique : UniqueUsernames twoUsers.store.users := by
  intro i j a b ha hb hab
  have hmem : ∀ k c, twoUsers.store.users.get? k = some c →
      (k, c) = (idA, account .plain "ada@whix.io" "ada") ∨
        (k, c) = (idB, account .plain "bob@whix.io" "bob") := by
    intro k c hc
    simpa [twoUsers] using Collection.get?_eq_some_iff.mp hc
  obtain ⟨rfl, rfl⟩ | ⟨rfl, rfl⟩ := (hmem i a ha).imp Prod.mk.inj Prod.mk.inj <;>
    obtain ⟨rfl, rfl⟩ | ⟨rfl, rfl⟩ := (hmem j b hb).imp Prod.mk.inj Prod.mk.inj
  · rfl
  · exact absurd hab (by decide)
  · exact absurd hab (by decide)
  · rfl

/-- Ada likes her post and takes it back. -/
def likedAndTakenBack : Execution (likeStep .plain) (LikeHistory.start twoUsers) :=
  .ofEvents _ [.of true "ada" idA, .of false "ada" idA] (by rfl)

/-- Ada and Bob like the post, and Ada takes hers back. -/
def bothLiked : Execution (likeStep .plain) (LikeHistory.start twoUsers) :=
  .ofEvents _ [.of true "ada" idA, .of true "bob" idA, .of false "ada" idA] (by rfl)

theorem likes_follow_iff_at :
    (likedAndTakenBack.Always LikesFollow ∧
        Along (likeStep .plain) (OthersUntouched .plain) (LikeHistory.start twoUsers)
          likedAndTakenBack.events) ↔
      Along (likeStep .plain) RemovesOwn (LikeHistory.start twoUsers) likedAndTakenBack.events :=
  likes_follow_iff twoUsers twoUsers_unique likedAndTakenBack

/-- Ada's `unlike` takes Bob's entry off and leaves hers. -/
theorem likes_not_follow :
    ¬ ∀ pub : Published, UniqueUsernames pub.store.users →
      ∀ r : Execution (likeStep .plain) (LikeHistory.start pub), LikesFollow r.final := by
  intro h
  have hada := h twoUsers twoUsers_unique bothLiked idA
    (account .plain "ada@whix.io" "ada") (by rfl)
  have hlikes : bothLiked.final.likes = [userRef (some idA)] := by decide +kernel
  have hlast : lastCall (account .plain "ada@whix.io" "ada").username bothLiked.final.calls =
      some false := by rfl
  rw [hlikes, hlast] at hada
  simp at hada

end Whix
