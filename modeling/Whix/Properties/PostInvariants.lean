import Whix.Backend.Effects

/-!
# What every post satisfies

Three properties of the stored posts, each over all runs of the backend: the counter is the length
of the array, the array names nobody twice, and every reference leads to an account.

The first two speak about a post's array and counter only.  New posts satisfy them, so it is the
updates that decide, and an update writes what `toggled` makes of an earlier, good pair:
`likes_always_iff` reduces the whole run to that one function.  The third also depends on the
accounts and is proved entry by entry.

None of the three holds outright.  An `unlike` decrements the counter also when the array is empty
(`counter_disagrees`), a `like` appends whether or not the caller is listed (`liked_twice`), and a
caller that no account matches is written down as `/users/null` (`dangling_reference`).
-/

namespace Whix

open Js Prog Interleaving Runs

variable {P : Platform}

/-- Every stored post satisfies `Q`. -/
def AllPosts (Q : PostDoc → Prop) (s : Store) : Prop :=
  ∀ id doc, s.post.get? id = some doc → Q doc

section AllPosts

variable {Q : PostDoc → Prop} {s : Store}

lemma allPosts_of_post_empty (h : s.post = .empty) : AllPosts Q s := by
  intro id doc hdoc
  simp [h] at hdoc

lemma allPosts_add_iff {post : Collection AutoId PostDoc} {id : AutoId} {doc : PostDoc}
    (hadd : s.post.add id doc = some post) (h : AllPosts Q s) :
    AllPosts Q { s with post } ↔ Q doc := by
  have hget := Collection.get?_of_add hadd
  constructor
  · intro hQ
    exact hQ id doc (Collection.get?_add_self hadd)
  · intro hdoc id' doc' hdoc'
    rw [hget] at hdoc'
    split at hdoc'
    · exact Option.some.inj hdoc' ▸ hdoc
    · exact h id' doc' hdoc'

lemma allPosts_modify_iff {path : String} {id : AutoId} {doc : PostDoc} {f : PostDoc → PostDoc}
    (hpost : s.postAt path = some (id, doc)) (h : AllPosts Q s) :
    AllPosts Q { s with post := s.post.modify id f } ↔ Q (f doc) := by
  have hstored := (postAt_eq_some_iff.mp hpost).2
  constructor
  · intro hQ
    exact hQ id (f doc) (by rw [Collection.get?_modify, if_pos rfl, hstored, Option.map_some])
  · intro hdoc id' doc' hdoc'
    rw [Collection.get?_modify] at hdoc'
    split at hdoc'
    · rename_i hid
      rw [hid, hstored, Option.map_some] at hdoc'
      exact Option.some.inj hdoc' ▸ hdoc
    · exact h id' doc' hdoc'

end AllPosts

/-! ## Properties of the array and the counter -/

section Likes

variable {Q : List DocumentReference → ℤ → Prop}
  {A : Bool → DocumentReference → List DocumentReference → Prop} {s₀ : Store}

/-- One entry keeps the arrays and counters good exactly when its update does. -/
lemma likes_step (hnew : Q [] 0)
    (hupdate : ∀ like ref likes n, Q likes n →
      (Q (toggled like ref likes n).1 (toggled like ref likes n).2 ↔ A like ref likes))
    {en : LogEntry} {log : Log} (hlaw : LawfulLog P s₀ (en :: log))
    (hQ : ∀ h, h <:+ log → AllPosts (fun doc => Q doc.likes doc.likesCount) (storeAfter s₀ h)) :
    AllPosts (fun doc => Q doc.likes doc.likesCount) (storeAfter s₀ (en :: log)) ↔
      ∀ like ref postDoc, CommitsToggle en log like ref postDoc → A like ref postDoc.likes := by
  have hlast := hQ log (List.suffix_refl log)
  have hvacuous : (∀ path likes n, en.done ≠ ⟨.updatePost path likes n, .ok ()⟩) →
      ∀ like ref postDoc, CommitsToggle en log like ref postDoc → A like ref postDoc.likes := by
    rintro h like ref postDoc ⟨-, path, likes, n, -, -, -, hdone, -⟩
    exact absurd hdone (h path likes n)
  have heffect := entry_effect hlaw
  generalize storeAfter s₀ (en :: log) = s' at heffect ⊢
  cases heffect with
  | addUser hdone => exact iff_of_true hlast (hvacuous (by simp [hdone]))
  | @addPost doc id post hdone hcall hadd =>
      obtain ⟨now, data, props, docs, locationid, -, -, -, -, rfl, -⟩ := hcall
      exact iff_of_true ((allPosts_add_iff hadd hlast).mpr hnew) (hvacuous (by simp [hdone]))
  | @updatePost path likes n id doc hdone hcall hpost =>
      obtain ⟨like, ref, postDoc, hcommits, hsaw, htoggled⟩ := hcall.commitsToggle hdone
      obtain ⟨id', older, hsuffix, hstored⟩ := snapshot_stored hlaw.1 hsaw
      have hread : Q postDoc.likes postDoc.likesCount := hQ older hsuffix id' postDoc hstored
      have hone := hupdate like ref postDoc.likes postDoc.likesCount hread
      rw [allPosts_modify_iff hpost hlast]
      rw [htoggled] at hone
      rw [hone]
      constructor
      · intro hA like' ref' postDoc' hcommits'
        obtain ⟨rfl, rfl, rfl⟩ := hcommits.unique hcommits'
        exact hA
      · intro h
        exact h like ref postDoc hcommits
  | idle hdone =>
      refine iff_of_true hlast (hvacuous fun path likes n h => ?_)
      rw [h] at hdone
      simp [isWrite] at hdone

/-- What new posts satisfy, a run keeps exactly when its committed updates meet the condition
under which `toggled` keeps it. -/
lemma likes_always_iff (hnew : Q [] 0)
    (hupdate : ∀ like ref likes n, Q likes n →
      (Q (toggled like ref likes n).1 (toggled like ref likes n).2 ↔ A like ref likes))
    {users : Collection AutoId UserDoc} (r : ServerRun P ⟨users, .empty⟩) :
    r.Always (fun t => AllPosts (fun doc => Q doc.likes doc.likesCount) t.store) ↔
      ∀ en older, en :: older <:+ r.final.log →
        ∀ like ref postDoc, CommitsToggle en older like ref postDoc → A like ref postDoc.likes :=
  always_store_iff (P := AllPosts fun doc => Q doc.likes doc.likesCount) handle_obeys
    (allPosts_of_post_empty rfl) (fun _ _ hlaw hQ => likes_step hnew hupdate hlaw hQ) r

end Likes

/-! ## The counter and the array -/

/-- The counter of every post is the length of its array, and so not negative. -/
def CountersAgree : Store → Prop :=
  AllPosts fun doc => doc.likesCount = doc.likes.length ∧ 0 ≤ doc.likesCount

lemma toggled_agrees_iff {like : Bool} {ref : DocumentReference} {likes : List DocumentReference}
    {n : ℤ} (h : n = likes.length ∧ 0 ≤ n) :
    ((toggled like ref likes n).2 = (toggled like ref likes n).1.length ∧
      0 ≤ (toggled like ref likes n).2) ↔ (like = false → likes ≠ []) := by
  obtain ⟨rfl, -⟩ := h
  cases like with
  | true =>
      simp only [toggled_like, List.length_append, List.length_singleton, Nat.cast_add,
        Nat.cast_one, true_and, Bool.true_eq_false, false_implies, iff_true]
      omega
  | false =>
      simp only [toggled_unlike, List.length_dropLast, true_implies, ← List.length_pos_iff]
      omega

/-- **Counter and array, exactly.**  From any accounts and no posts, through any calls in any
interleaving, the counters agree with the arrays in every state reached if and only if every
`unlike` that updates a post had read a non-empty array. -/
theorem counters_agree_iff {users : Collection AutoId UserDoc}
    (r : ServerRun P ⟨users, .empty⟩) :
    r.Always (fun t => CountersAgree t.store) ↔
      ∀ en older, en :: older <:+ r.final.log →
        ∀ ref postDoc, CommitsToggle en older false ref postDoc → postDoc.likes ≠ [] := by
  refine (likes_always_iff (Q := fun likes n => n = likes.length ∧ 0 ≤ n)
    (A := fun like _ likes => like = false → likes ≠ []) ⟨rfl, le_refl 0⟩
    (fun _ _ _ _ h => toggled_agrees_iff h) r).trans ?_
  constructor
  · intro h en older hs ref postDoc hcommits
    exact h en older hs false ref postDoc hcommits rfl
  · rintro h en older hs like ref postDoc hcommits rfl
    exact h en older hs ref postDoc hcommits

/-- A post by an account, and then the calls `calls` on it one after another. -/
def postAndToggle (calls : List (Bool × String)) : List ServerEvent :=
  let call (c awaits : ℕ) (req : Request) (id : AutoId) : List ServerEvent :=
    .invoke req :: List.replicate awaits (.advance c (.commit id))
  call 0 4 (.login (loginData "ada@whix.io" "ada")) idA ++
    call 1 2 (.post 0 (postData "https://whix.io/photo.jpg" "ada" 55 (-4))) idB ++
    (calls.zipIdx 2).flatMap fun x => call x.2 3 (.toggle x.1.1 (likeData x.1.2 idB)) idA

/-- An `unlike` on a post that nobody likes counts it down to minus one. -/
theorem counter_disagrees :
    ¬ ∀ r : ServerRun .plain ⟨.empty, .empty⟩, CountersAgree r.final.store := by
  intro h
  let r : ServerRun .plain ⟨.empty, .empty⟩ :=
    .ofEvents _ (postAndToggle [(false, "ada")]) (by decide)
  have hpost : (r.final.store.post.get? idB).map PostDoc.likesCount = some (-1) := by decide +kernel
  obtain ⟨doc, hdoc, hcount⟩ := Option.map_eq_some_iff.mp hpost
  exact absurd (hcount ▸ (h r idB doc hdoc).2) (by decide)

/-! ## One like per user -/

/-- No array names a user twice. -/
def LikedOnce : Store → Prop :=
  AllPosts fun doc => doc.likes.Nodup

/-- **One like per user, exactly.**  From any accounts and no posts, through any calls in any
interleaving, no array names a user twice in any state reached if and only if every `like` that
updates a post had read an array without its caller. -/
theorem liked_once_iff {users : Collection AutoId UserDoc} (r : ServerRun P ⟨users, .empty⟩) :
    r.Always (fun t => LikedOnce t.store) ↔
      ∀ en older, en :: older <:+ r.final.log →
        ∀ ref postDoc, CommitsToggle en older true ref postDoc → ref ∉ postDoc.likes := by
  have hupdate : ∀ like ref likes (n : ℤ), List.Nodup likes →
      ((toggled like ref likes n).1.Nodup ↔ (like = true → ref ∉ likes)) := by
    intro like ref likes n h
    cases like with
    | true =>
        have hne : (∀ a ∈ likes, a ≠ ref) ↔ ref ∉ likes := List.forall_mem_ne'
        simpa [List.nodup_append, h] using hne
    | false => simpa using h.sublist (List.dropLast_sublist likes)
  refine (likes_always_iff (Q := fun likes _ => likes.Nodup)
    (A := fun like ref likes => like = true → ref ∉ likes) List.nodup_nil hupdate r).trans ?_
  constructor
  · intro h en older hs ref postDoc hcommits
    exact h en older hs true ref postDoc hcommits rfl
  · rintro h en older hs like ref postDoc hcommits rfl
    exact h en older hs ref postDoc hcommits

/-- Two likes by one user, one after the other, are both recorded. -/
theorem liked_twice :
    ¬ ∀ r : ServerRun .plain ⟨.empty, .empty⟩, LikedOnce r.final.store := by
  intro h
  let r : ServerRun .plain ⟨.empty, .empty⟩ :=
    .ofEvents _ (postAndToggle [(true, "ada"), (true, "ada")]) (by decide)
  have hpost : (r.final.store.post.get? idB).map PostDoc.likes =
      some [userRef (some idA), userRef (some idA)] := by decide +kernel
  obtain ⟨doc, hdoc, hlikes⟩ := Option.map_eq_some_iff.mp hpost
  have hnodup : doc.likes.Nodup := h r idB doc hdoc
  exact absurd (hlikes ▸ hnodup) (by decide)

/-! ## References lead to accounts -/

/-- The reference leads to an account. -/
def NamesAccount (users : Collection AutoId UserDoc) (ref : DocumentReference) : Prop :=
  ∃ id doc, ref = userRef (some id) ∧ users.get? id = some doc

/-- The author of every post and everybody in its array has an account. -/
def ReferencesExist (s : Store) : Prop :=
  AllPosts
    (fun doc => NamesAccount s.users doc.userid ∧ ∀ ref ∈ doc.likes, NamesAccount s.users ref) s

/-- If the entry writes a reference to its caller, as the author of a post or into its array, then
the caller's users query had found an account. -/
def CallerKnown (en : LogEntry) (older : Log) : Prop :=
  (∃ doc id, en.done = ⟨.addPost doc, .ok id⟩) ∨
      (∃ ref postDoc, CommitsToggle en older true ref postDoc) →
    ∀ q docs, asked q docs ∈ pathOf en.call older → docs ≠ []

lemma NamesAccount.of_persists {users users' : Collection AutoId UserDoc} {ref : DocumentReference}
    (h : NamesAccount users ref)
    (hpersists : ∀ id doc, users.get? id = some doc → users'.get? id = some doc) :
    NamesAccount users' ref := by
  obtain ⟨id, doc, href, hdoc⟩ := h
  exact ⟨id, doc, href, hpersists id doc hdoc⟩

/-- The reference to a call's user leads to an account exactly when the call's query found
one. -/
lemma namesAccount_userRef_iff {s₀ : Store} {log : Log} (hlaw : LawfulLog P s₀ log) {c : ℕ}
    {q : Query} {docs : List (AutoId × UserDoc)} (h : asked q docs ∈ pathOf c log) :
    NamesAccount (storeAfter s₀ log).users (userRef (lastId docs)) ↔ docs ≠ [] := by
  rcases List.eq_nil_or_concat docs with rfl | ⟨docs, ⟨id, doc⟩, rfl⟩
  · simp [NamesAccount, lastId]
  · have hmem : (id, doc) ∈ docs.concat (id, doc) := by simp
    have hstored := docs_stored hlaw h hmem
    refine iff_of_true ⟨id, doc, ?_, hstored⟩ (by simp)
    simp [lastId_eq]

/-- The references in an array that a call has read still lead to accounts. -/
lemma namesAccount_snapshot {s₀ : Store} {log : Log} (hlaw : LawfulLog P s₀ log)
    (hrefs : ∀ h, h <:+ log → ReferencesExist (storeAfter s₀ h)) {c : ℕ} {path : String}
    {postDoc : PostDoc} (h : saw path (some postDoc) ∈ pathOf c log) :
    ∀ ref ∈ postDoc.likes, NamesAccount (storeAfter s₀ log).users ref := by
  intro ref href
  obtain ⟨id, older, ⟨newer, rfl⟩, hstored⟩ := snapshot_stored hlaw h
  have hread := (hrefs older ⟨newer, rfl⟩ id postDoc hstored).2 ref href
  exact hread.of_persists fun _ _ => account_persists hlaw

/-- A call that writes its caller down, and has made one users query, is known exactly when that
query found an account. -/
lemma callerKnown_iff {en : LogEntry} {older : Log} {q : Query} {docs : List (AutoId × UserDoc)}
    (hwrites : (∃ doc id, en.done = ⟨.addPost doc, .ok id⟩) ∨
      ∃ ref postDoc, CommitsToggle en older true ref postDoc)
    (hqueries : ∀ q' docs', asked q' docs' ∈ pathOf en.call older ↔ q' = q ∧ docs' = docs) :
    CallerKnown en older ↔ docs ≠ [] := by
  constructor
  · intro h
    exact h hwrites q docs ((hqueries q docs).mpr ⟨rfl, rfl⟩)
  · rintro hne - q' docs' hasked
    exact ((hqueries q' docs').mp hasked).2 ▸ hne

/-- An `unlike` writes nobody down. -/
lemma callerKnown_of_unlike {en : LogEntry} {older : Log} {ref : DocumentReference}
    {postDoc : PostDoc} (h : CommitsToggle en older false ref postDoc) : CallerKnown en older := by
  rintro (⟨doc, id, hdone⟩ | ⟨ref', postDoc', h'⟩)
  · obtain ⟨-, path, likes, n, -, -, -, hdone', -⟩ := h
    rw [hdone] at hdone'
    simp at hdone'
  · exact absurd (h.unique h').1 (by decide)

/-- One entry keeps all references leading to accounts exactly when its caller is known. -/
lemma referencesExist_step {s₀ : Store} {en : LogEntry} {log : Log}
    (hlaw : LawfulLog P s₀ (en :: log))
    (hrefs : ∀ h, h <:+ log → ReferencesExist (storeAfter s₀ h)) :
    ReferencesExist (storeAfter s₀ (en :: log)) ↔ CallerKnown en log := by
  have hlast := hrefs log (List.suffix_refl log)
  have hvacuous : (∀ doc id, en.done ≠ ⟨.addPost doc, .ok id⟩) →
      (∀ path likes n, en.done ≠ ⟨.updatePost path likes n, .ok ()⟩) → CallerKnown en log := by
    rintro hpost hupdate (⟨doc, id, hdone⟩ | ⟨ref, postDoc, -, path, likes, n, -, -, -, hdone, -⟩)
    · exact absurd hdone (hpost doc id)
    · exact absurd hdone (hupdate path likes n)
  have heffect := entry_effect hlaw
  generalize storeAfter s₀ (en :: log) = s' at heffect ⊢
  cases heffect with
  | @addUser doc id users hdone hcall hadd =>
      refine iff_of_true ?_ (hvacuous (by simp [hdone]) (by simp [hdone]))
      intro id' doc' hdoc'
      obtain ⟨huser, hlikes⟩ := hlast id' doc' hdoc'
      have hpersists : ∀ id doc, (storeAfter s₀ log).users.get? id = some doc →
          users.get? id = some doc := fun _ _ => Collection.get?_add_of_some hadd
      exact ⟨huser.of_persists hpersists, fun ref href => (hlikes ref href).of_persists hpersists⟩
  | @addPost doc id post hdone hcall hadd =>
      obtain ⟨now, data, props, docs, locationid, -, -, -, -, rfl, hpath⟩ := hcall
      have hqueries : ∀ q docs', asked q docs' ∈ pathOf en.call log ↔
          q = usernameQuery (props "username") ∧ docs' = docs := by
        simp [hpath]
      have hasked := (hqueries _ docs).mpr ⟨rfl, rfl⟩
      rw [callerKnown_iff (Or.inl ⟨_, _, hdone⟩) hqueries]
      refine (allPosts_add_iff hadd hlast).trans ?_
      simp only [List.not_mem_nil, false_implies, implies_true, and_true]
      exact namesAccount_userRef_iff hlaw.1 hasked
  | @updatePost path likes n id doc hdone hcall hpost =>
      obtain ⟨like, data, props, docs, postDoc, hreq, -, -, htoggled, hpath⟩ := hcall
      have hcommits : CommitsToggle en log like (userRef (lastId docs)) postDoc :=
        ⟨data, path, likes, n, _, docs, hreq, hdone, hpath, rfl⟩
      have hqueries : ∀ q docs', asked q docs' ∈ pathOf en.call log ↔
          q = usernameQuery (props "username") ∧ docs' = docs := by
        simp [hpath]
      have hasked := (hqueries _ docs).mpr ⟨rfl, rfl⟩
      have hread := namesAccount_snapshot hlaw.1 hrefs (hpath ▸ List.mem_cons_self)
      have hlikes : likes = (toggled like (userRef (lastId docs)) postDoc.likes
          postDoc.likesCount).1 := congrArg Prod.fst htoggled
      refine (allPosts_modify_iff hpost hlast).trans ?_
      rw [and_iff_right (hlast id doc (postAt_eq_some_iff.mp hpost).2).1, hlikes]
      cases like with
      | true =>
          rw [callerKnown_iff (Or.inr ⟨_, _, hcommits⟩) hqueries]
          simp only [toggled_like, List.forall_mem_append, List.forall_mem_singleton]
          rw [and_iff_right hread, namesAccount_userRef_iff hlaw.1 hasked]
      | false =>
          simp only [toggled_unlike]
          exact iff_of_true (fun ref href => hread ref (List.mem_of_mem_dropLast href))
            (callerKnown_of_unlike hcommits)
  | idle hdone =>
      refine iff_of_true hlast (hvacuous (fun doc id h => ?_) fun path likes n h => ?_) <;>
        · rw [h] at hdone
          simp [isWrite] at hdone

/-- **Referential integrity, exactly.**  From empty collections, through any calls in any
interleaving, every reference leads to an account in every state reached if and only if every
committed post, and every committed update by a `like`, is made by a call whose users query had
found an account. -/
theorem references_exist_iff (r : ServerRun P .empty) :
    r.Always (fun t => ReferencesExist t.store) ↔
      ∀ en older, en :: older <:+ r.final.log → CallerKnown en older :=
  always_store_iff (P := ReferencesExist) handle_obeys (allPosts_of_post_empty rfl)
    (fun _ _ hlaw hrefs => referencesExist_step hlaw hrefs) r

/-- A post under a username that nobody has is recorded as the work of `/users/null`. -/
theorem dangling_reference :
    ¬ ∀ r : ServerRun .plain .empty, ReferencesExist r.final.store := by
  intro h
  let r : ServerRun .plain .empty := .ofEvents _
    [.invoke (.post 0 (postData "https://whix.io/photo.jpg" "nobody" 55 (-4))),
      .advance 0 (.commit idA), .advance 0 (.commit idB)]
    (by decide)
  have hpost : (r.final.store.post.get? idB).map PostDoc.userid = some (userRef none) := by rfl
  obtain ⟨doc, hdoc, huser⟩ := Option.map_eq_some_iff.mp hpost
  obtain ⟨id, -, href, -⟩ := (h r idB doc hdoc).1
  rw [huser, userRef_inj] at href
  simp at href

end Whix
