import Whix.Backend.Effects
import Whix.Backend.Sequential

/-!
# Serializability of likes

Any number of `like` and `unlike` calls on one post, interleaved at their operations.  Each call
reads the array and the counter, changes them in memory and writes both back; nothing makes the
three steps one, so an update may overwrite another (`like_lost`).

`likes_serializable` says when it does not: if every update is carried out on the pair that its
call had read, then the committed updates, in the order of their commits, are the calls run one at
a time.
-/

namespace Whix

open Js Prog Interleaving Runs

/-- A run in which every call is a well-formed `like` or `unlike` on the post. -/
abbrev LikeRun (P : Platform) (pub : Published) :=
  { r : ServerRun P pub.store //
    ∀ req, Event.invoke req ∈ r.events → ∃ call : LikeCall pub.postId, req = call.request }

variable {P : Platform} {pub : Published}

/-- Serve requests one at a time.  The identifier the service has ready does not matter to calls
that create nothing. -/
def serveAll (P : Platform) (pub : Published) (reqs : List Request) : Store :=
  reqs.foldl (fun s req => (serve P (.commit pub.postId) req s).2) pub.store

/-- The array and the counter of the post. -/
def Published.pair (pub : Published) (s : Store) : Option (List DocumentReference × ℤ) :=
  (s.post.get? pub.postId).map fun doc => (doc.likes, doc.likesCount)

/-- All calls have been answered, and not with `null`. -/
def LikeRun.Returned (r : LikeRun P pub) : Prop :=
  ∀ req p, (req, p) ∈ r.val.final.calls → ∃ v : Value, p = .ret (.ok v) ∧ v ≠ .null

/-- The calls leave the pair that they leave one at a time in some order. -/
def LikeRun.Serializable (r : LikeRun P pub) : Prop :=
  ∃ order : List Request, order.Perm (r.val.final.calls.map Prod.fst) ∧
    pub.pair (serveAll P pub order) = pub.pair r.val.final.store

/-- If the entry is a committed update, then the post holds the pair that its call had read. -/
def OverwritesOwnRead (pub : Published) (en : LogEntry) (older : Log) : Prop :=
  ∀ like ref postDoc, CommitsToggle en older like ref postDoc →
    pub.pair (storeAfter pub.store older) = some (postDoc.likes, postDoc.likesCount)

/-! ## The committed updates, in order -/

/-- Is this a committed update of a post? -/
def isUpdate (en : LogEntry) : Bool :=
  match en.done with
  | ⟨.updatePost .., .ok _⟩ => true
  | _ => false

lemma isUpdate_iff {en : LogEntry} :
    isUpdate en = true ↔
      ∃ path likes likesCount, en.done = ⟨.updatePost path likes likesCount, .ok ()⟩ := by
  obtain ⟨c, req, env, o, res⟩ := en
  rcases o with q | doc | doc | path | ⟨path, likes, n⟩ <;> rcases res with e | res <;>
    simp [isUpdate, Entry.done]

/-- The requests whose updates were committed, oldest first. -/
def committed (log : Log) : List Request :=
  ((log.filter isUpdate).map Entry.req).reverse

/-- Every entry was made by a call on the post. -/
def OnPost (pub : Published) (log : Log) : Prop :=
  ∀ en ∈ log, ∃ call : LikeCall pub.postId, en.req = call.request

/-- The accounts stay as they are. -/
lemma users_eq_of_onPost {log : Log} (hlaw : LawfulLog P pub.store log) (hpost : OnPost pub log) :
    (storeAfter pub.store log).users = pub.store.users := by
  induction log with
  | nil => rfl
  | cons en log ih =>
      have ih := ih hlaw.1 fun en' hen => hpost en' (List.mem_cons_of_mem en hen)
      have heffect := entry_effect hlaw
      generalize storeAfter pub.store (en :: log) = s' at heffect ⊢
      cases heffect with
      | addUser hdone hcall hadd =>
          obtain ⟨call, hreq⟩ := hpost en List.mem_cons_self
          obtain ⟨data, email, username, hlogin, -⟩ := hcall
          exact absurd (hreq.symm.trans hlogin) (call.request_ne_login data)
      | addPost => exact ih
      | updatePost => exact ih
      | idle => exact ih

lemma serveAll_snoc (reqs : List Request) (req : Request) :
    serveAll P pub (reqs ++ [req]) =
      (serve P (.commit pub.postId) req (serveAll P pub reqs)).2 := by
  simp [serveAll]

lemma committed_cons_of_update {en : LogEntry} {log : Log} (h : isUpdate en = true) :
    committed (en :: log) = committed log ++ [en.req] := by
  simp [committed, h]

lemma committed_cons_of_not_update {en : LogEntry} {log : Log} (h : isUpdate en = false) :
    committed (en :: log) = committed log := by
  simp [committed, h]

/-- A committed update by a call on the post writes what the call makes of the pair it had
read. -/
lemma update_eq_toggle {en : LogEntry} {log : Log} (hlaw : LawfulLog P pub.store log)
    (hpost : OnPost pub log) {call : LikeCall pub.postId} (hreq : en.req = call.request)
    {path : String} {likes : List DocumentReference} {likesCount : ℤ}
    (hdone : en.done = ⟨.updatePost path likes likesCount, .ok ()⟩)
    (hcall : UpdatesPost P en.req (pathOf en.call log) path likes likesCount) :
    path = pub.postId.val ∧ ∃ ref postDoc, CommitsToggle en log call.like ref postDoc ∧
      (likes, likesCount) =
        call.toggle pub.store.users postDoc.likes postDoc.likesCount := by
  obtain ⟨like, data, props, docs, postDoc, htoggle, hprops, hdocPath, htoggled, hpath⟩ := hcall
  have hcommits : CommitsToggle en log like (userRef (lastId docs)) postDoc :=
    ⟨data, path, likes, likesCount, _, docs, htoggle, hdone, hpath, rfl⟩
  rw [hreq, LikeCall.request, Request.toggle_inj] at htoggle
  obtain ⟨rfl, rfl⟩ := htoggle
  obtain ⟨husername, hpostId⟩ := LikeCall.props_eq hprops
  rw [hpostId, P.docPath_autoId] at hdocPath
  refine ⟨(Option.some.inj hdocPath).symm, _, postDoc, hcommits, ?_⟩
  have hdocs : lastId docs = accountOf pub.store.users call.username := by
    have hasked : asked (usernameQuery (props "username")) docs ∈ pathOf en.call log := by
      simp [hpath]
    obtain ⟨newer, older, rfl, rfl⟩ := docs_selected hlaw hasked
    rw [users_eq_of_onPost (hlaw.of_suffix ⟨newer, rfl⟩)
      fun en hen => hpost en (List.mem_append_right newer hen), husername, accountOf]
  rw [htoggled, hdocs, LikeCall.toggle]

/-- If every update is carried out on the pair its call had read, then the store is the one that
the committed calls leave one at a time. -/
lemma storeAfter_eq_serveAll {log : Log} (hlaw : LawfulLog P pub.store log)
    (hpost : OnPost pub log)
    (hread : ∀ en older, en :: older <:+ log → OverwritesOwnRead pub en older) :
    storeAfter pub.store log = serveAll P pub (committed log) := by
  induction log with
  | nil => rfl
  | cons en log ih =>
      have hpost' : OnPost pub log := fun en' hen => hpost en' (List.mem_cons_of_mem en hen)
      have ih := ih hlaw.1 hpost'
        fun en' older hs => hread en' older (hs.trans (List.suffix_cons en log))
      obtain ⟨call, hreq⟩ := hpost en List.mem_cons_self
      have heffect := entry_effect hlaw
      generalize storeAfter pub.store (en :: log) = s' at heffect ⊢
      cases heffect with
      | addUser hdone hcall hadd =>
          obtain ⟨data, email, username, hlogin, -⟩ := hcall
          exact absurd (hreq.symm.trans hlogin) (call.request_ne_login data)
      | addPost hdone hcall hadd =>
          obtain ⟨now, data, props, docs, locationid, hposts, -⟩ := hcall
          exact absurd (hreq.symm.trans hposts) (call.request_ne_post now data)
      | idle hdone =>
          have hno : isUpdate en = false := by
            rw [← Bool.not_eq_true, isUpdate_iff]
            rintro ⟨path, likes, n, hupdate⟩
            rw [hupdate] at hdone
            simp [isWrite] at hdone
          rw [committed_cons_of_not_update hno, ih]
      | @updatePost path likes n id doc hdone hcall hstored =>
          obtain ⟨rfl, ref, postDoc, hcommits, htoggle⟩ :=
            update_eq_toggle hlaw.1 hpost' hreq hdone hcall
          obtain ⟨hid, hdoc⟩ := postAt_eq_some_iff.mp hstored
          rw [AutoId.ofString?_val] at hid
          obtain rfl := Option.some.inj hid
          have hpair := hread en log (List.suffix_refl _) _ ref postDoc hcommits
          rw [Published.pair, hdoc, Option.map_some, Option.some.injEq, Prod.mk.injEq] at hpair
          rw [← hpair.1, ← hpair.2, ← users_eq_of_onPost hlaw.1 hpost'] at htoggle
          obtain ⟨rfl, rfl⟩ := Prod.mk.inj htoggle
          rw [committed_cons_of_update (isUpdate_iff.mpr ⟨_, _, _, hdone⟩), serveAll_snoc, ← ih,
            hreq, serve_likeCall call _ hdoc]
          rfl

/-! ## Every call commits one update -/

/-- A call that commits an update had not committed one before. -/
lemma not_update_before {en : LogEntry} {log : Log} (hlaw : LawfulLog P pub.store (en :: log))
    (h : isUpdate en = true) : ∀ en' ∈ log, isUpdate en' = true → en'.call ≠ en.call := by
  intro en' hen h' hcall
  obtain ⟨path, likes, n, hdone⟩ := isUpdate_iff.mp h
  obtain ⟨path', likes', n', hdone'⟩ := isUpdate_iff.mp h'
  have hissued := hlaw.2.2
  rw [show en.op = .updatePost path likes n from (Sigma.mk.inj hdone).1] at hissued
  obtain ⟨like, data, props, docs, postDoc, -, -, -, -, hpath⟩ := hissued
  have hmem : en'.done ∈ pathOf en.call log := mem_pathOf.mpr ⟨en', hen, hcall, rfl⟩
  rw [hpath, hdone'] at hmem
  simp at hmem

/-- The calls that have committed an update, with their requests, newest first. -/
def updaters (log : Log) : List (ℕ × Request) :=
  (log.filter isUpdate).map fun en => (en.call, en.req)

lemma nodup_updaters {log : Log} (hlaw : LawfulLog P pub.store log) :
    ((updaters log).map Prod.fst).Nodup := by
  induction log with
  | nil => exact List.nodup_nil
  | cons en log ih =>
      have ih := ih hlaw.1
      rw [updaters, List.filter_cons]
      split
      · rename_i h
        simp only [List.map_cons, List.nodup_cons]
        refine ⟨?_, ih⟩
        simp only [List.mem_map, List.mem_filter]
        rintro ⟨_, ⟨en', ⟨hen, h'⟩, rfl⟩, hcall⟩
        exact not_update_before hlaw h en' hen h' hcall
      · exact ih

lemma committed_perm_updaters (log : Log) :
    (committed log).Perm ((updaters log).map Prod.snd) := by
  rw [committed, updaters, List.map_map]
  exact List.reverse_perm _

/-- A `like` or `unlike` call answered with anything but `null` has committed an update. -/
lemma Answered.updated {like : Bool} {data v : Value} {path : Path Op Op.Res}
    (h : Answered (.toggle like data) path (.ok v)) (hv : v ≠ .null) :
    ∃ postPath likes likesCount, ⟨.updatePost postPath likes likesCount, .ok ()⟩ ∈ path := by
  generalize hreq : Request.toggle like data = req at h
  generalize hreply : (.ok v : Reply) = reply at h
  cases h with
  | found => cases like <;> simp [Request.toggle] at hreq
  | registered => cases like <;> simp [Request.toggle] at hreq
  | posted => cases like <;> simp [Request.toggle] at hreq
  | counted => exact ⟨_, _, _, List.mem_cons_self⟩
  | failed hnull => exact absurd (hreply ▸ hnull) (not_failed hv)

namespace LikeRun

variable (r : LikeRun P pub)

lemma onPost : OnPost pub r.val.final.log := by
  intro en hen
  obtain ⟨p, hp⟩ := r.val.coherent.logged en hen
  exact r.property en.req (invoked_of_mem_calls r.val.ran (List.mem_of_getElem? hp))

/-- When all calls have returned, the committed updates are those of all calls. -/
lemma updaters_perm (hreturned : r.Returned) :
    (updaters r.val.final.log).Perm (r.val.final.calls.zipIdx.map fun x => (x.2, x.1.1)) := by
  have hcoherent := r.val.coherent
  refine (List.perm_ext_iff_of_nodup (List.Nodup.of_map _ (nodup_updaters hcoherent.lawful))
    (List.Nodup.of_map Prod.fst ?_)).mpr ?_
  · have hcalls : ((r.val.final.calls.zipIdx.map fun x => (x.2, x.1.1)).map Prod.fst) =
        List.range' 0 r.val.final.calls.length := by
      rw [List.map_map]
      exact List.zipIdx_map_snd 0 r.val.final.calls
    exact hcalls ▸ List.nodup_range'
  rintro ⟨c, req⟩
  simp only [updaters, List.mem_map, List.mem_filter, Prod.mk.injEq]
  constructor
  · rintro ⟨en, ⟨hen, -⟩, rfl, rfl⟩
    obtain ⟨p, hp⟩ := hcoherent.logged en hen
    exact ⟨((en.req, p), en.call), List.mem_zipIdx_iff_getElem?.mpr hp, rfl, rfl⟩
  · rintro ⟨⟨⟨req, p⟩, c⟩, hmem, rfl, rfl⟩
    have hc := List.mem_zipIdx_iff_getElem?.mp hmem
    obtain ⟨v, rfl, hv⟩ := hreturned req p (List.mem_of_getElem? hc)
    obtain ⟨call, rfl⟩ :=
      r.property req (invoked_of_mem_calls r.val.ran (List.mem_of_getElem? hc))
    obtain ⟨path, likes, n, hupdate⟩ := (hcoherent.obeys c _ _ hc : Answered _ _ _).updated hv
    obtain ⟨en, hen, hcall, hdone⟩ := mem_pathOf.mp hupdate
    have hreq := hcoherent.req_eq hen (hcall ▸ hc)
    exact ⟨en, ⟨hen, isUpdate_iff.mpr ⟨path, likes, n, hdone⟩⟩, hcall, hreq⟩

end LikeRun

/-- **Serializability.**  For a post that nobody has liked yet, any number of `like` and `unlike`
calls on it and any interleaving of their operations: if every committed update is carried out on
the pair that its call had read, then, once all calls have returned, the post is as the same calls
leave it one at a time in some order. -/
theorem likes_serializable (r : LikeRun P pub)
    (hread : ∀ en older, en :: older <:+ r.val.final.log → OverwritesOwnRead pub en older)
    (hreturned : r.Returned) : r.Serializable := by
  have hcalls : (r.val.final.calls.zipIdx.map fun x => (x.2, x.1.1)).map Prod.snd =
      r.val.final.calls.map Prod.fst := by
    rw [List.map_map, ← congrArg (List.map Prod.fst) (List.zipIdx_map_fst 0 r.val.final.calls),
      List.map_map]
    rfl
  have hperm : (committed r.val.final.log).Perm (r.val.final.calls.map Prod.fst) :=
    (committed_perm_updaters _).trans (hcalls ▸ (r.updaters_perm hreturned).map Prod.snd)
  have hstore : serveAll P pub (committed r.val.final.log) = r.val.final.store :=
    (storeAfter_eq_serveAll r.val.coherent.lawful r.onPost hread).symm.trans
      r.val.coherent.store_eq.symm
  exact ⟨committed r.val.final.log, hperm, congrArg pub.pair hstore⟩

/-! ## Two likes that overlap -/

/-- The pair that the call read last, if it read the post last. -/
def lastRead (c : ℕ) (log : Log) : Option (List DocumentReference × ℤ) :=
  match pathOf c log with
  | ⟨.getPost _, .ok (some postDoc)⟩ :: _ => some (postDoc.likes, postDoc.likesCount)
  | _ => none

/-- Is every committed update carried out on the pair that its call read last? -/
def overwritesOwnReads (pub : Published) : Log → Bool
  | [] => true
  | en :: log =>
      (!isUpdate en || pub.pair (storeAfter pub.store log) == lastRead en.call log) &&
        overwritesOwnReads pub log

lemma CommitsToggle.lastRead_eq {en : LogEntry} {older : Log} {like : Bool}
    {ref : DocumentReference} {postDoc : PostDoc} (h : CommitsToggle en older like ref postDoc) :
    lastRead en.call older = some (postDoc.likes, postDoc.likesCount) := by
  obtain ⟨data, path, likes, n, q, docs, -, -, hpath, -⟩ := h
  simp only [lastRead, hpath]

lemma overwritesOwnRead_of_checked {log : Log} (h : overwritesOwnReads pub log = true) :
    ∀ en older, en :: older <:+ log → OverwritesOwnRead pub en older := by
  induction log with
  | nil =>
      intro en older hs
      simp at hs
  | cons en' log ih =>
      simp only [overwritesOwnReads, Bool.and_eq_true, Bool.or_eq_true, Bool.not_eq_true',
        beq_iff_eq] at h
      intro en older hs
      rcases List.suffix_cons_iff.mp hs with heq | hs
      · obtain ⟨rfl, rfl⟩ := List.cons.inj heq
        intro like ref postDoc hcommits
        obtain ⟨data, path, likes, n, q, docs, -, hdone, -⟩ := id hcommits
        have hupdate : isUpdate en = true := isUpdate_iff.mpr ⟨_, _, _, hdone⟩
        have hread := h.1.resolve_left (by simp [hupdate])
        exact hread.trans hcommits.lastRead_eq
      · exact ih h.2 en older hs

/-- A `like` under a username on the post of `twoUsers`. -/
def likeRequest (username : String) : Request := .like (likeData username idA)

/-- One operation of a call. -/
def next (c : ℕ) : ServerEvent := .advance c (.commit idA)

/-- Two likes overlap, but the second reads the post only after the first has updated it. -/
def likesInTurn : LikeRun .plain twoUsers where
  val := .ofEvents _ [.invoke (likeRequest "ada"), .invoke (likeRequest "bob"), next 0, next 1,
    next 0, next 0, next 1, next 1] (by rfl)
  property := by
    intro req hreq
    obtain rfl | rfl : req = likeRequest "ada" ∨ req = likeRequest "bob" := by
      simpa [Execution.ofEvents, next] using hreq
    · exact ⟨.of true "ada" idA, rfl⟩
    · exact ⟨.of true "bob" idA, rfl⟩

theorem likesInTurn_serializable : likesInTurn.Serializable := by
  refine likes_serializable likesInTurn (overwritesOwnRead_of_checked (by rfl)) ?_
  have hcalls : likesInTurn.val.final.calls =
      [(likeRequest "ada", .ret (.ok (.number 1))),
        (likeRequest "bob", .ret (.ok (.number 2)))] := by rfl
  intro req p hmem
  simp only [hcalls, List.mem_cons, Prod.mk.injEq, List.not_mem_nil, or_false] at hmem
  rcases hmem with ⟨-, rfl⟩ | ⟨-, rfl⟩
  · exact ⟨.number 1, rfl, by simp⟩
  · exact ⟨.number 2, rfl, by simp⟩

/-- Both calls read the post before either updates it. -/
def overlappingLikes : LikeRun .plain twoUsers where
  val := .ofEvents _ [.invoke (likeRequest "ada"), .invoke (likeRequest "bob"), next 0, next 0,
    next 1, next 1, next 0, next 1] (by rfl)
  property := by
    intro req hreq
    obtain rfl | rfl : req = likeRequest "ada" ∨ req = likeRequest "bob" := by
      simpa [Execution.ofEvents, next] using hreq
    · exact ⟨.of true "ada" idA, rfl⟩
    · exact ⟨.of true "bob" idA, rfl⟩

/-- Of two overlapping likes, one is lost. -/
theorem like_lost : ¬ ∀ pub (r : LikeRun .plain pub), r.Returned → r.Serializable := by
  intro h
  have hcalls : overlappingLikes.val.final.calls =
      [(likeRequest "ada", .ret (.ok (.number 1))),
        (likeRequest "bob", .ret (.ok (.number 1)))] := by rfl
  have hreturned : overlappingLikes.Returned := by
    intro req p hmem
    simp only [hcalls, List.mem_cons, Prod.mk.injEq, List.not_mem_nil, or_false] at hmem
    rcases hmem with ⟨-, rfl⟩ | ⟨-, rfl⟩ <;> exact ⟨.number 1, rfl, by simp⟩
  obtain ⟨order, hperm, hpair⟩ := h twoUsers overlappingLikes hreturned
  rw [hcalls] at hperm
  have hfinal : (twoUsers.pair overlappingLikes.val.final.store).map Prod.snd = some 1 := by rfl
  -- In either order the two calls count to two.
  have hserved : (twoUsers.pair (serveAll .plain twoUsers order)).map Prod.snd = some 2 := by
    obtain ⟨x, y, rfl⟩ := List.length_eq_two.mp hperm.length_eq
    have hx : x ∈ [likeRequest "ada", likeRequest "bob"] := hperm.mem_iff.mp (by simp)
    have hy : y ∈ [likeRequest "ada", likeRequest "bob"] := hperm.mem_iff.mp (by simp)
    simp only [List.mem_cons, List.not_mem_nil, or_false] at hx hy
    rcases hx with rfl | rfl <;> rcases hy with rfl | rfl <;> rfl
  rw [hpair, hfinal] at hserved
  simp at hserved

end Whix
