import Whix.Properties.FeedCell
import Whix.Properties.PostInvariants

/-!
# Rendering a stored post

The cell casts and unwraps what another program has stored.  `post` stores whatever it is sent
under `contenturl`, and the cell takes it for the text of a storage reference.  And when the fetch
of the author fails, the completion prints the error and goes on to unwrap the snapshot.

`post_rendered_iff` says that there is nothing else: the cell renders a post whose author has an
account without a trap if and only if `contenturl` was a text that leads to a storage object and
the fetch of the author does not fail.
-/

namespace Whix

open Js Runs Prog Interleaving

variable {P : Platform} {Data Image : Type} {F : CellPlatform Data Image}

/-- The document was committed by a call of `post` with these data. -/
def PostedWith (r : ServerRun P .empty) (doc : QueryDocumentSnapshot) (data : Value) : Prop :=
  ∃ en ∈ r.final.log, (∃ now, en.req = .post now data) ∧
    en.done = ⟨.addPost doc.data, .ok doc.documentID⟩

/-- What the fetch of a user document can deliver: an error, or the snapshot of what is stored
there. -/
def Fetches (s : Store) (ref : DocumentReference) : UserFetch → Prop
  | .error => True
  | .missing => ∀ id, ref = userRef (some id) → s.users.get? id = none
  | .snapshot user => ∃ id, ref = userRef (some id) ∧ s.users.get? id = some user

/-- The event is a completion of what `configure(with:)` has started, with the author under `ref`,
or a display event. -/
def Completes (s : Store) (ref : DocumentReference) : CellEvent Data → Prop
  | .userFetched _ outcome => Fetches s ref outcome
  | .avatarLoaded _ | .downloaded .. | .willDisplay | .didEndDisplaying => True
  | .configure .. | .itemDidPlayToEnd _ => False

/-- The event is a failed fetch of a user document. -/
def CellEvent.FailsFetch : CellEvent Data → Prop
  | .userFetched _ .error => True
  | _ => False

/-- What was sent under `contenturl` is a text that leads to a storage object. -/
def SendsReference (F : CellPlatform Data Image) (data : Value) : Prop :=
  ∃ contentUrl, data.member "contenturl" = .ok (.string contentUrl) ∧
    F.isReference contentUrl = true

/-! ## What was stored -/

/-- `post` stores what it is sent. -/
lemma PostedWith.content {r : ServerRun P .empty} {doc : QueryDocumentSnapshot} {data : Value}
    (h : PostedWith r doc data) : data.member "contenturl" = .ok doc.data.content := by
  obtain ⟨en, hmem, ⟨now, hreq⟩, hdone⟩ := h
  obtain ⟨newer, older, hlog⟩ := List.append_of_mem hmem
  have hlaw : LawfulLog P .empty (newer ++ en :: older) := hlog ▸ r.coherent.lawful
  obtain ⟨now', data', props, docs, locationid, hreq', hprops, -, -, hdoc, -⟩ :=
    justified_of_done (hlaw.of_suffix ⟨newer, rfl⟩) hdone
  obtain ⟨-, rfl⟩ := Request.post.inj (hreq.symm.trans hreq')
  rw [hprops, hdoc]

lemma PostedWith.sendsReference_iff {r : ServerRun P .empty} {doc : QueryDocumentSnapshot}
    {data : Value} (h : PostedWith r doc data) :
    SendsReference F data ↔
      ∃ contentUrl, doc.data.content = .string contentUrl ∧ F.isReference contentUrl = true := by
  refine exists_congr fun contentUrl => and_congr_left fun _ => ?_
  rw [h.content, Except.ok.injEq]

/-! ## What can trap -/

section Step

variable {c t : Cell Data Image}

/-- Of the completions only the one of a failed fetch traps. -/
lemma completion_trapped_iff {s : Store} {ref : DocumentReference} {e : CellEvent Data}
    (hauthor : NamesAccount s.users ref) (he : Completes s ref e)
    (hstep : cellStep F c e = some t) : t.trapped = false ↔ ¬e.FailsFetch := by
  obtain ⟨htrapped, heffect⟩ := cell_effect hstep
  cases heffect with
  | configure => exact he.elim
  | @userFetched i outcome doc hdoc =>
      cases outcome with
      | error => exact iff_of_false (by simp [Cell.onUser, Cell.trap]) (not_not_intro trivial)
      | missing =>
          obtain ⟨id, user, href, hget⟩ := hauthor
          have hnone := he id href
          rw [hget] at hnone
          simp at hnone
      | snapshot user => exact iff_of_true htrapped not_false
  | @avatarLoaded success picture hpicture =>
      cases success <;> exact iff_of_true htrapped not_false
  | downloaded hdownload =>
      rw [Cell.onDownload_trapped]
      exact iff_of_true htrapped not_false
  | willDisplay => exact iff_of_true htrapped not_false
  | didEndDisplaying => exact iff_of_true htrapped not_false
  | itemDidPlayToEnd => exact he.elim

end Step

/-- A run of completions ends without a trap if it began without one and no fetch failed. -/
lemma completions_trapped_iff {s : Store} {ref : DocumentReference} {c t : Cell Data Image}
    {es : List (CellEvent Data)} (hauthor : NamesAccount s.users ref)
    (hes : ∀ e ∈ es, Completes s ref e) (h : run (cellStep F) c es = some t) :
    t.trapped = false ↔ c.trapped = false ∧ ∀ e ∈ es, ¬e.FailsFetch := by
  refine history_run (J := fun es t => t.trapped = false ↔
    c.trapped = false ∧ ∀ e ∈ es, ¬e.FailsFetch) (by simp) ?_ h
  intro pre e u u' hpre hu hstep
  have huntrapped := hu.mp (cell_effect hstep).1
  have he := hes e (hpre.subset (by simp))
  rw [completion_trapped_iff hauthor he hstep, List.forall_mem_append,
    List.forall_mem_singleton, ← and_assoc, and_iff_right huntrapped]

/-- **Rendering a stored post, exactly.**  A cell is configured with a document that a call of
`post` has committed and whose author has an account, and completions and display events follow in
any order.  Nothing traps if and only if the call was sent a text that leads to a storage object,
and no fetch of the author fails. -/
theorem post_rendered_iff {r : ServerRun P .empty} {doc : QueryDocumentSnapshot} {data : Value}
    (hposted : PostedWith r doc data)
    (hauthor : NamesAccount r.final.store.users doc.data.userid) {c t : Cell Data Image}
    {cached : Option Data} {es : List (CellEvent Data)}
    (hes : ∀ e ∈ es, Completes r.final.store doc.data.userid e)
    (h : run (cellStep F) c (.configure doc cached :: es) = some t) :
    Always (cellStep F) (fun c => c.trapped = false) c (.configure doc cached :: es) ↔
      SendsReference F data ∧ ∀ e ∈ es, ¬e.FailsFetch := by
  obtain ⟨htrapped, hrun⟩ := run_configure h
  rw [always_iff_last (fun _ _ _ hstep => (cell_effect hstep).1) h, hposted.sendsReference_iff,
    completions_trapped_iff hauthor hes hrun, c.configure_trapped_iff F htrapped]

/-! ## A fetch that fails -/

/-- Ada registers and posts a photo. -/
def adaPosted : ServerRun .plain .empty :=
  .ofEvents _
    [.invoke (.login (loginData "ada@whix.io" "ada")), .advance 0 (.commit idA),
      .advance 0 (.commit idA), .advance 0 (.commit idA), .advance 0 (.commit idA),
      .invoke (.post 0 (postData "gs://whix-app.appspot.com/a.jpg" "ada" 0 0)),
      .advance 1 (.commit idB), .advance 1 (.commit idB)]
    (by decide)

/-- Her post. -/
def adaPost : QueryDocumentSnapshot := photoPost idB "gs://whix-app.appspot.com/a.jpg" idA

lemma postedWith_adaPosted :
    PostedWith adaPosted adaPost (postData "gs://whix-app.appspot.com/a.jpg" "ada" 0 0) :=
  ⟨_, List.mem_of_mem_head? rfl, ⟨0, rfl⟩, rfl⟩

lemma adaPosted_user :
    adaPosted.final.store.users.get? idA = some (account .plain "ada@whix.io" "ada") := by rfl

/-- Her post is rendered when her user document arrives. -/
def rendered : Execution (cellStep .plain) Cell.start :=
  .ofEvents _
    [.configure adaPost none, .userFetched 0 (.snapshot (account .plain "ada@whix.io" "ada"))] rfl

/-- Her post is not rendered when the fetch of her document fails. -/
def fetchFailed : Execution (cellStep .plain) Cell.start :=
  .ofEvents _ [.configure adaPost none, .userFetched 0 .error] rfl

theorem ada_post_rendered :
    Always (cellStep .plain) (fun c => c.trapped = false) Cell.start rendered.events := by
  have hes : ∀ e ∈ [(CellEvent.userFetched 0 (.snapshot (account .plain "ada@whix.io" "ada")) :
      CellEvent (List UInt8))], Completes adaPosted.final.store adaPost.data.userid e :=
    List.forall_mem_singleton.mpr ⟨idA, rfl, adaPosted_user⟩
  have hrendered :=
    post_rendered_iff postedWith_adaPosted ⟨idA, _, rfl, adaPosted_user⟩ hes rendered.ran
  exact hrendered.mpr ⟨⟨_, rfl, rfl⟩, List.forall_mem_singleton.mpr not_false⟩

/-- The snapshot that did not come is unwrapped all the same. -/
theorem post_not_rendered :
    ¬ ∀ (r : ServerRun .plain .empty) (doc : QueryDocumentSnapshot) (data : Value)
      (c t : Cell (List UInt8) (List UInt8)) (cached : Option (List UInt8))
      (es : List (CellEvent (List UInt8))), PostedWith r doc data →
      NamesAccount r.final.store.users doc.data.userid →
      (∀ e ∈ es, Completes r.final.store doc.data.userid e) →
      run (cellStep .plain) c (.configure doc cached :: es) = some t →
      Always (cellStep .plain) (fun c => c.trapped = false) c (.configure doc cached :: es) := by
  intro h
  have huntrapped := h adaPosted adaPost _ Cell.start fetchFailed.final none
    [.userFetched 0 .error] postedWith_adaPosted ⟨idA, _, rfl, adaPosted_user⟩
    (List.forall_mem_singleton.mpr trivial) fetchFailed.ran
  have htrapped : fetchFailed.final.trapped = true := rfl
  rw [huntrapped.last fetchFailed.ran] at htrapped
  simp at htrapped

end Whix
