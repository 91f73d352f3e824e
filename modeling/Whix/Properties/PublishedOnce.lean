import Whix.Properties.PhoneCalls
import Whix.Properties.PostSoundness

/-!
# Published once

From the phones to the store.  The Next button of an edit screen stays disabled once it has been
tapped, an upload makes one call at most, and the backend makes one post at most of a call: however
the phones and the calls are interleaved, whatever fails and whichever replies are lost, a capture
is published once at most, and every post is that of one call (`published_once`).

`networkJournal` keeps the uploads that have completed on the phones, which no step reads.
-/

namespace Whix

open Js Prog Interleaving Runs

variable {P : Platform} {W : Char → Bool} {s₀ : Store}

/-- The upload that an event completes, with its phone. -/
def Network.completes (n : Network) : NetworkEvent → List (ℕ × Completed)
  | .phone i e _ => ((n.phones[i]?).bind fun p => p.device.completes e).toList.map (Prod.mk i)
  | _ => []

/-- The uploads completed so far, newest first. -/
def networkJournal (n : Network) (done : List (ℕ × Completed)) (ev : NetworkEvent) (_ : Network) :
    List (ℕ × Completed) :=
  n.completes ev ++ done

/-- The completed uploads of an edit screen on a phone. -/
def uploadsOn (i edit : ℕ) (done : List (ℕ × Completed)) : List Completed :=
  uploadsOf edit ((done.filter (·.1 = i)).map Prod.snd)

/-- The posts of the store, the calls of the phones and the uploads behind them. -/
structure PublishedOnce (P : Platform) (s₀ : Store) (n : Network) (done : List (ℕ × Completed)) :
    Prop where
  /-- A post that was not there at the beginning is the answer of one call. -/
  origin : ∀ id doc, s₀.post.get? id = none → n.server.store.post.get? id = some doc →
    ∃! c, ∃ caller now data, n.callers[c]? = some caller ∧ PostedAs n.server c id now data
  /-- What has been posted for a phone has the URL of the one upload that its edit screen has
  completed, and for the rest says what the call was told. -/
  made : ∀ (c i : ℕ) task id now data, n.callers[c]? = some (.post i task) →
    PostedAs n.server c id now data → ∃ doc x, n.server.store.post.get? id = some doc ∧
      uploadsOn i task.edit done = [x] ∧ doc.content = .string x.metadata.contentUrl ∧
      doc.MadeFor P s₀ n.server c now
        (postData x.metadata.contentUrl task.username task.lat task.lon)
  /-- An edit screen makes one call. -/
  once : ∀ (c c' i : ℕ) task task', n.callers[c]? = some (.post i task) →
    n.callers[c']? = some (.post i task') → task.edit = task'.edit → c = c'

/-! ## One step -/

section Step

variable {n n' : Network} {ev : NetworkEvent}

lemma completes_phone {i : ℕ} {p : Phone} (hp : n.phones[i]? = some p) (e : DeviceEvent)
    (now : Timestamp) :
    n.completes (.phone i e now) = (p.device.completes e).toList.map (Prod.mk i) := by
  rw [Network.completes, hp, Option.bind_some]

lemma uploadsOn_append (i edit : ℕ) (done done' : List (ℕ × Completed)) :
    uploadsOn i edit (done ++ done') = uploadsOn i edit done ++ uploadsOn i edit done' := by
  rw [uploadsOn, List.filter_append, List.map_append, uploadsOf_append]
  rfl

lemma uploadsOn_map_self (i edit : ℕ) (done : List Completed) :
    uploadsOn i edit (done.map (Prod.mk i)) = uploadsOf edit done := by
  simp [uploadsOn, List.filter_map, Function.comp_def]

lemma uploadsOn_map_of_ne {i j : ℕ} (h : i ≠ j) (edit : ℕ) (done : List Completed) :
    uploadsOn j edit (done.map (Prod.mk i)) = [] := by
  simp [uploadsOn, List.filter_map, Function.comp_def, h, uploadsOf]

/-- The calls after a step: at most one is new, and a `post` call is that of an upload which
completes on its phone. -/
lemma callers_cases (heffect : NetworkEffect P W n ev n') :
    n'.callers = n.callers ∨ ∃ caller, n'.callers = n.callers ++ [caller] ∧
      ∀ i task, caller = .post i task → ∃ x, n.completes ev = [(i, x)] ∧
        task.edit = x.upload.edit ∧ task.contenturl = x.metadata.contentUrl := by
  cases heffect with
  | @onPhone i p e d now hp hphone hstep =>
      rcases onPhone_cases n i now hstep hphone (P := P) with ⟨-, -, heq⟩ |
        ⟨task, -, -, -, heq⟩ | ⟨task, posts, hpost, -, heq⟩
      · exact .inl (by rw [heq]; rfl)
      · exact .inr ⟨_, by rw [heq]; rfl, by simp⟩
      · refine .inr ⟨.post i task, by rw [heq]; rfl, ?_⟩
        rintro _ _ ⟨rfl, rfl⟩
        rcases posts_cases hstep with hsub | ⟨x, post, hx, hedit, hurl, hposts, -⟩
        · rw [newPost_of_sublist hsub] at hpost
          simp at hpost
        · rw [newPost_of_append hposts] at hpost
          obtain rfl := Option.some.inj hpost
          exact ⟨x, by rw [completes_phone hp, hx]; rfl, hedit, hurl⟩
  | other req => exact .inr ⟨.other, rfl, by simp⟩
  | _ => exact .inl rfl

end Step

/-! ## Whole runs -/

/-- Of each edit screen of every phone one thing has been made at most. -/
structure Worked (made : ℕ → ℕ → ℕ) (n : Network) : Prop where
  once : ∀ (i : ℕ) p, n.phones[i]? = some p → Once (made i) p.device
  absent : ∀ i edit, n.phones[i]? = none → made i edit = 0

section Worked

variable {n n' : Network} {ev : NetworkEvent} {made made' : ℕ → ℕ → ℕ}

lemma worked_launch (phones : ℕ) (hmade : ∀ i edit, made i edit = 0) :
    Worked made (.launch phones s₀) where
  once i p hp := by
    obtain rfl : p = .launch := (List.mem_replicate.mp (List.mem_of_getElem? hp)).2
    exact once_launch .empty (hmade i)
  absent i edit _ := hmade i edit

lemma Worked.le_one (h : Worked made n) (i edit : ℕ) : made i edit ≤ 1 := by
  cases hp : n.phones[i]? with
  | none => exact (h.absent i edit hp).le.trans (Nat.zero_le 1)
  | some p => exact (Nat.le_add_right _ _).trans ((h.once i p hp).le_one edit)

/-- Something has happened on the phone at `i`, and on no other. -/
lemma Worked.of_phone (h : Worked made n) {i : ℕ} {p p' : Phone} (hp : n.phones[i]? = some p)
    (hphones : n'.phones = n.phones.set i p') (honce : Once (made' i) p'.device)
    (hmade : ∀ j edit, j ≠ i → made' j edit ≤ made j edit) : Worked made' n' where
  once j q hq := by
    by_cases hj : j = i
    · subst hj
      rw [hphones, List.getElem?_set_self (List.getElem?_eq_some_iff.mp hp).1,
        Option.some.injEq] at hq
      exact hq ▸ honce
    · rw [hphones, List.getElem?_set_ne (Ne.symm hj)] at hq
      exact (h.once j q hq).mono fun edit => hmade j edit hj
  absent j edit hj := by
    have hne : j ≠ i := by
      rintro rfl
      rw [hphones, List.getElem?_set_self (List.getElem?_eq_some_iff.mp hp).1] at hj
      simp at hj
    rw [hphones, List.getElem?_set_ne hne.symm] at hj
    exact Nat.le_zero.mp ((hmade j edit hne).trans (h.absent j edit hj).le)

/-- Whatever is made of the uploads that complete is made once for an edit screen. -/
lemma Worked.step (h : Worked made n) (heffect : NetworkEffect P W n ev n')
    (hmade : ∀ i edit,
      made' i edit ≤ made i edit + (uploadsOn i edit (n.completes ev)).length) :
    Worked made' n' := by
  cases heffect with
  | @onPhone i p e d now hp hphone hstep =>
      have honce : Once (made' i) d := (h.once i p hp).step hstep fun edit => by
        simpa [completes_phone hp, uploadsOn_map_self, Device.completing] using hmade i edit
      have hother (j edit : ℕ) (hj : j ≠ i) : made' j edit ≤ made j edit := by
        simpa [completes_phone hp, uploadsOn_map_of_ne hj.symm] using hmade j edit
      rcases onPhone_cases n i now hstep hphone (P := P) with ⟨-, -, heq⟩ |
        ⟨task, -, -, -, heq⟩ | ⟨task, posts, -, -, heq⟩
      · exact heq ▸ h.of_phone hp rfl honce hother
      · exact heq ▸ h.of_phone hp rfl honce hother
      · exact heq ▸ h.of_phone hp rfl honce hother
  | @loginAnswered i j p task c reply hp htask hc hreply =>
      have honce := (h.once i p hp).mono (hmade i)
      exact h.of_phone hp rfl ⟨honce.le_one, honce.disabled⟩ fun j edit _ => hmade j edit
  | @postAnswered i k p d reply hp hstep =>
      exact h.of_phone hp rfl ((h.once i p hp).step hstep (hmade i)) fun j edit _ => hmade j edit
  | advance hserver hcalls => exact ⟨fun i p hp => (h.once i p hp).mono (hmade i),
      fun i edit hi => Nat.le_zero.mp ((hmade i edit).trans (h.absent i edit hi).le)⟩
  | other req => exact ⟨fun i p hp => (h.once i p hp).mono (hmade i),
      fun i edit hi => Nat.le_zero.mp ((hmade i edit).trans (h.absent i edit hi).le)⟩

end Worked

/-- Is it a call of the edit screen on the phone? -/
def Caller.isPostOf (i edit : ℕ) : Caller → Bool
  | .post j task => j = i && task.edit = edit
  | _ => false

/-- The calls that an edit screen of the phone has made. -/
def Network.made (n : Network) (i edit : ℕ) : ℕ := n.callers.countP (Caller.isPostOf i edit)

/-- What is known of the calls and the uploads: each edit screen has made one call at most and
completed one upload at most, and a call has the URL of an upload of its edit screen. -/
structure Ledger (P : Platform) (s₀ : Store) (n : Network) (done : List (ℕ × Completed)) :
    Prop where
  serving : Serving P s₀ n
  calls : Worked n.made n
  uploads : Worked (fun i edit => (uploadsOn i edit done).length) n
  told : ∀ (c i : ℕ) task, n.callers[c]? = some (.post i task) →
    ∃ x ∈ uploadsOn i task.edit done, task.contenturl = x.metadata.contentUrl

section Ledger

variable {n n' : Network} {ev : NetworkEvent} {done : List (ℕ × Completed)}

lemma ledger_launch (phones : ℕ) : Ledger P s₀ (.launch phones s₀) [] where
  serving := serving_launch phones
  calls := worked_launch phones fun _ _ => rfl
  uploads := worked_launch phones fun _ _ => rfl
  told c i task h := by simp [Network.launch] at h

/-- A call is made of an upload that completes. -/
lemma made_le (heffect : NetworkEffect P W n ev n') (i edit : ℕ) :
    n'.made i edit ≤ n.made i edit + (uploadsOn i edit (n.completes ev)).length := by
  rcases callers_cases heffect with hcallers | ⟨caller, hcallers, hpost⟩
  · rw [Network.made, hcallers]
    exact Nat.le_add_right _ _
  · rw [Network.made, hcallers, List.countP_append, List.countP_singleton]
    refine Nat.add_le_add_left ?_ _
    split
    · rename_i hof
      cases caller with
      | post j task =>
          simp only [Caller.isPostOf, Bool.and_eq_true, decide_eq_true_eq] at hof
          obtain ⟨rfl, rfl⟩ := hof
          obtain ⟨x, hx, hedit, -⟩ := hpost j task rfl
          simp [hx, uploadsOn, uploadsOf, hedit]
      | _ => simp [Caller.isPostOf] at hof
    · exact Nat.zero_le _

lemma Ledger.step (h : Ledger P s₀ n done) (heffect : NetworkEffect P W n ev n') :
    Ledger P s₀ n' (networkJournal n done ev n') where
  serving := h.serving.step heffect
  calls := h.calls.step heffect (made_le heffect)
  uploads := h.uploads.step heffect fun i edit => by
    rw [networkJournal, uploadsOn_append, List.length_append, Nat.add_comm]
  told c i task hc := by
    rw [networkJournal, uploadsOn_append]
    have hold (hc : n.callers[c]? = some (.post i task)) :
        ∃ x ∈ uploadsOn i task.edit (n.completes ev) ++ uploadsOn i task.edit done,
          task.contenturl = x.metadata.contentUrl := by
      obtain ⟨x, hx, hurl⟩ := h.told c i task hc
      exact ⟨x, List.mem_append_right _ hx, hurl⟩
    rcases callers_cases heffect with hcallers | ⟨caller, hcallers, hpost⟩
    · exact hold (hcallers ▸ hc)
    · rw [hcallers] at hc
      rcases Nat.lt_or_ge c n.callers.length with hlt | hge
      · exact hold (by rwa [List.getElem?_append_left hlt] at hc)
      · rw [List.getElem?_append_right hge] at hc
        obtain ⟨x, hx, hedit, hurl⟩ :=
          hpost i task (List.mem_singleton.mp (List.mem_of_getElem? hc)).symm
        refine ⟨x, List.mem_append_left _ ?_, hurl⟩
        simp [hx, uploadsOn, uploadsOf, hedit]

/-- Behind a call is the one upload of its edit screen. -/
lemma Ledger.upload (h : Ledger P s₀ n done) {c i : ℕ} {task : PostTask}
    (hc : n.callers[c]? = some (.post i task)) :
    ∃ x, uploadsOn i task.edit done = [x] ∧ task.contenturl = x.metadata.contentUrl := by
  obtain ⟨x, hx, hurl⟩ := h.told c i task hc
  have hle := h.uploads.le_one i task.edit
  obtain ⟨y, hy⟩ := List.length_eq_one_iff.mp (le_antisymm hle (List.length_pos_of_mem hx))
  rw [hy, List.mem_singleton] at hx
  exact ⟨y, hy, hx ▸ hurl⟩

end Ledger

/-- What occurs once at most occurs at one index. -/
lemma index_unique {l : List Caller} {q : Caller → Bool} (hle : l.countP q ≤ 1) {c c' : ℕ}
    {x y : Caller} (hx : l[c]? = some x) (hqx : q x = true) (hy : l[c']? = some y)
    (hqy : q y = true) : c = c' := by
  induction l generalizing c c' with
  | nil => simp at hx
  | cons a l ih =>
      have hrest {k : ℕ} {z : Caller} (hz : l[k]? = some z) (hqz : q z = true) :
          0 < l.countP q := List.countP_pos_iff.mpr ⟨z, List.mem_of_getElem? hz, hqz⟩
      rw [List.countP_cons] at hle
      cases c with
      | zero =>
          cases c' with
          | zero => rfl
          | succ c' =>
              obtain rfl := Option.some.inj hx
              have := hrest hy hqy
              rw [if_pos hqx] at hle
              omega
      | succ c =>
          cases c' with
          | zero =>
              obtain rfl := Option.some.inj hy
              have := hrest hx hqx
              rw [if_pos hqy] at hle
              omega
          | succ c' => exact congrArg (· + 1) (ih (by omega) hx hy)

/-- Two calls of one edit screen are one call. -/
lemma Ledger.call_unique {n : Network} {done : List (ℕ × Completed)} (h : Ledger P s₀ n done)
    {c c' i : ℕ} {task task' : PostTask} (hc : n.callers[c]? = some (.post i task))
    (hc' : n.callers[c']? = some (.post i task')) (hedit : task.edit = task'.edit) : c = c' :=
  index_unique (h.calls.le_one i task.edit) hc (by simp [Caller.isPostOf]) hc'
    (by simp [Caller.isPostOf, hedit])

/-- **Published once.**  Any number of phones, the backend and calls from elsewhere, from any store
and through any order of events: every new post is the answer of exactly one call; a post made for
a phone has as its content the URL of the one upload that the edit screen has completed, and as its
author the account found under the username that was sent; and no edit screen makes a second call,
whatever fails and whichever replies are lost. -/
theorem published_once (phones : ℕ) (r : Execution (networkStep P W) (Network.launch phones s₀)) :
    (r.withHistory networkJournal []).Always fun x => PublishedOnce P s₀ x.1 x.2 := by
  rintro es _ ⟨n, done⟩ hrun
  have hledger : Ledger P s₀ n done := by
    refine invariant_run (J := fun x : Network × List (ℕ × Completed) => Ledger P s₀ x.1 x.2) ?_
      (ledger_launch phones) hrun
    rintro ⟨n, done⟩ ev _ h hstep
    obtain ⟨n', hn', rfl⟩ := Option.map_eq_some_iff.mp hstep
    exact h.step (network_effect hn')
  obtain ⟨es', hserver⟩ := hledger.serving.served
  have hrecorded : PostsRecorded P s₀ n.server :=
    postsRecorded_of_coherent (coherent_of_run handle_obeys hserver)
      (coherent_of_run handle_writesLast hserver)
  refine ⟨fun id doc hnew hdoc => ?_, fun c i task id now data hc hposted => ?_,
    fun c c' i task task' hc hc' hedit => hledger.call_unique hc hc' hedit⟩
  · obtain ⟨c, ⟨now, data, hposted⟩, hunique⟩ := hrecorded.calls id doc hnew hdoc
    have hlt : c < n.callers.length :=
      hledger.serving.length_eq ▸ (List.getElem?_eq_some_iff.mp hposted).1
    refine ⟨c, ⟨n.callers[c], now, data, List.getElem?_eq_getElem hlt, hposted⟩, ?_⟩
    rintro c' ⟨caller, now', data', -, hposted'⟩
    exact hunique c' ⟨now', data', hposted'⟩
  · obtain ⟨id', doc, hid, hdoc, hmade⟩ := hrecorded.answers c now data _ hposted (by simp)
    obtain rfl := AutoId.val_injective (Value.string.inj hid)
    obtain ⟨req, p, hcall, now', hreq⟩ := hledger.serving.asks c _ hc
    obtain ⟨rfl, -⟩ := Prod.mk.inj (Option.some.inj (hposted.symm.trans hcall))
    obtain ⟨rfl, rfl⟩ := Request.post.inj hreq
    obtain ⟨x, hx, hurl⟩ := hledger.upload hc
    rw [hurl] at hmade
    exact ⟨doc, x, hdoc, hx, (Except.ok.inj hmade.content).symm, hmade⟩

/-- Ada logs in, records a video and publishes it, and the reply is lost. -/
def replyLost :
    Execution (networkStep .plain Value.isWhiteSpace) (Network.launch 1 .empty) :=
  .ofEvents _
    ([.phone 0 (.session (.edit 0 .emailField "ada@whix.io")) 0,
        .phone 0 (.session (.edit 0 .usernameField "ada")) 0,
        .phone 0 (.session (.tapLogin 0)) 0] ++
      List.replicate 4 (.advance 0 (.commit idA)) ++
      [.loginAnswered 0 0, .phone 0 (.session (.deliver 0)) 0, .phone 0 .selectNew 0,
        .phone 0 .recordVideo 0, .phone 0 (.tapNext "0123456789") 0,
        .phone 0 (.uploaded 0 (some ⟨"whix-com.appspot.com", "0123456789.mp4"⟩)) 7,
        .advance 1 (.commit idB), .advance 1 (.commit idB), .phone 0 (.postReplied 0 none) 7])
    (by decide +kernel)

/-- The video is published, and its edit screen is still there. -/
example : replyLost.final.server.store.post.get? idB ≠ none ∧
    (replyLost.final.phones[0]?).map (·.device.screen) = some (.edit 0) := by
  decide +kernel

end Whix
