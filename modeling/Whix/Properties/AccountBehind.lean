import Whix.Properties.LoginSoundness
import Whix.Properties.PhoneCalls

/-!
# Who is logged in

What a phone stores about its user comes from the backend: `account_behind` gives the account of
everyone who is logged in on a phone, whatever happens on the other phones, in the backend and on
the way between them.
-/

namespace Whix

open Js Prog Interleaving Runs

variable {P : Platform} {W : Char → Bool} {s₀ : Store}

/-- Whoever is logged in on a phone is so by a call of that phone; what is stored is what the
backend has answered to that call, and it is the identifier of an account with the arguments of the
call. -/
def AccountBehind (n : Network) : Prop :=
  ∀ (i : ℕ) p userId, n.phones[i]? = some p →
    p.device.session.defaults.loggedInUserId = some userId →
    ∃ (c : ℕ) (task : LoginTask) (id : AutoId) (doc : UserDoc),
      n.callers[c]? = some (.login i task) ∧ n.reply? c = some (.ok (.string userId)) ∧
      userId = id.val ∧ n.server.store.users.get? id = some doc ∧
      doc.email = trimmed task.email ∧ doc.username = trimmed task.username

/-! ## What stays in the backend -/

/-- Callers and answers stay. -/
structure Extends (n n' : Network) : Prop where
  callers : ∀ (c : ℕ) caller, n.callers[c]? = some caller → n'.callers[c]? = some caller
  replies : ∀ c reply, n.reply? c = some reply → n'.reply? c = some reply

lemma Extends.trans {n n' n'' : Network} (h : Extends n n') (h' : Extends n' n'') :
    Extends n n'' where
  callers c caller hc := h'.callers c caller (h.callers c caller hc)
  replies c reply hc := h'.replies c reply (h.replies c reply hc)

lemma reply?_eq_some {n : Network} {c : ℕ} {reply : Reply} :
    n.reply? c = some reply ↔ ∃ req, n.server.calls[c]? = some (req, .ret reply) := by
  unfold Network.reply?
  split
  case h_1 req reply' hcall => simp [hcall]
  case h_2 hnot =>
    refine iff_of_false (by simp) ?_
    rintro ⟨req, hcall⟩
    exact hnot req reply hcall

section Extends

variable {n : Network}

lemma extends_call (req : Request) (caller : Caller) : Extends n (n.call P req caller) where
  callers c caller' h := by
    rw [Network.call, List.getElem?_append_left (List.getElem?_eq_some_iff.mp h).1, h]
  replies c reply h := by
    obtain ⟨req', hcall⟩ := reply?_eq_some.mp h
    exact reply?_eq_some.mpr ⟨req', Pool.invoke_kept hcall req⟩

lemma extends_advance {server : Server} {e : ServerEvent}
    (hserver : serverStep P n.server e = some server) : Extends n { n with server } where
  callers _ _ h := h
  replies c reply h := by
    obtain ⟨req, hcall⟩ := reply?_eq_some.mp h
    refine reply?_eq_some.mpr ⟨req, ?_⟩
    rcases step_cases hserver with ⟨req', -, rfl⟩ | ⟨c', env, req', o, k, -, hc', rfl⟩
    · exact Pool.invoke_kept hcall req'
    · have hne : c' ≠ c := by
        rintro rfl
        simp [hc'] at hcall
      exact (List.getElem?_set_ne hne).trans hcall

end Extends

/-! ## What a phone waits for -/

/-- The outstanding `login` calls of the phone at `i` are calls of the backend, with the answers
they have been given, and what is stored has been answered to a call of the phone. -/
structure Waits (n : Network) (i : ℕ) (p : Phone) : Prop where
  length_eq : p.logins.length = p.device.session.calls.length
  sent : ∀ (j c : ℕ), p.logins[j]? = some c → ∃ task, n.callers[c]? = some (.login i task)
  answered : ∀ (j c : ℕ) task reply, p.logins[j]? = some c →
    p.device.session.calls[j]? = some task → task.reply = some reply → n.reply? c = some reply
  stored : ∀ userId, p.device.session.defaults.loggedInUserId = some userId →
    ∃ c task, n.callers[c]? = some (.login i task) ∧ n.reply? c = some (.ok (.string userId))

section Waits

variable {n n' : Network} {i : ℕ} {p : Phone} {d : Device} {e : DeviceEvent}

lemma Waits.mono (h : Waits n i p) (hext : Extends n n') : Waits n' i p where
  length_eq := h.length_eq
  sent j c hc := by
    obtain ⟨task, htask⟩ := h.sent j c hc
    exact ⟨task, hext.callers _ _ htask⟩
  answered j c task reply hc htask hreply :=
    hext.replies _ _ (h.answered j c task reply hc htask hreply)
  stored userId hid := by
    obtain ⟨c, task, htask, hreply⟩ := h.stored userId hid
    exact ⟨c, task, hext.callers _ _ htask, hext.replies _ _ hreply⟩

/-- An event drops the same call of any two lists. -/
lemma dropLogin_getElem? (e : DeviceEvent) (j : ℕ) :
    ∃ k : ℕ, ∀ {α : Type} (calls : List α), (e.dropLogin calls)[j]? = calls[k]? := by
  have herase (i : ℕ) :
      ∃ k : ℕ, ∀ {α : Type} (calls : List α), (calls.eraseIdx i)[j]? = calls[k]? := by
    by_cases hj : j < i
    · exact ⟨j, fun calls => List.getElem?_eraseIdx_of_lt hj⟩
    · exact ⟨j + 1, fun calls => List.getElem?_eraseIdx_of_ge (Nat.not_lt.mp hj)⟩
  unfold DeviceEvent.dropLogin
  split
  · exact herase _
  · exact herase _
  · exact ⟨j, fun _ => rfl⟩

lemma dropLogin_length_eq (e : DeviceEvent) {α β : Type} {calls : List α} {waiting : List β}
    (h : waiting.length = calls.length) :
    (e.dropLogin waiting).length = (e.dropLogin calls).length := by
  unfold DeviceEvent.dropLogin
  split
  · rw [List.length_eraseIdx, List.length_eraseIdx, h]
  · rw [List.length_eraseIdx, List.length_eraseIdx, h]
  · exact h

/-- What is stored after a step has been answered to a call of the phone. -/
lemma Waits.stored_step (h : Waits n i p) (hstep : deviceStep P W p.device e = some d)
    {userId : String} (hid : d.session.defaults.loggedInUserId = some userId) :
    ∃ c task, n.callers[c]? = some (.login i task) ∧ n.reply? c = some (.ok (.string userId)) := by
  rcases stored_cases hstep hid with hid | ⟨j, task, htask, hreply⟩
  · exact h.stored userId hid
  · have hlt : j < p.logins.length := h.length_eq ▸ (List.getElem?_eq_some_iff.mp htask).1
    have hc := List.getElem?_eq_getElem hlt
    obtain ⟨sent, hsent⟩ := h.sent j _ hc
    exact ⟨_, sent, hsent, h.answered j _ task _ hc htask hreply⟩

/-- An event on the phone that makes no call. -/
lemma Waits.after (h : Waits n i p) (hstep : deviceStep P W p.device e = some d)
    (hcalls : d.session.calls = e.dropLogin p.device.session.calls) :
    Waits n i (p.after e d) where
  length_eq := (dropLogin_length_eq e h.length_eq).trans (congrArg List.length hcalls.symm)
  sent j c hc := by
    obtain ⟨k, hk⟩ := dropLogin_getElem? e j
    exact h.sent k c ((hk p.logins).symm.trans hc)
  answered j c task reply hc htask hreply := by
    obtain ⟨k, hk⟩ := dropLogin_getElem? e j
    refine h.answered k c task reply ((hk p.logins).symm.trans hc) ?_ hreply
    rw [← hk, ← hcalls]
    exact htask
  stored userId hid := h.stored_step hstep hid

/-- An event on the phone that makes a `login` call. -/
lemma Waits.calling (h : Waits n i p) (hlength : n.callers.length = n.server.calls.length)
    (hstep : deviceStep P W p.device e = some d) {task : LoginTask} (hreply : task.reply = none)
    (hcalls : d.session.calls = p.device.session.calls ++ [task]) (q : Phone) (req : Request)
    (posts : List ℕ) :
    Waits ((n.setPhone i q).call P req (.login i task)) i
      ⟨d, p.logins ++ [n.server.calls.length], posts⟩ where
  length_eq := by simp [hcalls, h.length_eq]
  sent j c hc := by
    rcases Nat.lt_or_ge j p.logins.length with hlt | hge
    · rw [List.getElem?_append_left hlt] at hc
      obtain ⟨sent, hsent⟩ := h.sent j c hc
      exact ⟨sent, (extends_call req _).callers c _ hsent⟩
    · rw [List.getElem?_append_right hge] at hc
      obtain rfl := List.mem_singleton.mp (List.mem_of_getElem? hc)
      refine ⟨task, ?_⟩
      rw [← hlength]
      exact List.getElem?_concat_length
  answered j c task' reply hc htask hreply' := by
    rw [hcalls] at htask
    rcases Nat.lt_or_ge j p.logins.length with hlt | hge
    · rw [List.getElem?_append_left hlt] at hc
      rw [List.getElem?_append_left (h.length_eq ▸ hlt)] at htask
      exact (extends_call req _).replies c _ (h.answered j c task' reply hc htask hreply')
    · rw [List.getElem?_append_right (h.length_eq ▸ hge)] at htask
      obtain rfl := List.mem_singleton.mp (List.mem_of_getElem? htask)
      rw [hreply] at hreply'
      simp at hreply'
  stored userId hid := by
    obtain ⟨c, sent, hsent, hanswer⟩ := h.stored_step hstep hid
    exact ⟨c, sent, (extends_call req _).callers c _ hsent,
      (extends_call req _).replies c _ hanswer⟩

/-- The backend's answer to one of the phone's calls. -/
lemma Waits.withReply (h : Waits n i p) {j c : ℕ} {task : LoginTask} {reply : Reply}
    (hc : p.logins[j]? = some c) (hreply : n.reply? c = some reply) :
    Waits n i (p.withReply j task reply) where
  length_eq := by simpa [Phone.withReply] using h.length_eq
  sent := h.sent
  answered k c' task' reply' hc' htask' hreply' := by
    by_cases hk : j = k
    · subst hk
      obtain rfl := Option.some.inj (hc.symm.trans hc')
      have hlt : j < p.device.session.calls.length :=
        h.length_eq ▸ (List.getElem?_eq_some_iff.mp hc).1
      rw [Phone.withReply, List.getElem?_set_self hlt, Option.some.injEq] at htask'
      subst htask'
      obtain rfl := Option.some.inj hreply'
      exact hreply
    · rw [Phone.withReply, List.getElem?_set_ne hk] at htask'
      exact h.answered k c' task' reply' hc' htask' hreply'
  stored := h.stored

end Waits

/-! ## Whole runs -/

/-- Every phone waits for calls of its own. -/
def AllWait (n : Network) : Prop := ∀ (i : ℕ) p, n.phones[i]? = some p → Waits n i p

section AllWait

variable {n n' : Network}

lemma allWait_launch (phones : ℕ) : AllWait (.launch phones s₀) := by
  intro i p hp
  obtain rfl : p = .launch := (List.mem_replicate.mp (List.mem_of_getElem? hp)).2
  have hcalls : Phone.launch.device.session.calls = [] := showTabs_calls _
  have hstored : Phone.launch.device.session.defaults.loggedInUserId = none :=
    congrArg UserDefaults.loggedInUserId (sameWork_showTabs _).defaults
  refine ⟨(congrArg List.length hcalls).symm, fun j c hc => ?_, fun j c task reply hc => ?_,
    fun userId hid => ?_⟩
  · simp [Phone.launch] at hc
  · simp [Phone.launch] at hc
  · simp [hstored] at hid

/-- Something has happened on the phone at `i`, and maybe a call has arrived. -/
lemma AllWait.of_phone (h : AllWait n) {i : ℕ} {p p' : Phone} (hp : n.phones[i]? = some p)
    (hphones : n'.phones = n.phones.set i p') (hext : Extends n n') (hwaits : Waits n' i p') :
    AllWait n' := by
  intro j q hq
  by_cases hj : j = i
  · subst hj
    rw [hphones, List.getElem?_set_self (List.getElem?_eq_some_iff.mp hp).1,
      Option.some.injEq] at hq
    exact hq ▸ hwaits
  · rw [hphones, List.getElem?_set_ne (Ne.symm hj)] at hq
    exact (h j q hq).mono hext

lemma AllWait.step {ev : NetworkEvent} (h : AllWait n)
    (hlength : n.callers.length = n.server.calls.length) (heffect : NetworkEffect P W n ev n') :
    AllWait n' := by
  have hset (i : ℕ) (p : Phone) : Extends n (n.setPhone i p) := ⟨fun _ _ h => h, fun _ _ h => h⟩
  have hcall (i : ℕ) (p : Phone) (req : Request) (caller : Caller) :
      Extends n ((n.setPhone i p).call P req caller) :=
    (hset i p).trans (extends_call req caller)
  cases heffect with
  | @onPhone i p e d now hp hphone hstep =>
      rcases onPhone_cases n i now hstep hphone (P := P) with ⟨-, hcalls, heq⟩ |
        ⟨task, hreply, -, hcalls, heq⟩ | ⟨task, posts, -, hcalls, heq⟩
      · rw [heq]
        exact h.of_phone hp rfl (hset _ _) (((h i p hp).after hstep hcalls).mono (hset _ _))
      · rw [heq]
        exact h.of_phone hp rfl (hcall _ _ _ _)
          ((h i p hp).calling hlength hstep hreply hcalls _ _ _)
      · rw [heq]
        have hafter := ((h i p hp).after hstep hcalls).mono (hcall i
          { p.after e d with posts } (.post now (postData task.contenturl task.username task.lat
            task.lon)) (.post i task))
        exact h.of_phone hp rfl (hcall _ _ _ _)
          ⟨hafter.length_eq, hafter.sent, hafter.answered, hafter.stored⟩
  | loginAnswered hp htask hc hreply =>
      exact h.of_phone hp rfl (hset _ _) (((h _ _ hp).withReply hc hreply).mono (hset _ _))
  | @postAnswered i k p d reply hp hstep =>
      rcases login_cases hstep (by simp) with hcalls | ⟨form, task, he, -⟩
      · exact h.of_phone hp rfl (hset _ _) (((h i p hp).after hstep hcalls).mono (hset _ _))
      · simp at he
  | advance hserver hcalls => exact fun i p hp => (h i p hp).mono (extends_advance hserver)
  | other req => exact fun i p hp => (h i p hp).mono (extends_call req _)

end AllWait

/-- **An account behind every login.**  Any number of phones, the backend and calls from elsewhere,
from any store and through any order of events: whoever is logged in on a phone is so by a `login`
call of that phone, the identifier stored is what the backend has answered to that call, and it is
that of an account with the trimmed arguments of the call. -/
theorem account_behind (phones : ℕ) (r : Execution (networkStep P W) (Network.launch phones s₀)) :
    r.Always AccountBehind := by
  intro es _ n hrun i p userId hp hid
  obtain ⟨hserving, hwait⟩ : Serving P s₀ n ∧ AllWait n := by
    refine invariant_run (J := fun n => Serving P s₀ n ∧ AllWait n) ?_
      ⟨serving_launch phones, allWait_launch phones⟩ hrun
    rintro n ev n' ⟨hserving, hwait⟩ hstep
    exact ⟨hserving.step (network_effect hstep),
      hwait.step hserving.length_eq (network_effect hstep)⟩
  obtain ⟨es', hserver⟩ := hserving.served
  obtain ⟨c, task, hcaller, hreply⟩ := (hwait i p hp).stored userId hid
  obtain ⟨req, hcall⟩ := reply?_eq_some.mp hreply
  obtain ⟨req', q, hcall', rfl⟩ := hserving.asks c _ hcaller
  obtain ⟨rfl, -⟩ := Prod.mk.inj (Option.some.inj (hcall'.symm.trans hcall))
  obtain ⟨id, doc, hvalue, hdoc, hemail, husername⟩ :=
    loginsAnswered_of_coherent (coherent_of_run handle_obeys hserver) _ _
      (List.mem_of_getElem? hcall) (by simp)
  rw [loginData_email] at hemail
  rw [loginData_username] at husername
  exact ⟨c, task, id, doc, hcaller, hreply, Value.string.inj hvalue, hdoc,
    (Except.ok.inj hemail).symm, (Except.ok.inj husername).symm⟩

end Whix
