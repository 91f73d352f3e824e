import Whix.Client.Network
import Whix.Properties.Uploads

/-!
# The calls that phones make

What one step of an app does to its outstanding calls and to what it stores, and from it what one
step of the phones and the backend can do (`NetworkEffect`).  The backend goes through runs
of its own meanwhile, and each of its calls asks what its caller wants (`Serving`).
-/

namespace Whix

open Js Prog Interleaving Runs

variable {P : Platform} {W : Char → Bool} {s₀ : Store}

/-! ## Who is logged in -/

section Device

variable {d t : Device} {e : DeviceEvent}

section Calls

variable (d : Device)

@[simp] lemma showTabs_calls : d.showTabs.session.calls = d.session.calls := by
  unfold Device.showTabs
  split <;> rfl

@[simp] lemma showCam_calls : d.showCam.session.calls = d.session.calls := by
  unfold Device.showCam
  split <;> simp

@[simp] lemma dismissLogin_calls (form : ℕ) :
    (d.dismissLogin form).session.calls = d.session.calls := by
  unfold Device.dismissLogin
  split <;> simp

@[simp] lemma onPostReply_calls (post : PostTask) (reply : Option Reply) :
    (d.onPostReply post reply).session.calls = d.session.calls := by
  unfold Device.onPostReply Device.dismissEdit
  split
  · split <;> simp
  · rfl

@[simp] lemma onSession_calls (e : SessionEvent) (session : Session) :
    (d.onSession e session).session.calls = session.calls := by
  unfold Device.onSession
  split
  · rfl
  · split <;> simp
  · rfl

end Calls

/-- What one step on a phone does to its `login` calls. -/
lemma login_cases (hstep : deviceStep P W d e = some t)
    (hphone : ∀ j env, e ≠ .session (.execute j env)) :
    t.session.calls = e.dropLogin d.session.calls ∨
      ∃ form task, e = .session (.tapLogin form) ∧ task.reply = none ∧
        t.session.calls = d.session.calls ++ [task] := by
  obtain ⟨-, heffect⟩ := device_effect hstep
  cases heffect with
  | @session e session hallowed hsession =>
      rw [onSession_calls]
      cases session_effect hsession with
      | @tapLogin i form hform =>
          rcases d.session.onLoginClicked_calls i form with hcalls | ⟨task, hreply, hcalls⟩
          · exact .inl hcalls
          · exact .inr ⟨i, task, rfl, hreply, hcalls⟩
      | @execute j env => exact absurd rfl (hphone j env)
      | deliver => exact .inl (Session.onReply_calls ..)
      | _ => exact .inl rfl
  | uploaded => exact .inl (by rw [Device.onUploaded_session]; rfl)
  | postReplied => exact .inl (by rw [onPostReply_calls]; rfl)
  | _ => exact .inl (by first | rfl | exact showCam_calls d | exact showTabs_calls d)

/-- Who is logged in was so before, or is by the reply that has arrived. -/
lemma stored_cases (hstep : deviceStep P W d e = some t) {userId : String}
    (h : t.session.defaults.loggedInUserId = some userId) :
    d.session.defaults.loggedInUserId = some userId ∨
      ∃ (j : ℕ) (task : LoginTask), d.session.calls[j]? = some task ∧
        task.reply = some (.ok (.string userId)) := by
  obtain ⟨-, heffect⟩ := device_effect hstep
  cases heffect with
  | @session e session hallowed hsession =>
      rw [(sameWork_onSession d e session).defaults, sessionStep_defaults hsession] at h
      cases session_effect hsession with
      | logout => simp [Session.storedAfter] at h
      | @deliver j task form reply hcall hform hreply =>
          simp only [Session.storedAfter, hcall, hform, hreply] at h
          unfold Session.onReply at h
          split at h
          · exact .inr ⟨j, task, hcall, hreply.trans (by rw [Option.some.inj h])⟩
          · exact .inl h
      | _ => exact .inl h
  | selectNew => exact .inl ((sameWork_showCam d).defaults ▸ h)
  | closeCam => exact .inl ((sameWork_showTabs d).defaults ▸ h)
  | cancelEditing => exact .inl ((sameWork_showCam d).defaults ▸ h)
  | closeEdit => exact .inl ((sameWork_showCam d).defaults ▸ h)
  | uploaded => exact .inl (by rwa [Device.onUploaded_session] at h)
  | @postReplied k reply post hpost =>
      have hwork := sameWork_onPostReply { d with posts := d.posts.eraseIdx k } post reply
      exact .inl (by rwa [hwork.defaults] at h)
  | _ => exact .inl h

end Device

/-! ## What a phone sends -/

section Phone

variable {p : Phone} {d : Device} {e : DeviceEvent}

lemma newPost_of_sublist (h : d.posts.Sublist p.device.posts) : p.newPost d = none :=
  List.getElem?_eq_none_iff.mpr h.length_le

lemma newPost_of_append {post : PostTask} (h : d.posts = p.device.posts ++ [post]) :
    p.newPost d = some post := by
  rw [Phone.newPost, h, List.getElem?_concat_length]

lemma dropLogin_length_le (e : DeviceEvent) {α : Type} (calls : List α) :
    (e.dropLogin calls).length ≤ calls.length := by
  unfold DeviceEvent.dropLogin
  split
  · exact (List.eraseIdx_sublist ..).length_le
  · exact (List.eraseIdx_sublist ..).length_le
  · exact le_rfl

/-- What an event on a phone sends to the backend: nothing, a `login` call or a `post` call. -/
lemma onPhone_cases (n : Network) (i : ℕ) (now : Timestamp)
    (hstep : deviceStep P W p.device e = some d) (hphone : ∀ j env, e ≠ .session (.execute j env)) :
    (p.newPost d = none ∧ d.session.calls = e.dropLogin p.device.session.calls ∧
        n.onPhone P i p e now d = n.setPhone i (p.after e d)) ∨
      (∃ task, task.reply = none ∧ p.newPost d = none ∧
        d.session.calls = p.device.session.calls ++ [task] ∧
        n.onPhone P i p e now d =
          (n.setPhone i { p.after e d with logins := p.logins ++ [n.server.calls.length] }).call P
            (.login (loginData task.email task.username)) (.login i task)) ∨
      ∃ task posts, p.newPost d = some task ∧
        d.session.calls = e.dropLogin p.device.session.calls ∧
        n.onPhone P i p e now d =
          (n.setPhone i { p.after e d with posts }).call P
            (.post now (postData task.contenturl task.username task.lat task.lon))
            (.post i task) := by
  rcases login_cases hstep hphone with hcalls | ⟨form, task, rfl, hreply, hcalls⟩
  · have hnone : p.newLogin d = none := by
      rw [Phone.newLogin, hcalls, List.getElem?_eq_none_iff]
      exact dropLogin_length_le e _
    unfold Network.onPhone
    cases hnew : p.newPost d with
    | none => exact .inl ⟨rfl, hcalls, by simp only [hnone]⟩
    | some post =>
        refine .inr (.inr ⟨post, (p.after e d).posts ++ [n.server.calls.length], rfl, hcalls, ?_⟩)
        simp only [hnone]
  · have hlogin : p.newLogin d = some task := by
      rw [Phone.newLogin, hcalls, List.getElem?_concat_length]
    have hnone : p.newPost d = none := by
      rcases posts_cases hstep with hsub | ⟨x, post, -, -, -, -, hsession⟩
      · exact newPost_of_sublist hsub
      · simp [hsession] at hcalls
    refine .inr (.inl ⟨task, hreply, hnone, hcalls, ?_⟩)
    unfold Network.onPhone
    simp only [hlogin]
    rfl

end Phone

/-! ## One step of the phones and the backend -/

/-- What one step does, by its event. -/
inductive NetworkEffect (P : Platform) (W : Char → Bool) (n : Network) :
    NetworkEvent → Network → Prop
  | onPhone {i p e d now} (hp : n.phones[i]? = some p)
      (hphone : ∀ j env, e ≠ .session (.execute j env))
      (hstep : deviceStep P W p.device e = some d) :
      NetworkEffect P W n (.phone i e now) (n.onPhone P i p e now d)
  | loginAnswered {i j p task c reply} (hp : n.phones[i]? = some p)
      (htask : p.device.session.calls[j]? = some task) (hc : p.logins[j]? = some c)
      (hreply : n.reply? c = some reply) :
      NetworkEffect P W n (.loginAnswered i j) (n.setPhone i (p.withReply j task reply))
  | postAnswered {i k p d} {reply : Option Reply} (hp : n.phones[i]? = some p)
      (hstep : deviceStep P W p.device (.postReplied k reply) = some d) :
      NetworkEffect P W n (.postAnswered i k) (n.setPhone i (p.after (.postReplied k reply) d))
  | advance {c env server} (hserver : serverStep P n.server (.advance c env) = some server)
      (hcalls : server.calls.length = n.server.calls.length) :
      NetworkEffect P W n (.advance c env) { n with server }
  | other (req : Request) : NetworkEffect P W n (.other req) (n.call P req .other)

lemma network_effect {n n' : Network} {ev : NetworkEvent} (h : networkStep P W n ev = some n') :
    NetworkEffect P W n ev n' := by
  cases ev with
  | phone i e now =>
      obtain ⟨p, hp, h⟩ := Option.bind_eq_some_iff.mp h
      obtain ⟨hlocal, h⟩ := Option.ite_none_right_eq_some.mp h
      obtain ⟨d, hstep, h⟩ := Option.bind_eq_some_iff.mp h
      obtain rfl := Option.some.inj h
      refine .onPhone hp ?_ hstep
      rintro j env rfl
      exact absurd hlocal Bool.false_ne_true
  | loginAnswered i j =>
      obtain ⟨p, hp, h⟩ := Option.bind_eq_some_iff.mp h
      obtain ⟨task, htask, h⟩ := Option.bind_eq_some_iff.mp h
      obtain ⟨c, hc, h⟩ := Option.bind_eq_some_iff.mp h
      obtain ⟨reply, hreply, h⟩ := Option.bind_eq_some_iff.mp h
      exact Option.some.inj h ▸ .loginAnswered hp htask hc hreply
  | postAnswered i k =>
      obtain ⟨p, hp, h⟩ := Option.bind_eq_some_iff.mp h
      obtain ⟨c, hc, h⟩ := Option.bind_eq_some_iff.mp h
      obtain ⟨reply, hreply, h⟩ := Option.bind_eq_some_iff.mp h
      obtain ⟨d, hstep, h⟩ := Option.bind_eq_some_iff.mp h
      exact Option.some.inj h ▸ .postAnswered hp hstep
  | advance c env =>
      obtain ⟨server, hserver, rfl⟩ := Option.map_eq_some_iff.mp h
      refine .advance hserver ?_
      rcases step_cases hserver with ⟨req, hev, -⟩ | ⟨c', env', req, o, k, -, -, rfl⟩
      · simp at hev
      · simp
  | other req => exact Option.some.inj h ▸ .other req

/-! ## The calls of the backend -/

/-- The call asks what its caller wants. -/
def Caller.Asks : Caller → Request → Prop
  | .login _ task, req => req = .login (loginData task.email task.username)
  | .post _ task, req =>
      ∃ now, req = .post now (postData task.contenturl task.username task.lat task.lon)
  | .other, _ => True

/-- The backend is in a state of its own, and its calls are those of the callers. -/
structure Serving (P : Platform) (s₀ : Store) (n : Network) : Prop where
  served : ∃ es, run (serverStep P) (Pool.start s₀) es = some n.server
  length_eq : n.callers.length = n.server.calls.length
  asks : ∀ (c : ℕ) caller, n.callers[c]? = some caller →
    ∃ req p, n.server.calls[c]? = some (req, p) ∧ caller.Asks req

section Serving

variable {n n' : Network}

lemma serving_launch (phones : ℕ) : Serving P s₀ (.launch phones s₀) where
  served := ⟨[], rfl⟩
  length_eq := rfl
  asks c caller h := by simp [Network.launch] at h

lemma Serving.call (h : Serving P s₀ n) {req : Request} {caller : Caller}
    (hasks : caller.Asks req) : Serving P s₀ (n.call P req caller) where
  served := by
    obtain ⟨es, hes⟩ := h.served
    exact ⟨es ++ [.invoke req], run_snoc_eq_some.mpr ⟨n.server, hes, rfl⟩⟩
  length_eq := by simp [Network.call, h.length_eq]
  asks c caller' hcaller := by
    rcases Nat.lt_or_ge c n.callers.length with hlt | hge
    · rw [Network.call, List.getElem?_append_left hlt] at hcaller
      obtain ⟨req', p, hcall, hasks'⟩ := h.asks c caller' hcaller
      exact ⟨req', p, Pool.invoke_kept hcall req, hasks'⟩
    · rw [Network.call, List.getElem?_append_right hge] at hcaller
      obtain ⟨hc, rfl⟩ := List.getElem?_eq_some_iff.mp hcaller
      have hc : c = n.server.calls.length := by
        simp only [List.length_singleton] at hc
        have := h.length_eq
        omega
      subst hc
      refine ⟨req, handle P req, ?_, by simpa using hasks⟩
      rw [Network.call, Pool.invoke_calls, List.getElem?_concat_length]

lemma Serving.step {ev : NetworkEvent} (h : Serving P s₀ n) (heffect : NetworkEffect P W n ev n') :
    Serving P s₀ n' := by
  have hset (i : ℕ) (p : Phone) : Serving P s₀ (n.setPhone i p) := ⟨h.served, h.length_eq, h.asks⟩
  cases heffect with
  | @onPhone i p e d now hp hphone hstep =>
      rcases onPhone_cases n i now hstep hphone (P := P) with ⟨-, -, heq⟩ | ⟨task, -, -, -, heq⟩ |
        ⟨task, posts, -, -, heq⟩
      · exact heq ▸ hset _ _
      · exact heq ▸ (hset _ _).call rfl
      · exact heq ▸ (hset _ _).call ⟨now, rfl⟩
  | loginAnswered => exact hset _ _
  | postAnswered => exact hset _ _
  | @advance c env server hserver hcalls =>
      obtain ⟨es, hes⟩ := h.served
      refine ⟨⟨es ++ [.advance c env], run_snoc_eq_some.mpr ⟨n.server, hes, hserver⟩⟩,
        h.length_eq.trans hcalls.symm, fun c caller hcaller => ?_⟩
      obtain ⟨req, p, hcall, hasks⟩ := h.asks c caller hcaller
      obtain ⟨p', hcall'⟩ := request_kept hserver hcall
      exact ⟨req, p', hcall', hasks⟩
  | other req => exact h.call trivial

end Serving

end Whix
