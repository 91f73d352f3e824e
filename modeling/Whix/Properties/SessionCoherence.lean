import Whix.Client.Session

/-!
# The stored identifier and the stored username

A client stores two things about the logged-in user, and they come from two places: the
identifier from the reply of a `login` call, the username from the text field as it is when that
reply arrives.  They belong together when the field still trims to what the call was made with,
and nothing makes sure that it does: the field stays editable while the call is outstanding
(`session_incoherent`).

`session_coherent_iff` is exact.  Its invariant `RepliesTrue` says what a reply is worth: an
identifier that is on its way to the client is that of an account with the username the call was
made with.
-/

namespace Whix

open Js Runs

variable {P : Platform} {W : Char → Bool}

/-- The identifier leads to an account with this username. -/
def NamesUser (users : Collection AutoId UserDoc) (userId username : String) : Prop :=
  ∃ id doc, id.val = userId ∧ users.get? id = some doc ∧ doc.username = username

/-- If an identifier is stored, then so is a username, and the account has it. -/
def SessionCoherent (s : Session) : Prop :=
  ∀ userId, s.defaults.loggedInUserId = some userId →
    ∃ username, s.defaults.loggedInUsername = some username ∧
      NamesUser s.store.users userId username

/-- Identifiers in undelivered replies are those of accounts with the call's username. -/
def RepliesTrue (s : Session) : Prop :=
  ∀ call ∈ s.calls, ∀ userId, call.reply = some (.ok (.string userId)) →
    NamesUser s.store.users userId (trimmed call.username)

/-- If the event delivers a reply with an identifier, then the form's username field still trims
to what the call was made with. -/
def FieldKept (s : Session) : SessionEvent → Prop
  | .deliver j => ∀ call form userId, s.calls[j]? = some call →
      s.forms[call.form]? = some form → call.reply = some (.ok (.string userId)) →
      trimmed form.usernameField = trimmed call.username
  | _ => True

/-! ## The invariants, step by step -/

lemma NamesUser.serve {s : Store} {userId username : String}
    (h : NamesUser s.users userId username) (env : Outcome) (req : Request) :
    NamesUser (serve P env req s).2.users userId username := by
  obtain ⟨id, doc, hid, hdoc, husername⟩ := h
  exact ⟨id, doc, hid, serve_account_persists env req hdoc, husername⟩

/-- An account has one username. -/
lemma NamesUser.username_eq {users : Collection AutoId UserDoc} {userId name name' : String}
    (h : NamesUser users userId name) (h' : NamesUser users userId name') : name = name' := by
  obtain ⟨id, doc, rfl, hdoc, rfl⟩ := h
  obtain ⟨id', doc', hid, hdoc', rfl⟩ := h'
  obtain rfl := AutoId.val_injective hid
  rw [Option.some.inj (hdoc.symm.trans hdoc')]

/-- An identifier that `login` answers leads to an account with the trimmed username. -/
lemma namesUser_of_login {env : Outcome} {s : Store} {email username userId : String}
    (h : (serve P env (.login (loginData email username)) s).1 = .ok (.string userId)) :
    NamesUser (serve P env (.login (loginData email username)) s).2.users userId
      (trimmed username) := by
  have houtcome := serve_loginData (P := P) email username env s
  generalize serve P env (.login (loginData email username)) s = served at h houtcome ⊢
  obtain ⟨reply, s'⟩ := served
  dsimp only at h houtcome ⊢
  subst h
  generalize hreply : (Except.ok (Value.string userId) : Reply) = reply at houtcome
  cases houtcome with
  | @found id doc hdoc hemail husername =>
      simp only [Except.ok.injEq, Value.string.injEq] at hreply
      exact ⟨id, doc, hreply.symm, hdoc, husername⟩
  | @registered id users henv havailable hadd =>
      simp only [Except.ok.injEq, Value.string.injEq] at hreply
      exact ⟨id, _, hreply.symm, Collection.get?_add_self hadd, rfl⟩
  | refused => simp at hreply
  | unavailable => simp at hreply

lemma repliesTrue_step {s t : Session} {e : SessionEvent} (h : RepliesTrue s)
    (hstep : sessionStep P W s e = some t) : RepliesTrue t := by
  cases session_effect hstep with
  | showLogin => exact h
  | edit hform => exact h
  | tapLogin hform =>
      intro call hcall userId hreply
      rw [Session.onLoginClicked_store]
      rcases s.mem_calls_onLoginClicked hcall with hcall | hnone
      · exact h call hcall userId hreply
      · rw [hnone] at hreply
        simp at hreply
  | @execute j env call hcall hnone =>
      intro call' hcall' userId hreply
      rcases List.mem_or_eq_of_mem_set hcall' with hcall' | rfl
      · exact (h call' hcall' userId hreply).serve _ _
      · exact namesUser_of_login (Option.some.inj hreply)
  | deliver hcall hform hreply =>
      intro call' hcall' userId hreply'
      rw [Session.onReply_calls] at hcall'
      rw [Session.onReply_store]
      exact h call' (List.mem_of_mem_eraseIdx hcall') userId hreply'
  | fail hcall => exact fun call' hcall' => h call' (List.mem_of_mem_eraseIdx hcall')
  | logout => exact h
  | serveOther => exact fun call hcall userId hreply => (h call hcall userId hreply).serve _ _

lemma SessionCoherent.serve {s : Session} (h : SessionCoherent s) (env : Outcome) (req : Request)
    (calls : List LoginTask) :
    SessionCoherent { s with store := (serve P env req s.store).2, calls } := by
  intro userId hid
  obtain ⟨username, husername, hnames⟩ := h userId hid
  exact ⟨username, husername, hnames.serve env req⟩

lemma strip_eq_trimmed (hW : ∀ c, W c = Value.isWhiteSpace c) (s : String) :
    Text.strip W s = trimmed s := by
  rw [trimmed, funext hW]

lemma sessionCoherent_step_iff (hW : ∀ c, W c = Value.isWhiteSpace c) {s t : Session}
    {e : SessionEvent} (hreplies : RepliesTrue s) (h : SessionCoherent s)
    (hstep : sessionStep P W s e = some t) : SessionCoherent t ↔ FieldKept s e := by
  cases session_effect hstep with
  | showLogin => exact iff_of_true h trivial
  | edit hform => exact iff_of_true h trivial
  | tapLogin hform => exact iff_of_true (by simpa [SessionCoherent] using h) trivial
  | execute hcall hnone => exact iff_of_true (h.serve _ _ _) trivial
  | @deliver j call form reply hcall hform hreply =>
      rw [SessionCoherent, Session.onReply_store]
      refine Session.delivered_iff hcall hform hreply ?_ ?_
      · rintro userId rfl
        have htrue := hreplies call (List.mem_of_getElem? hcall) userId hreply
        simp only [Session.onReply_defaults_of_id, Option.some.injEq, forall_eq', exists_eq_left',
          strip_eq_trimmed hW]
        constructor
        · intro hnames
          exact hnames.username_eq htrue
        · intro hkept
          rw [hkept]
          exact htrue
      · intro hnot
        rw [Session.onReply_defaults_of_not_id _ _ _ _ hnot]
        exact h
  | fail hcall => exact iff_of_true h trivial
  | logout => exact iff_of_true (by simp [SessionCoherent]) trivial
  | serveOther => exact iff_of_true (h.serve _ _ _) trivial

/-- **Session coherence, exactly.**  For a client that trims the characters the backend trims, from
any store and nobody logged in: through any edits, taps, executions, deliveries in any order,
errors, logouts and calls of other clients, the stored identifier and username belong to one
account in every state reached if and only if every delivered identifier finds the username field
still trimming to what its call was made with. -/
theorem session_coherent_iff (hW : ∀ c, W c = Value.isWhiteSpace c) (s₀ : Store)
    (r : Execution (sessionStep P W) (Session.start s₀)) :
    r.Always SessionCoherent ↔
      Along (sessionStep P W) FieldKept (Session.start s₀) r.events :=
  always_iff_along (J := RepliesTrue) (by simp [RepliesTrue, Session.start])
    (by simp [SessionCoherent, Session.start]) (fun _ _ _ h _ hstep _ => repliesTrue_step h hstep)
    (fun _ _ _ hreplies h hstep => sessionCoherent_step_iff hW hreplies h hstep) r.events

/-! ## Typing while a call is outstanding -/

/-- Ada types her data and taps the button, and the backend serves her call. -/
def adaTaps : List SessionEvent :=
  [.showLogin, .edit 0 .emailField "ada@whix.io", .edit 0 .usernameField "ada", .tapLogin 0,
    .execute 0 (.commit idA)]

/-- The reply arrives. -/
def adaLogsIn : Execution (sessionStep .plain Value.isWhiteSpace) (Session.start .empty) :=
  .ofEvents _ (adaTaps ++ [.deliver 0]) (by rfl)

/-- The username field is edited before the reply arrives. -/
def editedMeanwhile : Execution (sessionStep .plain Value.isWhiteSpace) (Session.start .empty) :=
  .ofEvents _ (adaTaps ++ [.edit 0 .usernameField "bob", .deliver 0]) (by rfl)

theorem session_coherent_iff_at :
    adaLogsIn.Always SessionCoherent ↔
      Along (sessionStep .plain Value.isWhiteSpace) FieldKept (Session.start .empty)
        adaLogsIn.events :=
  session_coherent_iff (fun _ => rfl) .empty adaLogsIn

/-- The client stores Ada's identifier with the username `bob`. -/
theorem session_incoherent :
    ¬ ∀ s₀ (r : Execution (sessionStep .plain Value.isWhiteSpace) (Session.start s₀)),
      SessionCoherent r.final := by
  intro h
  have hid : editedMeanwhile.final.defaults.loggedInUserId = some idA.val := by rfl
  have husername : editedMeanwhile.final.defaults.loggedInUsername = some "bob" := by
    decide +kernel
  have hdoc : editedMeanwhile.final.store.users.get? idA =
      some (account .plain "ada@whix.io" "ada") := by rfl
  obtain ⟨username, hstored, id, doc, hval, hget, rfl⟩ := h .empty editedMeanwhile _ hid
  obtain rfl := AutoId.val_injective hval
  obtain rfl := Option.some.inj (hdoc.symm.trans hget)
  rw [husername, Option.some.injEq] at hstored
  exact absurd hstored (by decide)

end Whix
