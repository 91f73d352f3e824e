import Whix.Properties.SessionCoherence

/-!
# After a logout

A logout clears what the client stores about the logged-in user, and the reply of a login call
that is still outstanding stores it again: its handler does not look whether the user has logged
out since the tap.  The login button stays enabled while a call is outstanding, so there may be
several of them (`logout_undone`).

A session does not know when its calls were made.  `Journal` is a history variable that does: for
each call, it has the number of logouts before it.
-/

namespace Whix

open Js Runs

variable {P : Platform} {W : Char → Bool}

/-- What has happened in a session. -/
structure Journal where
  logouts : ℕ
  /-- the number of logouts before each outstanding call -/
  issued : List ℕ
  /-- the number of logouts before each call whose reply has been delivered with an identifier -/
  loggedInBy : List ℕ

namespace Journal

/-- Nothing has happened yet. -/
def start : Journal := ⟨0, [], []⟩

variable (s : Session) (h : Journal)

/-- The reply of the call at `j` is delivered. -/
def deliver (j : ℕ) : Journal where
  logouts := h.logouts
  issued := h.issued.eraseIdx j
  loggedInBy :=
    match s.calls[j]? with
    | some ⟨_, _, _, some (.ok (.string _))⟩ => h.loggedInBy ++ h.issued[j]?.toList
    | _ => h.loggedInBy

/-- The journal after an event that has led from `s` to `t`. -/
def record (e : SessionEvent) (t : Session) : Journal :=
  match e with
  | .tapLogin _ =>
      if s.calls.length < t.calls.length then { h with issued := h.issued ++ [h.logouts] } else h
  | .deliver j => h.deliver s j
  | .fail j => { h with issued := h.issued.eraseIdx j }
  | .logout => { h with logouts := h.logouts + 1 }
  | .showLogin | .edit .. | .execute .. | .serveOther .. => h

@[simp] lemma record_tapLogin_logouts (i : ℕ) (t : Session) :
    (h.record s (.tapLogin i) t).logouts = h.logouts := by
  unfold record
  dsimp only
  split <;> rfl

@[simp] lemma record_tapLogin_loggedInBy (i : ℕ) (t : Session) :
    (h.record s (.tapLogin i) t).loggedInBy = h.loggedInBy := by
  unfold record
  dsimp only
  split <;> rfl

end Journal

/-- One step of a session whose journal is kept. -/
abbrev journalStep (P : Platform) (W : Char → Bool) :
    Session × Journal → SessionEvent → Option (Session × Journal) :=
  withHistory Journal.record (sessionStep P W)

/-- For the logout that `k` others have preceded: nothing is stored about the user, or else the
reply of a call made after it has been delivered with an identifier. -/
def LogoutFinal (w : Session × Journal) : Prop :=
  ∀ k < w.2.logouts, w.1.defaults = ⟨none, none⟩ ∨ ∃ n ∈ w.2.loggedInBy, k < n

/-- If the event delivers a reply with an identifier, then the call was made after the last
logout, or somebody is logged in. -/
def NotLate (w : Session × Journal) : SessionEvent → Prop
  | .deliver j => ∀ call form userId, w.1.calls[j]? = some call →
      w.1.forms[call.form]? = some form → call.reply = some (.ok (.string userId)) →
      w.2.issued[j]? = some w.2.logouts ∨ w.1.defaults.loggedInUserId ≠ none
  | _ => True

/-! ## The journal, step by step -/

/-- What the journal and the session have in common. -/
structure JournalKept (w : Session × Journal) : Prop where
  length_eq : w.2.issued.length = w.1.calls.length
  issued_le : ∀ n ∈ w.2.issued, n ≤ w.2.logouts
  loggedInBy_le : ∀ n ∈ w.2.loggedInBy, n ≤ w.2.logouts
  paired : w.1.defaults.Paired
  loggedIn : w.2.logouts ∈ w.2.loggedInBy → w.1.defaults.loggedInUserId ≠ none

section Step

variable {s : Session} {h : Journal} {w w' : Session × Journal} {e : SessionEvent}

lemma journalKept_start (s₀ : Store) : JournalKept (Session.start s₀, Journal.start) where
  length_eq := rfl
  issued_le := by simp [Journal.start]
  loggedInBy_le := by simp [Journal.start]
  paired := Iff.rfl
  loggedIn := by simp [Journal.start]

lemma Journal.deliver_loggedInBy_of_id {j : ℕ} {call : LoginTask} {userId : String}
    (hcall : s.calls[j]? = some call) (hreply : call.reply = some (.ok (.string userId))) :
    (h.deliver s j).loggedInBy = h.loggedInBy ++ h.issued[j]?.toList := by
  obtain ⟨form, email, username, reply⟩ := call
  obtain rfl : reply = some (.ok (.string userId)) := hreply
  simp only [Journal.deliver, hcall]

lemma Journal.deliver_loggedInBy_of_not_id {j : ℕ} {call : LoginTask} {reply : Reply}
    (hcall : s.calls[j]? = some call) (hreply : call.reply = some reply)
    (hid : ∀ userId, reply ≠ .ok (.string userId)) :
    (h.deliver s j).loggedInBy = h.loggedInBy := by
  obtain ⟨form, email, username, reply'⟩ := call
  obtain rfl : reply' = some reply := hreply
  simp only [Journal.deliver, hcall]
  split
  · rename_i heq
    simp only [Option.some.injEq, LoginTask.mk.injEq] at heq
    exact absurd heq.2.2.2 (hid _)
  · rfl

/-- It is enough to look at the last logout. -/
lemma logoutFinal_iff (hkept : JournalKept w) :
    LogoutFinal w ↔
      w.1.defaults.loggedInUserId = none ∨ w.2.logouts = 0 ∨ w.2.logouts ∈ w.2.loggedInBy := by
  constructor
  · intro hfinal
    rcases Nat.eq_zero_or_pos w.2.logouts with hzero | hpos
    · exact Or.inr (Or.inl hzero)
    · rcases hfinal (w.2.logouts - 1) (Nat.sub_lt hpos Nat.one_pos) with hnone | ⟨n, hn, hlt⟩
      · rw [hnone]
        exact Or.inl rfl
      · have hle := hkept.loggedInBy_le n hn
        obtain rfl : n = w.2.logouts := by omega
        exact Or.inr (Or.inr hn)
  · rintro (hnone | hzero | hmem) k hk
    · exact Or.inl (hkept.paired.eq_none hnone)
    · rw [hzero] at hk
      exact absurd hk (Nat.not_lt_zero k)
    · exact Or.inr ⟨_, hmem, hk⟩

lemma mem_deliver_loggedInBy {j n : ℕ} (hn : n ∈ (h.deliver s j).loggedInBy) :
    n ∈ h.loggedInBy ∨ n ∈ h.issued := by
  unfold Journal.deliver at hn
  dsimp only at hn
  split at hn
  · rcases List.mem_append.mp hn with hn | hn
    · exact Or.inl hn
    · exact Or.inr (List.mem_of_getElem? (Option.mem_toList.mp hn))
  · exact Or.inl hn

/-- Only a delivered identifier adds to the calls that have logged the user in, and then somebody
is logged in. -/
lemma loggedIn_deliver {j : ℕ} {call : LoginTask} {form : LoginForm} {reply : Reply}
    (hcall : s.calls[j]? = some call) (hreply : call.reply = some reply)
    (hloggedIn : h.logouts ∈ h.loggedInBy → s.defaults.loggedInUserId ≠ none)
    (hmem : h.logouts ∈ (h.deliver s j).loggedInBy) :
    ({ s with calls := s.calls.eraseIdx j }.onReply W form reply).defaults.loggedInUserId ≠
      none := by
  by_cases hid : ∃ userId, reply = .ok (.string userId)
  · obtain ⟨userId, rfl⟩ := hid
    rw [Session.onReply_defaults_of_id]
    simp
  · rw [Session.onReply_defaults_of_not_id _ _ _ _ (not_exists.mp hid)]
    rw [Journal.deliver_loggedInBy_of_not_id hcall hreply (not_exists.mp hid)] at hmem
    exact hloggedIn hmem

lemma journalKept_step (hkept : JournalKept w) (hstep : journalStep P W w e = some w') :
    JournalKept w' := by
  obtain ⟨s, h⟩ := w
  obtain ⟨t, hsession, rfl⟩ := Option.map_eq_some_iff.mp hstep
  have hpaired : t.defaults.Paired :=
    sessionStep_defaults hsession ▸ Session.storedAfter_paired hkept.paired e
  obtain ⟨hlength, hissued, hloggedInBy, -, hloggedIn⟩ := hkept
  dsimp only at hlength hissued hloggedInBy hloggedIn hsession
  have herased : ∀ j, (h.issued.eraseIdx j).length = (s.calls.eraseIdx j).length := by
    intro j
    rw [List.length_eraseIdx, List.length_eraseIdx, hlength]
  cases session_effect hsession with
  | showLogin => exact ⟨hlength, hissued, hloggedInBy, hpaired, hloggedIn⟩
  | edit hform => exact ⟨hlength, hissued, hloggedInBy, hpaired, hloggedIn⟩
  | @execute j env call hcall hnone =>
      refine ⟨?_, hissued, hloggedInBy, hpaired, hloggedIn⟩
      exact hlength.trans List.length_set.symm
  | serveOther => exact ⟨hlength, hissued, hloggedInBy, hpaired, hloggedIn⟩
  | @tapLogin i form hform =>
      rw [← s.onLoginClicked_defaults i form] at hloggedIn
      rcases s.onLoginClicked_calls i form with heq | ⟨call, -, heq⟩
      · have hrecord : h.record s (.tapLogin i) (s.onLoginClicked i form) = h :=
          if_neg (by simp [heq])
        rw [hrecord]
        exact ⟨by rw [heq, hlength], hissued, hloggedInBy, hpaired, hloggedIn⟩
      · have hrecord : h.record s (.tapLogin i) (s.onLoginClicked i form) =
            { h with issued := h.issued ++ [h.logouts] } := if_pos (by simp [heq])
        rw [hrecord]
        refine ⟨?_, ?_, hloggedInBy, hpaired, hloggedIn⟩
        · rw [heq, List.length_append, List.length_append, hlength]
          rfl
        · simp only [List.forall_mem_append, List.forall_mem_singleton]
          exact ⟨hissued, le_refl _⟩
  | @deliver j call form reply hcall hform hreply =>
      refine ⟨?_, ?_, ?_, hpaired, ?_⟩
      · rw [Session.onReply_calls]
        exact herased j
      · exact fun n hn => hissued n (List.mem_of_mem_eraseIdx hn)
      · intro n hn
        rcases mem_deliver_loggedInBy hn with hn | hn
        · exact hloggedInBy n hn
        · exact hissued n hn
      · exact loggedIn_deliver hcall hreply hloggedIn
  | @fail j call hcall =>
      refine ⟨herased j, ?_, hloggedInBy, hpaired, hloggedIn⟩
      exact fun n hn => hissued n (List.mem_of_mem_eraseIdx hn)
  | logout =>
      refine ⟨hlength, fun n hn => (hissued n hn).trans (Nat.le_succ _),
        fun n hn => (hloggedInBy n hn).trans (Nat.le_succ _), hpaired, ?_⟩
      intro hmem
      exact absurd (hloggedInBy _ hmem) (Nat.not_succ_le_self _)

/-- The reply of a call that `n` logouts have preceded is delivered with an identifier. -/
lemma delivered_final_iff {n : ℕ} (hkept : JournalKept w) (hfinal : LogoutFinal w)
    (hn : n ≤ w.2.logouts) :
    w.2.logouts = 0 ∨ w.2.logouts ∈ w.2.loggedInBy ++ [n] ↔
      n = w.2.logouts ∨ w.1.defaults.loggedInUserId ≠ none := by
  rw [List.mem_append, List.mem_singleton]
  constructor
  · rintro (hzero | hmem | heq)
    · exact Or.inl (by omega)
    · exact Or.inr (hkept.loggedIn hmem)
    · exact Or.inl heq.symm
  · rintro (heq | hid)
    · exact Or.inr (Or.inr heq.symm)
    · rcases ((logoutFinal_iff hkept).mp hfinal).resolve_left hid with hzero | hmem
      · exact Or.inl hzero
      · exact Or.inr (Or.inl hmem)

lemma logoutFinal_step_iff (hkept : JournalKept w) (hfinal : LogoutFinal w)
    (hstep : journalStep P W w e = some w') : LogoutFinal w' ↔ NotLate w e := by
  have hlast := (logoutFinal_iff hkept).mp hfinal
  rw [logoutFinal_iff (journalKept_step hkept hstep)]
  obtain ⟨s, h⟩ := w
  obtain ⟨t, hsession, rfl⟩ := Option.map_eq_some_iff.mp hstep
  dsimp only at hsession
  cases session_effect hsession with
  | showLogin => exact iff_of_true hlast trivial
  | edit hform => exact iff_of_true hlast trivial
  | execute hcall hnone => exact iff_of_true hlast trivial
  | serveOther => exact iff_of_true hlast trivial
  | fail hcall => exact iff_of_true hlast trivial
  | tapLogin hform =>
      refine iff_of_true ?_ trivial
      rw [Session.onLoginClicked_defaults, Journal.record_tapLogin_logouts,
        Journal.record_tapLogin_loggedInBy]
      exact hlast
  | logout => exact iff_of_true (Or.inl rfl) trivial
  | @deliver j call form reply hcall hform hreply =>
      refine Session.delivered_iff hcall hform hreply ?_ ?_
      · rintro userId rfl
        have hj : j < h.issued.length :=
          hkept.length_eq.symm ▸ (List.getElem?_eq_some_iff.mp hcall).1
        have hissued : h.issued[j]? = some h.issued[j] := List.getElem?_eq_getElem hj
        have hn : h.issued[j] ≤ h.logouts := hkept.issued_le _ (List.getElem_mem hj)
        have hby : (h.deliver s j).loggedInBy = h.loggedInBy ++ [h.issued[j]] := by
          rw [Journal.deliver_loggedInBy_of_id hcall hreply, hissued, Option.toList_some]
        simp only [Session.onReply_defaults_of_id, Journal.record, hby, hissued, reduceCtorEq,
          false_or, Option.some.injEq]
        exact delivered_final_iff hkept hfinal hn
      · intro hnot
        have hby := Journal.deliver_loggedInBy_of_not_id (h := h) hcall hreply hnot
        rw [Session.onReply_defaults_of_not_id _ _ _ _ hnot, Journal.record, hby]
        exact hlast

end Step

/-- **Logouts are final, exactly.**  From any store and nobody logged in, through any edits, taps,
executions, deliveries in any order, errors, logouts and calls of other clients: after every logout
nothing is stored until the reply of a call made after it has been delivered with an identifier, if
and only if no reply with an identifier of a call made before the last logout is delivered while
nobody is logged in. -/
theorem logout_final_iff (s₀ : Store) (r : Execution (sessionStep P W) (Session.start s₀)) :
    (r.withHistory Journal.record .start).Always LogoutFinal ↔
      Along (journalStep P W) NotLate (Session.start s₀, .start) r.events :=
  always_iff_along (J := JournalKept) (journalKept_start s₀)
    (by simp [LogoutFinal, Journal.start])
    (fun _ _ _ hkept _ hstep _ => journalKept_step hkept hstep)
    (fun _ _ _ hkept hfinal hstep => logoutFinal_step_iff hkept hfinal hstep) r.events

/-! ## Two taps -/

/-- Ada taps the button twice.  She is logged in by the first reply, and logs out before the second
one arrives. -/
def secondReply : Execution (sessionStep .plain Value.isWhiteSpace) (Session.start .empty) :=
  .ofEvents _
    [.showLogin, .edit 0 .emailField "ada@whix.io", .edit 0 .usernameField "ada", .tapLogin 0,
      .tapLogin 0, .execute 0 (.commit idA), .deliver 0, .logout, .execute 0 (.commit idA),
      .deliver 0]
    (by rfl)

/-- She is logged in again, behind the login screen. -/
theorem logout_undone :
    ¬ ∀ s₀ (r : Execution (sessionStep .plain Value.isWhiteSpace) (Session.start s₀)),
      LogoutFinal (r.withHistory Journal.record .start).final := by
  intro h
  have hlogouts : (secondReply.withHistory Journal.record .start).final.2.logouts = 1 := by rfl
  have hby : (secondReply.withHistory Journal.record .start).final.2.loggedInBy = [0, 0] := by rfl
  have hid : (secondReply.withHistory Journal.record .start).final.1.defaults.loggedInUserId =
      some idA.val := by rfl
  rcases h .empty secondReply 0 (by rw [hlogouts]; exact Nat.one_pos) with hnone | ⟨n, hn, hlt⟩
  · rw [hnone] at hid
    simp at hid
  · rw [hby] at hn
    obtain rfl : n = 0 := by simpa using hn
    exact absurd hlt (Nat.lt_irrefl 0)

end Whix
