import Whix.Client.LoginScreen
import Whix.Properties.LoginSoundness

/-!
# What the login form's check is worth

The form is checked on the texts as they are typed, and the backend trims them before it creates
the account.  Trimming keeps the `@`, and with it the e-mail address stays non-empty; but a
username of nothing but white space passes the check for the empty text, and becomes it
(`blank_username_registered`).  So an account is as the check promises exactly when the username
was not blank (`account_valid_iff`).
-/

namespace Whix

open Js Prog Interleaving Runs

variable {P : Platform} {s₀ : Store}

/-- What the form's check promises of an account. -/
structure ValidAccount (doc : UserDoc) : Prop where
  username_ne_empty : doc.username ≠ ""
  email_ne_empty : doc.email ≠ ""
  email_at : Text.contains doc.email "@" = true
  username_trimmed : trimmed doc.username = doc.username
  email_trimmed : trimmed doc.email = doc.email

/-- A call of the screen has created the account. -/
def LoginScreen.Creates (s : LoginScreen) (submission : Submission) (doc : UserDoc) : Prop :=
  submission ∈ s.submissions ∧
    ∃ id, ⟨.addUser doc, .ok id⟩ ∈ pathOf submission.call s.server.log

/-- There is something in the text that `trim` leaves. -/
def NotBlank (text : String) : Prop := ∃ c ∈ text.toList, Value.isWhiteSpace c = false

/-! ## Trimming what has been checked -/

lemma trimmed_ne_empty_iff (text : String) : trimmed text ≠ "" ↔ NotBlank text := by
  rw [trimmed, ne_eq, Text.strip_eq_empty_iff, not_forall₂]
  simp only [Bool.not_eq_true, NotBlank, exists_prop]

/-- The `@` is not trimmed. -/
lemma trimmed_contains_at (text : String) :
    Text.contains (trimmed text) "@" = Text.contains text "@" := by
  have hat : Value.isWhiteSpace '@' = false := by decide
  rw [Bool.eq_iff_iff]
  exact (Text.contains_singleton _ '@').trans
    ((Text.mem_strip hat).trans (Text.contains_singleton _ '@').symm)

lemma ne_empty_of_contains_at {text : String} (h : Text.contains text "@" = true) : text ≠ "" := by
  rintro rfl
  exact absurd h (by decide)

/-! ## Every call of the screen -/

/-- What is known about the calls of the screen. -/
structure Submitted (P : Platform) (s₀ : Store) (s : LoginScreen) : Prop where
  coherent : Coherent (Justified P) Answered perform s₀ s.server
  invoked : ∀ submission ∈ s.submissions, ∃ p, s.server.calls[submission.call]? =
    some (.login (loginData submission.email submission.username), p)
  checked : ∀ submission ∈ s.submissions, Text.contains submission.email "@" = true

lemma submitted_start : Submitted P s₀ (.start s₀) where
  coherent := coherent_start
  invoked := by simp [LoginScreen.start]
  checked := by simp [LoginScreen.start]

lemma submitted_step {s t : LoginScreen} {e : LoginScreenEvent} (h : Submitted P s₀ s)
    (hstep : loginScreenStep P s e = some t) : Submitted P s₀ t := by
  cases loginScreen_effect hstep with
  | form => exact ⟨h.coherent, h.invoked, h.checked⟩
  | submitted hat =>
      refine ⟨h.coherent.invoke handle_obeys _, ?_, ?_⟩
      · simp only [List.forall_mem_append, List.forall_mem_singleton]
        refine ⟨fun submission hmem => ?_, ?_⟩
        · obtain ⟨p, hp⟩ := h.invoked submission hmem
          exact ⟨p, Pool.invoke_kept hp _⟩
        · exact ⟨_, by rw [Pool.invoke_calls, List.getElem?_concat_length]⟩
      · simp only [List.forall_mem_append, List.forall_mem_singleton]
        exact ⟨h.checked, hat⟩
  | served hserver =>
      refine ⟨?_, ?_, h.checked⟩
      · rcases step_cases hserver with ⟨req, -, rfl⟩ | ⟨c, env, req, o, k, -, hc, rfl⟩
        · exact h.coherent.invoke handle_obeys req
        · exact h.coherent.advance hc
      · intro submission hmem
        obtain ⟨p, hp⟩ := h.invoked submission hmem
        exact request_kept hserver hp

/-- An account that the screen has created has the trimmed texts of its submission. -/
lemma Submitted.created {s : LoginScreen} (h : Submitted P s₀ s) {submission : Submission}
    {doc : UserDoc} (hcreates : s.Creates submission doc) :
    doc.email = trimmed submission.email ∧ doc.username = trimmed submission.username := by
  obtain ⟨hmem, id, hadded⟩ := hcreates
  obtain ⟨p, hcall⟩ := h.invoked submission hmem
  obtain ⟨-, hemail, husername⟩ := account_of_added h.coherent hcall hadded
  rw [loginData_email] at hemail
  rw [loginData_username] at husername
  exact ⟨(Except.ok.inj hemail).symm, (Except.ok.inj husername).symm⟩

/-- **The form's check, exactly.**  From any store, through any edits, submissions by button or
return key and steps of the backend for this screen and for others: an account that a call of the
screen creates has a non-empty username and a non-empty e-mail address with an `@`, both trimmed,
if and only if the username submitted was not blank. -/
theorem account_valid_iff (r : Execution (loginScreenStep P) (LoginScreen.start s₀))
    {submission : Submission} {doc : UserDoc} (h : r.final.Creates submission doc) :
    ValidAccount doc ↔ NotBlank submission.username := by
  have hsubmitted : Submitted P s₀ r.final :=
    invariant_run (fun _ _ _ h hstep => submitted_step h hstep) submitted_start r.ran
  obtain ⟨hemail, husername⟩ := hsubmitted.created h
  rw [← trimmed_ne_empty_iff, ← husername]
  constructor
  · intro hvalid
    exact hvalid.username_ne_empty
  · intro hne
    have hat : Text.contains doc.email "@" = true := by
      rw [hemail, trimmed_contains_at]
      exact hsubmitted.checked submission h.1
    refine ⟨hne, ne_empty_of_contains_at hat, hat, ?_, ?_⟩
    · rw [husername]
      exact Text.strip_strip _ _
    · rw [hemail]
      exact Text.strip_strip _ _

/-! ## A username of spaces -/

/-- The backend serves a new call, and nobody else's. -/
def servesLogin : List LoginScreenEvent :=
  List.replicate 4 (.backend (.advance 0 (.commit idA)))

/-- Ada submits with the return key. -/
def adaRegisters : Execution (loginScreenStep .plain) (LoginScreen.start .empty) :=
  .ofEvents _ ([.edit .emailField " ada@whix.io", .edit .usernameField "ada ",
    .returnKey .usernameField] ++ servesLogin) (by decide +kernel)

/-- Somebody types a space for a username, and taps the button. -/
def spaceRegisters : Execution (loginScreenStep .plain) (LoginScreen.start .empty) :=
  .ofEvents _ ([.edit .emailField "ada@whix.io", .edit .usernameField " ", .tapButton] ++
    servesLogin) (by decide +kernel)

lemma adaRegisters_creates : adaRegisters.final.Creates ⟨0, " ada@whix.io", "ada "⟩
    (account .plain "ada@whix.io" "ada") := by
  have hsubmissions : adaRegisters.final.submissions = [⟨0, " ada@whix.io", "ada "⟩] := by rfl
  have hadded : (pathOf 0 adaRegisters.final.server.log).head? =
      some ⟨.addUser (account .plain "ada@whix.io" "ada"), .ok idA⟩ := by rfl
  exact ⟨hsubmissions ▸ List.mem_singleton_self _, idA, List.mem_of_head? hadded⟩

lemma spaceRegisters_creates : spaceRegisters.final.Creates ⟨0, "ada@whix.io", " "⟩
    (account .plain "ada@whix.io" "") := by
  have hsubmissions : spaceRegisters.final.submissions = [⟨0, "ada@whix.io", " "⟩] := by rfl
  have hadded : (pathOf 0 spaceRegisters.final.server.log).head? =
      some ⟨.addUser (account .plain "ada@whix.io" ""), .ok idA⟩ := by rfl
  exact ⟨hsubmissions ▸ List.mem_singleton_self _, idA, List.mem_of_head? hadded⟩

theorem ada_account_valid : ValidAccount (account .plain "ada@whix.io" "ada") := by
  have hnotBlank : NotBlank "ada " := ⟨'a', by decide, by decide⟩
  exact (account_valid_iff adaRegisters adaRegisters_creates).mpr hnotBlank

/-- The account has an empty username. -/
theorem blank_username_registered :
    ¬ ∀ (r : Execution (loginScreenStep .plain) (LoginScreen.start .empty)) submission doc,
      r.final.Creates submission doc → ValidAccount doc := by
  intro h
  exact (h spaceRegisters _ _ spaceRegisters_creates).username_ne_empty rfl

end Whix
