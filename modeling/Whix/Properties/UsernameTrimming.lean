import Whix.Properties.SessionCoherence

/-!
# Two ways to trim a username

The backend trims a username with `String.trim`, and looks accounts up under the result.  The
client trims the text of its field by itself and stores that, to post under it later.  The two
sets of characters differ in two: U+0085 is trimmed by the client only, U+FEFF by the backend only
(`whitespaces_eq_iff`).

`usernames_agree_iff` follows: after a login the stored username is that of the account if and
only if neither of the two stands among the white space at either end of the text.
-/

namespace Whix

open Js Runs

variable {P : Platform}

/-- The client stores the username of the account `userId`, and a post under that name is made in
the name of this account. -/
structure UsernameAgrees (P : Platform) (t : Session) (userId username : String) : Prop where
  stored : t.defaults.loggedInUsername = some username
  named : NamesUser t.store.users userId username
  posts : ∀ data now env postId, data.member "username" = .ok (.string username) →
    (serve P env (.post now data) t.store).1 = .ok (.string postId) →
    ∃ id doc, id.val = postId ∧
      (serve P env (.post now data) t.store).2.post.get? id = some doc ∧
      doc.userid = ⟨"/users/" ++ userId⟩

/-- A login with these texts, and nothing else. -/
def loginAlone (email username : String) (env : Outcome) : List SessionEvent :=
  [.showLogin, .edit 0 .emailField email, .edit 0 .usernameField username, .tapLogin 0,
    .execute 0 env, .deliver 0]

/-- U+0085 -/
def nextLine : Char := Char.ofNat 0x85

/-- U+FEFF -/
def zeroWidthNoBreakSpace : Char := Char.ofNat 0xFEFF

/-- Neither U+0085 nor U+FEFF stands among the white space at either end of the text, white space
being what either of the two languages trims. -/
def PlainEdges (username : String) : Prop :=
  ∀ c ∈ Text.edges (Text.either CharacterSet.whitespacesAndNewlines Value.isWhiteSpace)
    username.toList, c ≠ nextLine ∧ c ≠ zeroWidthNoBreakSpace

/-! ## The two sets of characters -/

lemma whitespaces_eq_iff (c : Char) :
    CharacterSet.whitespacesAndNewlines c = Value.isWhiteSpace c ↔
      c ≠ nextLine ∧ c ≠ zeroWidthNoBreakSpace := by
  have hnextLine : c = nextLine ↔ c.toNat = 0x85 := by
    rw [← Char.toNat_inj]
    rfl
  have hzeroWidth : c = zeroWidthNoBreakSpace ↔ c.toNat = 0xFEFF := by
    rw [← Char.toNat_inj]
    rfl
  rw [ne_eq, ne_eq, hnextLine, hzeroWidth, CharacterSet.whitespacesAndNewlines,
    CharacterSet.separators, Value.isWhiteSpace, Bool.eq_iff_iff]
  simp only [Bool.or_eq_true, Bool.and_eq_true, beq_iff_eq, decide_eq_true_eq]
  omega

/-- The two trimmings of a text. -/
lemma strip_eq_trimmed_iff (username : String) :
    Text.strip CharacterSet.whitespacesAndNewlines username = trimmed username ↔
      PlainEdges username := by
  rw [trimmed, Text.strip_eq_strip_iff]
  exact forall₂_congr fun c _ => whitespaces_eq_iff c

/-! ## A login by itself -/

/-- The form with these texts typed into it. -/
def LoginForm.typed (email username : String) : LoginForm :=
  (LoginForm.viewDidLoad.edit .emailField email).edit .usernameField username

@[simp] lemma LoginForm.typed_emailField (email username : String) :
    (LoginForm.typed email username).emailField = email := by
  simp [typed, edit]

@[simp] lemma LoginForm.typed_usernameField (email username : String) :
    (LoginForm.typed email username).usernameField = username := by
  simp [typed, edit]

/-- A login that has stored an identifier was answered with it, and has stored the text of the
field as the client trims it. -/
lemma loginAlone_stored {W : Char → Bool} {s₀ : Store} {t : Session} {env : Outcome}
    {email username userId : String}
    (hrun : run (sessionStep P W) (.start s₀) (loginAlone email username env) = some t)
    (hid : t.defaults.loggedInUserId = some userId) :
    (serve P env (.login (loginData email username)) s₀).1 = .ok (.string userId) ∧
      t.store = (serve P env (.login (loginData email username)) s₀).2 ∧
      t.defaults.loggedInUsername = some (Text.strip W username) := by
  have hsplit : loginAlone email username env =
      [.showLogin, .edit 0 .emailField email, .edit 0 .usernameField username, .tapLogin 0] ++
        [.execute 0 env, .deliver 0] := rfl
  have htap : run (sessionStep P W) (.start s₀)
      [.showLogin, .edit 0 .emailField email, .edit 0 .usernameField username, .tapLogin 0] =
        some (Session.onLoginClicked ⟨⟨none, none⟩, [.typed email username], [], s₀⟩ 0
          (.typed email username)) := rfl
  rw [hsplit, run_append, htap, Option.bind_some, Session.onLoginClicked] at hrun
  dsimp only at hrun
  split at hrun
  · simp only [List.nil_append, LoginForm.checkBtnStatus_emailField, LoginForm.typed_emailField,
      LoginForm.checkBtnStatus_usernameField, LoginForm.typed_usernameField, run_cons, sessionStep,
      List.getElem?_cons_zero, Session.execute, Option.bind_eq_bind, Option.bind_some,
      List.set_cons_zero, List.eraseIdx_zero, List.tail_cons, Option.pure_def, run_nil,
      Option.some.injEq] at hrun
    subst hrun
    by_cases hreply : ∃ userId,
        (serve P env (.login (loginData email username)) s₀).1 = .ok (.string userId)
    · obtain ⟨userId', hreply⟩ := hreply
      rw [hreply, Session.onReply_defaults_of_id] at hid ⊢
      obtain rfl := Option.some.inj hid
      rw [LoginForm.checkBtnStatus_usernameField, LoginForm.typed_usernameField]
      exact ⟨rfl, Session.onReply_store _ _ _ _, rfl⟩
    · rw [Session.onReply_defaults_of_not_id _ _ _ _ (not_exists.mp hreply)] at hid
      simp at hid
  · -- the button is disabled, and no call is sent
    simp [run_cons, sessionStep] at hrun

/-- A post under the username of an account is made in its name, if usernames are unique. -/
lemma posts_as_of_named {s : Store} {userId username : String}
    (hunique : UniqueUsernames s.users) (hnamed : NamesUser s.users userId username)
    {data : Value} (husername : data.member "username" = .ok (.string username)) (now : Timestamp)
    (env : Outcome) {postId : String}
    (hreply : (serve P env (.post now data) s).1 = .ok (.string postId)) :
    ∃ id doc, id.val = postId ∧ (serve P env (.post now data) s).2.post.get? id = some doc ∧
      doc.userid = ⟨"/users/" ++ userId⟩ := by
  obtain ⟨user, userDoc, rfl, hget, rfl⟩ := hnamed
  have haccount := (accountOf_eq_some_iff hunique hget userDoc.username).mpr rfl
  have houtcome := serve_post (P := P) husername now env s
  generalize serve P env (.post now data) s = served at houtcome hreply ⊢
  obtain ⟨reply, s'⟩ := served
  dsimp only at houtcome hreply ⊢
  cases houtcome with
  | @posted id doc post hadd huserid =>
      refine ⟨id, doc, ?_, Collection.get?_add_self hadd, ?_⟩
      · simpa using hreply
      · rw [huserid, haccount]
        rfl
  | failed => simp at hreply

/-- **Trimming on both sides, exactly.**  From any accounts with unique usernames, a login with any
texts that is answered with an identifier, and nothing in between: the stored username is that of
the account, and a post under it is made in the account's name, if and only if neither U+0085 nor
U+FEFF stands among the white space at either end of the username. -/
theorem usernames_agree_iff {s₀ : Store} {t : Session} {env : Outcome}
    {email username userId : String} (hunique : UniqueUsernames s₀.users)
    (hrun : run (sessionStep P CharacterSet.whitespacesAndNewlines) (.start s₀)
      (loginAlone email username env) = some t)
    (hid : t.defaults.loggedInUserId = some userId) :
    (∃ stored, UsernameAgrees P t userId stored) ↔ PlainEdges username := by
  obtain ⟨hreply, hstore, hstored⟩ := loginAlone_stored hrun hid
  have hnamed : NamesUser t.store.users userId (trimmed username) :=
    hstore ▸ namesUser_of_login hreply
  have hunique' : UniqueUsernames t.store.users := by
    rw [hstore]
    exact (serve_loginData email username env s₀).uniqueUsernames hunique
  rw [← strip_eq_trimmed_iff]
  constructor
  · rintro ⟨stored, hagrees⟩
    obtain rfl := Option.some.inj (hagrees.stored.symm.trans hstored)
    exact hagrees.named.username_eq hnamed
  · intro hsame
    refine ⟨trimmed username, hsame ▸ hstored, hnamed, ?_⟩
    intro data now env' postId husername hposted
    exact posts_as_of_named hunique' hnamed husername now env' hposted

/-! ## A pasted username -/

lemma uniqueUsernames_empty : UniqueUsernames Store.empty.users := by
  intro i j a b ha
  simp [Store.empty] at ha

/-- Ada logs in with spaces around her username. -/
def spacedLogin :
    Execution (sessionStep .plain CharacterSet.whitespacesAndNewlines) (Session.start .empty) :=
  .ofEvents _ (loginAlone "ada@whix.io" " ada " (.commit idA)) (by decide +kernel)

/-- Ada logs in with a username that begins with U+FEFF. -/
def pastedLogin :
    Execution (sessionStep .plain CharacterSet.whitespacesAndNewlines) (Session.start .empty) :=
  .ofEvents _ (loginAlone "ada@whix.io" (String.ofList [zeroWidthNoBreakSpace, 'a', 'd', 'a'])
    (.commit idA)) (by decide +kernel)

theorem spaced_usernames_agree :
    ∃ stored, UsernameAgrees .plain spacedLogin.final idA.val stored := by
  have hid : spacedLogin.final.defaults.loggedInUserId = some idA.val := by decide +kernel
  have hedges : Text.edges (Text.either CharacterSet.whitespacesAndNewlines Value.isWhiteSpace)
      " ada ".toList = [' ', ' '] := by decide +kernel
  have hplain : PlainEdges " ada " := by
    intro c hc
    rw [hedges] at hc
    obtain rfl : c = ' ' := by simpa using hc
    exact ⟨by decide, by decide⟩
  exact (usernames_agree_iff uniqueUsernames_empty spacedLogin.ran hid).mpr hplain

/-- Her account is `ada`, but the client stores U+FEFF in front of it. -/
theorem pasted_usernames_differ :
    ¬ ∀ (s₀ : Store) (t : Session) (env : Outcome) (email username userId : String),
      UniqueUsernames s₀.users →
      run (sessionStep .plain CharacterSet.whitespacesAndNewlines) (.start s₀)
        (loginAlone email username env) = some t →
      t.defaults.loggedInUserId = some userId →
      ∃ stored, UsernameAgrees .plain t userId stored := by
  intro h
  have hid : pastedLogin.final.defaults.loggedInUserId = some idA.val := by decide +kernel
  have hget : pastedLogin.final.store.users.get? idA =
      some (account .plain "ada@whix.io" "ada") := by decide +kernel
  obtain ⟨stored, hagrees⟩ := h .empty pastedLogin.final _ _ _ _ uniqueUsernames_empty
    pastedLogin.ran hid
  obtain ⟨id, doc, hval, hdoc, rfl⟩ := hagrees.named
  obtain rfl := AutoId.val_injective hval
  obtain rfl := Option.some.inj (hget.symm.trans hdoc)
  have hstored : pastedLogin.final.defaults.loggedInUsername ≠ some "ada" := by decide +kernel
  exact hstored hagrees.stored

end Whix
