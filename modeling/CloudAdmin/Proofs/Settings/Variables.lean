import CloudAdmin.Proofs.Result
import CloudAdmin.Settings.Basic

/-!
# Empty variables

A variable that is set to nothing should be as good as one that is not set. Nearly everything that
is read from an environment is read that way; two places look at a variable without asking whether
anything is in it. A flow is announced by a variable even if that is empty, and then the settings of
the flow are wanted although the variable that announced it gives nothing. An empty time limit is
taken for a number. Main statement: an environment means the same without its empty variables unless
one of just these two decides what is read from it.
-/

namespace CloudAdmin

namespace Environment

variable {environment : Environment} {name : String} {flow : LoginFlow}

/-- An environment without the variables that are set to nothing. -/
def withoutEmpty (environment : Environment) : Environment :=
  fun name => if environment name = some "" then none else environment name

theorem withoutEmpty_of_ne (notEmpty : environment name ≠ some "") :
    environment.withoutEmpty name = environment name :=
  if_neg notEmpty

theorem withoutEmpty_of_eq (empty : environment name = some "") :
    environment.withoutEmpty name = none :=
  if_pos empty

theorem nonEmpty?_of_eq (empty : environment name = some "") :
    environment.nonEmpty? name = none := by
  rw [nonEmpty?, empty]
  rfl

theorem nonEmpty?_withoutEmpty (environment : Environment) (name : String) :
    environment.withoutEmpty.nonEmpty? name = environment.nonEmpty? name := by
  by_cases empty : environment name = some ""
  · rw [nonEmpty?_of_eq empty, nonEmpty?, withoutEmpty_of_eq empty]
    rfl
  · rw [nonEmpty?, withoutEmpty_of_ne empty, nonEmpty?]

/-- The flow that an environment announces first. -/
def announced? (environment : Environment) : Option LoginFlow :=
  LoginFlow.all.find? fun flow => (environment flow.announcement).isSome

theorem announced?_withoutEmpty_of_none (nothing : environment.announced? = none) :
    environment.withoutEmpty.announced? = none := by
  simp only [announced?, List.find?_eq_none] at nothing ⊢
  intro flow member
  have absent : environment flow.announcement = none := by
    simpa using nothing flow member
  rw [withoutEmpty_of_ne (by simp [absent]), absent]
  simp

/-- A flow that is announced by something stays the first one: whatever is announced before it
without the empty variables is announced before it with them. -/
theorem announced?_withoutEmpty_of_some (first : environment.announced? = some flow)
    (notEmpty : environment flow.announcement ≠ some "") :
    environment.withoutEmpty.announced? = some flow := by
  simp only [announced?, List.find?_eq_some_iff_append] at first ⊢
  rcases first with ⟨announces, before, after, split, earlier⟩
  refine ⟨?_, before, after, split, ?_⟩
  · rwa [withoutEmpty_of_ne notEmpty]
  · intro other member
    have absent : environment other.announcement = none := by
      simpa using earlier other member
    rw [withoutEmpty_of_ne (by simp [absent]), absent]
    rfl

end Environment

/-- Every flow is announced by a variable of its own. -/
theorem LoginFlow.eq_of_announcement_mem {flow other : LoginFlow}
    (member : flow.announcement ∈ other.settings.map LoginSetting.variable_) : other = flow := by
  cases flow <;> cases other <;> first | rfl | exact absurd member (by decide)

namespace LoginSettings

variable {environment : Environment} {flow : LoginFlow} {name : String}

theorem exists_of_collect_eq_error {give : LoginSetting → Except ApiError GivenSettings}
    {settings : List LoginSetting} {error : ApiError}
    (failed : collect give settings = .error error) :
    ∃ setting ∈ settings, give setting = .error error := by
  induction settings with
  | nil => cases failed
  | cons setting rest ih =>
      rcases eq_or_exists_of_bind_eq_error failed with here | ⟨given, -, next⟩
      · exact ⟨setting, List.mem_cons_self .., here⟩
      rcases eq_or_exists_of_bind_eq_error next with later | ⟨others, -, built⟩
      · rcases ih later with ⟨other, member, gave⟩
        exact ⟨other, List.mem_cons_of_mem _ member, gave⟩
      · cases built

theorem eq_of_inEnvironment_eq_error {setting : LoginSetting} {error : ApiError}
    (failed : setting.inEnvironment environment = .error error) :
    error = .unsetVariable setting.variable_ ∧ environment.nonEmpty? setting.variable_ = none := by
  unfold LoginSetting.inEnvironment at failed
  split at failed
  · cases failed
  · rename_i absent
    unfold LoginSetting.missing at failed
    split at failed
    · exact ⟨(Except.error.inj failed).symm, absent⟩
    · cases failed
    · cases failed

theorem eq_of_ofGiven_eq_error {given : GivenSettings} {error : ApiError}
    (failed : ofGiven flow given = .error error) : error = .invalidSettings := by
  unfold ofGiven at failed
  extract_lets text at failed
  have textFails {name : String} {error : ApiError} (missing : text name = .error error) :
      error = .invalidSettings := by
    simp only [text] at missing
    split at missing
    · cases missing
    · exact (Except.error.inj missing).symm
  cases flow <;>
    repeat first
      | exact textFails failed
      | cases failed
      | rcases eq_or_exists_of_bind_eq_error failed with failed | ⟨_, -, failed⟩

/-- If a variable is missed, it is a setting of the flow that is announced. -/
theorem exists_of_ofEnvironment_eq_unset
    (failed : ofEnvironment environment = .error (.unsetVariable name)) :
    ∃ flow, environment.announced? = some flow ∧
      name ∈ flow.settings.map LoginSetting.variable_ := by
  unfold ofEnvironment at failed
  split at failed
  · cases failed
  · rename_i flow first
    refine ⟨flow, first, ?_⟩
    rcases eq_or_exists_of_bind_eq_error failed with missed | ⟨given, -, unfit⟩
    · rcases exists_of_collect_eq_error missed with ⟨setting, member, gave⟩
      have same := ApiError.unsetVariable.inj (eq_of_inEnvironment_eq_error gave).1
      exact List.mem_map.mpr ⟨setting, member, same.symm⟩
    · cases eq_of_ofGiven_eq_error unfit

/-- A flow that is announced by nothing misses the variable that announced it. -/
theorem ofEnvironment_of_emptyAnnouncement (first : environment.announced? = some flow)
    (empty : environment flow.announcement = some "") :
    ofEnvironment environment = .error (.unsetVariable flow.announcement) := by
  have nothing := Environment.nonEmpty?_of_eq empty
  rw [Environment.announced?] at first
  simp only [ofEnvironment, first]
  cases flow <;>
    simp only [LoginFlow.settings, LoginFlow.announcement, collect,
      LoginSetting.inEnvironment, LoginSetting.missing] at nothing ⊢ <;>
    rw [nothing] <;> rfl

theorem ofEnvironment_withoutEmpty
    (free : ∀ flow, environment.announced? = some flow →
      environment flow.announcement ≠ some "") :
    ofEnvironment environment.withoutEmpty = ofEnvironment environment := by
  have same : environment.withoutEmpty.announced? = environment.announced? := by
    cases first : environment.announced? with
    | none => exact Environment.announced?_withoutEmpty_of_none first
    | some flow => exact Environment.announced?_withoutEmpty_of_some first (free flow first)
  have given : (LoginSetting.inEnvironment environment.withoutEmpty) =
      LoginSetting.inEnvironment environment := by
    funext setting
    rw [LoginSetting.inEnvironment, Environment.nonEmpty?_withoutEmpty,
      LoginSetting.inEnvironment]
  simp only [Environment.announced?] at same
  simp only [ofEnvironment, same, given]

/-- Without the variable that announced it in vain a flow is not announced, so nothing can miss that
variable. -/
theorem ofEnvironment_withoutEmpty_ne (first : environment.announced? = some flow)
    (empty : environment flow.announcement = some "") :
    ofEnvironment environment.withoutEmpty ≠ ofEnvironment environment := by
  rw [ofEnvironment_of_emptyAnnouncement first empty]
  intro failed
  rcases exists_of_ofEnvironment_eq_unset failed with ⟨other, announces, member⟩
  rcases LoginFlow.eq_of_announcement_mem member with rfl
  have announced := List.find?_some announces
  rw [Environment.withoutEmpty_of_eq empty] at announced
  cases announced

end LoginSettings

/-- Whether an empty variable decides what is read from an environment: it announces the flow, or
it stands for the time limit of a login that is complete. -/
inductive Environment.HangsOnEmpty (environment : Environment) : Prop where
  | announcement {flow : LoginFlow} (first : environment.announced? = some flow)
      (empty : environment flow.announcement = some "") : HangsOnEmpty environment
  | timeLimit {login : LoginSettings}
      (complete : LoginSettings.ofEnvironment environment = .ok login)
      (empty : environment "ZSCALER_TIMEOUT_SECS" = some "") : HangsOnEmpty environment

namespace Settings

variable {environment : Environment}

theorem timeoutIn_of_eq (empty : environment "ZSCALER_TIMEOUT_SECS" = some "") :
    timeoutIn environment = .error (.invalidTimeout "") := by
  rw [timeoutIn, empty]
  rfl

theorem timeoutIn_withoutEmpty_of_eq (empty : environment "ZSCALER_TIMEOUT_SECS" = some "") :
    timeoutIn environment.withoutEmpty = .ok defaultTimeout := by
  rw [timeoutIn, Environment.withoutEmpty_of_eq empty]

theorem timeoutIn_withoutEmpty_of_ne (notEmpty : environment "ZSCALER_TIMEOUT_SECS" ≠ some "") :
    timeoutIn environment.withoutEmpty = timeoutIn environment := by
  rw [timeoutIn, Environment.withoutEmpty_of_ne notEmpty, timeoutIn]

theorem exists_of_timeoutIn_eq_error {error : ApiError}
    (failed : timeoutIn environment = .error error) : ∃ text, error = .invalidTimeout text := by
  unfold timeoutIn at failed
  split at failed
  · cases failed
  · split at failed
    · cases failed
    · exact ⟨_, (Except.error.inj failed).symm⟩

/-- A variable that is missed is missed by the login. -/
theorem login_of_ofEnvironment_eq_unset {name : String}
    (failed : ofEnvironment environment = .error (.unsetVariable name)) :
    LoginSettings.ofEnvironment environment = .error (.unsetVariable name) := by
  rcases eq_or_exists_of_bind_eq_error failed with missed | ⟨login, -, next⟩
  · exact missed
  rcases eq_or_exists_of_bind_eq_error next with slow | ⟨timeout, -, built⟩
  · rcases exists_of_timeoutIn_eq_error slow with ⟨text, wrong⟩
    cases wrong
  · cases built

theorem ofEnvironment_of_login_eq_error {error : ApiError}
    (failed : LoginSettings.ofEnvironment environment = .error error) :
    ofEnvironment environment = .error error := by
  rw [ofEnvironment, failed]
  rfl

/-- An environment means the same without its empty variables just if none of them decides what is
read from it. -/
theorem ofEnvironment_withoutEmpty_iff (environment : Environment) :
    ofEnvironment environment.withoutEmpty = ofEnvironment environment ↔
      ¬environment.HangsOnEmpty := by
  constructor
  · intro same hangs
    cases hangs with
    | @announcement flow first empty =>
        have missed := LoginSettings.ofEnvironment_of_emptyAnnouncement first empty
        have missedToo := same.trans (ofEnvironment_of_login_eq_error missed)
        apply LoginSettings.ofEnvironment_withoutEmpty_ne first empty
        rw [missed, login_of_ofEnvironment_eq_unset missedToo]
    | @timeLimit login complete empty =>
        have announced : ∀ flow, environment.announced? = some flow →
            environment flow.announcement ≠ some "" := by
          intro flow first nothing
          rw [LoginSettings.ofEnvironment_of_emptyAnnouncement first nothing] at complete
          cases complete
        have completeToo := (LoginSettings.ofEnvironment_withoutEmpty announced).trans complete
        rw [ofEnvironment, ofEnvironment, complete, completeToo, timeoutIn_of_eq empty,
          timeoutIn_withoutEmpty_of_eq empty] at same
        cases same
  · intro free
    have login : LoginSettings.ofEnvironment environment.withoutEmpty =
        LoginSettings.ofEnvironment environment := by
      apply LoginSettings.ofEnvironment_withoutEmpty
      intro flow first empty
      exact free (.announcement first empty)
    cases complete : LoginSettings.ofEnvironment environment with
    | error error =>
        rw [ofEnvironment_of_login_eq_error complete,
          ofEnvironment_of_login_eq_error (login.trans complete)]
    | ok settings =>
        have timeout : environment "ZSCALER_TIMEOUT_SECS" ≠ some "" := by
          intro empty
          exact free (.timeLimit complete empty)
        rw [ofEnvironment, ofEnvironment, login, timeoutIn_withoutEmpty_of_ne timeout,
          Environment.nonEmpty?_withoutEmpty]

/-- An environment with all that one flow asks for, and an empty variable that announces another. -/
def hiddenLogin : Environment := fun name =>
  Assoc.find? name [("ZSCALER_CLIENT_ID", ""), ("ZIA_USERNAME", "admin"), ("ZIA_PASSWORD", "pw"),
    ("ZIA_API_KEY", "abcdefghijkl")]

/-- An empty variable hides a login that is complete. -/
theorem ofEnvironment_hiddenLogin :
    ofEnvironment hiddenLogin = .error (.unsetVariable "ZSCALER_CLIENT_ID") ∧
      ofEnvironment hiddenLogin.withoutEmpty =
        .ok (ofLogin (.zia "admin" ⟨"pw"⟩ ⟨"abcdefghijkl"⟩ "zscaler")) :=
  ⟨rfl, rfl⟩

end Settings

end CloudAdmin
