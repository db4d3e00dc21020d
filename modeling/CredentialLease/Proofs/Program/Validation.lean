import CredentialLease.Program.Process
import CredentialLease.Proofs.Issuance.ServiceReplies
import CredentialLease.Proofs.Token.Payload
import Mathlib.Data.List.DropRight

/-!
# Command lines that are valid and can still not be carried out

Before a command issues or renews a token, it makes the service of its endpoint and the manager of its
lease. Either may be refused, and so may the command line before. The settings of a lease are checked in
the same way both times, so a valid command line never lacks a principal, a key path or a key
(`LeaseOptions.validate_eq_ok_iff`). The endpoint is not: a command line may name any that is not blank,
while a service has to have an address without the slashes at its end. An endpoint of slashes alone is
valid, and there is no service for it (`exists_valid_line_without_manager`).

Main statement: `Program.builds_unless_onlySlashes`.
-/

namespace CredentialLease

/-! ### Services -/

/-- Whether a text has no characters but slashes. -/
def OnlySlashes (text : String) : Prop := ∀ c ∈ text.toList, c = '/'

instance (text : String) : Decidable (OnlySlashes text) :=
  List.decidableBAll (· = '/') text.toList

namespace HttpTokenEndpoint

/-- An address as a service has it: that of an endpoint without the slashes at its end. -/
structure IsBase (baseUrl endpoint : String) : Prop where
  nonempty : baseUrl ≠ ""
  last : baseUrl.toList.getLast? ≠ some '/'
  slashes : ∃ rest : String, OnlySlashes rest ∧ endpoint = baseUrl ++ rest

/-- What is left of an endpoint without the slashes at its end. -/
theorem create_eq (endpoint : String) : create endpoint =
    if endpoint.toList.rdropWhile (· = '/') = [] then .error (.other "token endpoint URL is empty")
    else .ok ⟨String.ofList (endpoint.toList.rdropWhile (· = '/'))⟩ := by
  have hEmpty : String.ofList (endpoint.toList.rdropWhile (· = '/')) = "" ↔
      endpoint.toList.rdropWhile (· = '/') = [] := by
    rw [← String.toList_inj, String.toList_ofList]
    rfl
  exact if_congr hEmpty rfl rfl

theorem rdropWhile_eq_nil_iff {endpoint : String} :
    endpoint.toList.rdropWhile (· = '/') = [] ↔ OnlySlashes endpoint := by
  rw [List.rdropWhile_eq_nil_iff]
  exact forall₂_congr fun _ _ => decide_eq_true_iff

/-- There is no service at an endpoint of slashes alone. -/
theorem create_of_onlySlashes {endpoint : String} (h : OnlySlashes endpoint) :
    create endpoint = .error (.other "token endpoint URL is empty") := by
  rw [create_eq, if_pos (rdropWhile_eq_nil_iff.mpr h)]

/-- What is left of every other endpoint is an address for a service. -/
theorem isBase_ofList {endpoint : String} (h : ¬ OnlySlashes endpoint) :
    IsBase (String.ofList (endpoint.toList.rdropWhile (· = '/'))) endpoint := by
  have hSome : endpoint.toList.rdropWhile (· = '/') ≠ [] :=
    fun hNil => h (rdropWhile_eq_nil_iff.mp hNil)
  constructor
  case nonempty =>
    intro hEmpty
    rw [← String.toList_inj, String.toList_ofList] at hEmpty
    exact hSome hEmpty
  case last =>
    rw [String.toList_ofList, List.getLast?_eq_some_getLast hSome]
    intro hLast
    exact List.rdropWhile_last_not (· = '/') endpoint.toList hSome
      (decide_eq_true (Option.some.inj hLast))
  case slashes =>
    refine ⟨String.ofList (endpoint.toList.rtakeWhile (· = '/')), ?_, ?_⟩
    · intro c hc
      rw [String.toList_ofList] at hc
      have hSlash := List.mem_rtakeWhile_imp hc
      exact of_decide_eq_true hSlash
    · rw [← String.ofList_append, List.rdropWhile_append_rtakeWhile, String.ofList_toList]

/-- **There is a service at every other endpoint.** -/
theorem exists_create {endpoint : String} (h : ¬ OnlySlashes endpoint) :
    ∃ service, create endpoint = .ok service ∧ IsBase service.baseUrl endpoint := by
  rw [create_eq, if_neg fun hNil => h (rdropWhile_eq_nil_iff.mp hNil)]
  exact ⟨_, rfl, isBase_ofList h⟩

end HttpTokenEndpoint

/-! ### Validation -/

theorem refuse_eq_ok_iff {condition : Bool} {message : String} :
    refuse condition message = .ok () ↔ condition = false := by
  unfold refuse
  cases condition with
  | true => exact ⟨nofun, nofun⟩
  | false => exact ⟨fun _ => rfl, fun _ => rfl⟩

theorem LeaseSettings.validate_eq_ok_iff {settings : LeaseSettings} :
    settings.validate = .ok () ↔ ∃ credentials, settings.loginCredentials = .ok credentials := by
  unfold validate
  cases settings.loginCredentials with
  | error error => exact ⟨nofun, nofun⟩
  | ok credentials => exact ⟨fun _ => ⟨credentials, rfl⟩, fun _ => rfl⟩

/-- The key file to log in with is the one of the settings. -/
theorem LeaseSettings.keyPath_of_loginCredentials {settings : LeaseSettings}
    {credentials : LoginCredentials} (h : settings.loginCredentials = .ok credentials) :
    settings.keyPath = some credentials.keyPath := by
  unfold loginCredentials at h
  split at h
  · cases h
  split at h
  · cases h
  next path hPath =>
  split at h
  · cases h
  obtain rfl := Except.ok.inj h
  exact (Option.filter_eq_some_iff.mp hPath).1

variable {options : RecordOptions} {lease : LeaseOptions}

/-- **A valid lease has credentials to log in with**, and an endpoint that is not blank. -/
theorem LeaseOptions.validate_eq_ok_iff : lease.validate options = .ok () ↔
    (∃ credentials, (lease.settings options).loginCredentials = .ok credentials) ∧
    (∃ endpoint, lease.endpoint = some endpoint ∧ isBlankText endpoint = false) ∧
    lease.requestTimeoutSeconds ≠ 0 ∧ lease.tokenLifetimeSeconds ≠ some 0 := by
  unfold validate
  rw [bind_eq_ok, ← LeaseSettings.validate_eq_ok_iff]
  simp only [mapError_eq_ok_iff]
  constructor
  · rintro ⟨⟨⟩, hSettings, hRest⟩
    refine ⟨hSettings, ?_⟩
    cases hEndpoint : lease.endpoint with
    | none =>
      rw [hEndpoint] at hRest
      cases hRest
    | some endpoint =>
      rw [hEndpoint] at hRest
      dsimp only at hRest
      by_cases hBlank : isBlankText endpoint = true
      · rw [if_pos hBlank] at hRest
        cases hRest
      · rw [if_neg hBlank, bind_eq_ok] at hRest
        obtain ⟨⟨⟩, hTimeout, hLifetime⟩ := hRest
        exact ⟨⟨endpoint, rfl, Bool.eq_false_iff.mpr hBlank⟩,
          of_decide_eq_false (refuse_eq_ok_iff.mp hTimeout),
          of_decide_eq_false (refuse_eq_ok_iff.mp hLifetime)⟩
  · rintro ⟨hSettings, ⟨endpoint, hEndpoint, hBlank⟩, hTimeout, hLifetime⟩
    refine ⟨(), hSettings, ?_⟩
    rw [hEndpoint]
    dsimp only
    rw [if_neg (Bool.eq_false_iff.mp hBlank), bind_eq_ok]
    exact ⟨(), refuse_eq_ok_iff.mpr (decide_eq_false hTimeout),
      refuse_eq_ok_iff.mpr (decide_eq_false hLifetime)⟩

/-! ### Commands that take a lease -/

/-- The commands that take a lease. -/
theorem Command.cases_of_lease {command : Command} (hLease : Program.leaseOf command = some lease)
    (hRecord : command.record? = some options) : command = .issue options lease ∨
      command = .renew options lease ∨ ∃ schedule, command = .run options lease schedule := by
  cases command with
  | issue record found =>
    cases hLease
    cases hRecord
    exact .inl rfl
  | renew record found =>
    cases hLease
    cases hRecord
    exact .inr (.inl rfl)
  | run record found schedule =>
    cases hLease
    cases hRecord
    exact .inr (.inr ⟨schedule, rfl⟩)
  | _ => cases hLease

/-- A valid command line has a valid lease, if its command takes one. -/
theorem CommandLine.validate_lease {line : CommandLine} (hLease : Program.leaseOf line.command = some lease)
    (hRecord : line.command.record? = some options) (hValid : line.validate = .ok ()) :
    lease.validate options = .ok () := by
  obtain ⟨⟨⟩, -, hCommand⟩ := bind_eq_ok.mp hValid
  rcases Command.cases_of_lease hLease hRecord with hLine | hLine | ⟨schedule, hLine⟩
  · rw [hLine] at hCommand
    obtain ⟨⟨⟩, -, hRest⟩ := bind_eq_ok.mp hCommand
    exact hRest
  · rw [hLine] at hCommand
    obtain ⟨⟨⟩, -, hRest⟩ := bind_eq_ok.mp hCommand
    exact hRest
  · rw [hLine] at hCommand
    obtain ⟨⟨⟩, -, hRest⟩ := bind_eq_ok.mp hCommand
    obtain ⟨⟨⟩, hFound, -⟩ := bind_eq_ok.mp hRest
    exact hFound

namespace Program

/-- **The manager of a lease** has its settings and credentials, and is made if there is a service. -/
theorem managerOf_eq_ok_iff {manager : LifecycleManager Disk} : managerOf options lease = .ok manager ↔
    (∃ service, serviceOf lease = .ok service) ∧
      ∃ credentials, (lease.settings options).loginCredentials = .ok credentials ∧
        manager = ⟨lease.settings options, credentials, provider⟩ := by
  rw [managerOf, bind_eq_ok, exists_and_right, mapError_eq_ok_iff, LifecycleManager.create]
  cases (lease.settings options).loginCredentials with
  | error error => exact and_congr_right' ⟨nofun, nofun⟩
  | ok credentials =>
    refine and_congr_right' ⟨fun h => ⟨credentials, rfl, (Except.ok.inj h).symm⟩, ?_⟩
    rintro ⟨found, hFound, rfl⟩
    obtain rfl := Except.ok.inj hFound
    rfl

/-- There is no manager without a service. -/
theorem managerOf_of_serviceOf_error {failure : Failure} (hService : serviceOf lease = .error failure) :
    managerOf options lease = .error failure := by
  rw [managerOf, hService]
  rfl

/-- A command without a manager fails at once. -/
theorem job_of_managerOf_error {command : Command} {failure : Failure} {ticks : Nat} {stage : Stage}
    (hLease : leaseOf command = some lease) (hRecord : command.record? = some options)
    (hManager : managerOf options lease = .error failure) :
    job ticks stage command = fail stage failure := by
  rcases Command.cases_of_lease hLease hRecord with rfl | rfl | ⟨schedule, rfl⟩
  · rw [job, issue, hManager]
  · rw [job, renew, hManager]
  · rw [job, run, hManager]

/-- A process whose command fails at once leaves the files and asks nobody. -/
theorem exit?_of_job_eq_fail {line : CommandLine} {failure : Failure} {ticks : Nat} {stage : Stage}
    (transport : Duration → HttpTransport Disk)
    (h : job ticks stage line.command = fail stage failure) :
    exit? ticks transport stage (.run line) = some ⟨failureCode failure, stage.world.storage, []⟩ := by
  rw [exit?, execution, h]
  rfl

/-- **A command that takes a lease finds what it needs, if its command line is valid**: the credentials to
log in with, the service of its endpoint and the manager of its lease. An endpoint of slashes alone is
the only exception. There is no service for it, and the process exits with 1, while it exits with 2 when
it refuses the command line. -/
theorem builds_unless_onlySlashes (ticks : Nat) (transport : Duration → HttpTransport Disk)
    (stage : Stage) {environment : CommandLine.Values} {arguments : List String} {line : CommandLine}
    (hParse : CommandLine.parse environment arguments = .ok line)
    (hLease : leaseOf line.command = some lease) (hRecord : line.command.record? = some options) :
    (∀ failure, line.validate = .error failure →
      exit? ticks transport stage (start environment arguments) = some ⟨2, stage.world.storage, []⟩) ∧
    (line.validate = .ok () → ∃ endpoint credentials, lease.endpoint = some endpoint ∧
      (lease.settings options).loginCredentials = .ok credentials ∧
      (¬ OnlySlashes endpoint → ∃ service, serviceOf lease = .ok service ∧
        HttpTokenEndpoint.IsBase service.baseUrl endpoint ∧
        managerOf options lease = .ok ⟨lease.settings options, credentials, provider⟩) ∧
      (OnlySlashes endpoint →
        managerOf options lease = .error (.other "token endpoint URL is empty") ∧
        exit? ticks transport stage (start environment arguments)
          = some ⟨1, stage.world.storage, []⟩)) := by
  constructor
  · intro failure hRefused
    rw [start, hParse]
    dsimp only
    rw [hRefused]
    rfl
  · intro hValid
    have hStart : start environment arguments = .run line := by
      rw [start, hParse]
      dsimp only
      rw [hValid]
    obtain ⟨⟨credentials, hCredentials⟩, ⟨endpoint, hEndpoint, -⟩, -, -⟩ :=
      LeaseOptions.validate_eq_ok_iff.mp (CommandLine.validate_lease hLease hRecord hValid)
    have hService : serviceOf lease = HttpTokenEndpoint.create endpoint := by
      rw [serviceOf, hEndpoint]
    refine ⟨endpoint, credentials, hEndpoint, hCredentials, fun hSome => ?_, fun hSlashes => ?_⟩
    · obtain ⟨service, hCreate, hBase⟩ := HttpTokenEndpoint.exists_create hSome
      rw [hCreate] at hService
      exact ⟨service, hService, hBase,
        managerOf_eq_ok_iff.mpr ⟨⟨service, hService⟩, credentials, hCredentials, rfl⟩⟩
    · rw [HttpTokenEndpoint.create_of_onlySlashes hSlashes] at hService
      have hManager : managerOf options lease = .error (.other "token endpoint URL is empty") :=
        managerOf_of_serviceOf_error hService
      rw [hStart]
      exact ⟨hManager, exit?_of_job_eq_fail transport (job_of_managerOf_error hLease hRecord hManager)⟩

/-- A token is issued at an endpoint with a slash at its end. -/
theorem builds_unless_onlySlashes_trailing :
    ∃ (line : CommandLine) (options : RecordOptions) (lease : LeaseOptions) (service : HttpTokenEndpoint)
      (manager : LifecycleManager Disk),
      CommandLine.parse [] ["issue", "--record", "record.json", "--principal", "svc", "--key-path", "key",
        "--endpoint", "h/"] = .ok line ∧
      leaseOf line.command = some lease ∧ line.command.record? = some options ∧
      line.validate = .ok () ∧ serviceOf lease = .ok service ∧
      HttpTokenEndpoint.IsBase service.baseUrl "h/" ∧ managerOf options lease = .ok manager := by
  obtain ⟨line, options, lease, hParse, hLease, hRecord, hValid, hEndpoint⟩ :
      ∃ (line : CommandLine) (options : RecordOptions) (lease : LeaseOptions),
        CommandLine.parse [] ["issue", "--record", "record.json", "--principal", "svc", "--key-path",
          "key", "--endpoint", "h/"] = .ok line ∧
        leaseOf line.command = some lease ∧ line.command.record? = some options ∧
        line.validate = .ok () ∧ lease.endpoint = some "h/" :=
    ⟨_, _, _, rfl, rfl, rfl, rfl, rfl⟩
  obtain ⟨stage⟩ : Nonempty Stage := ⟨⟨.start ⟨0⟩ ⟨FileTree.fresh [], 0, 0⟩ fun _ => "1", .empty, .unissued⟩⟩
  obtain ⟨endpoint, credentials, hFound, -, hBuilt, -⟩ :=
    (builds_unless_onlySlashes 1 (fun _ _ _ => .now (.error .unreachable)) stage hParse hLease hRecord).2
      hValid
  obtain rfl : "h/" = endpoint := Option.some.inj (hEndpoint.symm.trans hFound)
  obtain ⟨service, hService, hBase, hManager⟩ := hBuilt (by decide)
  exact ⟨line, options, lease, service, _, hParse, hLease, hRecord, hValid, hService, hBase, hManager⟩

/-- **A command line is valid and cannot be carried out**: its endpoint is a slash. The process exits
with 1. -/
theorem exists_valid_line_without_manager :
    ∃ (line : CommandLine) (options : RecordOptions) (lease : LeaseOptions),
      CommandLine.parse [] ["issue", "--record", "record.json", "--principal", "svc", "--key-path", "key",
        "--endpoint", "/"] = .ok line ∧
      leaseOf line.command = some lease ∧ line.command.record? = some options ∧
      line.validate = .ok () ∧
      managerOf options lease = .error (.other "token endpoint URL is empty") ∧
      ∀ (ticks : Nat) (transport : Duration → HttpTransport Disk) (stage : Stage),
        exit? ticks transport stage (.run line) = some ⟨1, stage.world.storage, []⟩ :=
  ⟨_, _, _, rfl, rfl, rfl, rfl, rfl, fun _ _ _ => rfl⟩

end Program

end CredentialLease
