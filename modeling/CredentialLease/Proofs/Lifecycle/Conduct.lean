import CredentialLease.Lifecycle.Renewer
import CredentialLease.Proofs.Login.Conduct

/-!
# A manager does with logins what it may

Main statements: `conformsFrom_ensureIssued`, `conformsFrom_maybeRenew` and `conformsFrom_tick`.
Issuing, renewing and a tick of the control loop log in and out by sessions only, on every branch,
and keep no login open.
-/

namespace CredentialLease

variable {κ : Type} {kept : List AuthenticatedContext} {scene : Scene κ CredentialState}

namespace LifecycleManager

variable {manager : LifecycleManager κ}

theorem conformsFrom_acquire :
    (manager.acquire scene).ConformsFrom kept kept scene.world :=
  conformsFrom_withAuthenticatedContext fun _ _ _ _ =>
    TokenAcquirer.conformsFrom_acquire (.inl List.mem_cons_self)

/-- Storing a token has nothing to do with logins. -/
theorem conformsFrom_store {ω : Type} {message : String} {more : List (String × String)}
    {token : AccessToken} {outcome : ω} :
    (Activity.finished (manager.store message more token scene)
      (.ok outcome : Except CredentialError ω)).ConformsFrom kept kept scene.world :=
  Activity.conformsFrom_finished (.apart ⟨rfl, rfl, rfl⟩)

theorem conformsFrom_issueFresh :
    (manager.issueFresh scene).ConformsFrom kept kept scene.world :=
  conformsFrom_acquire.andThen fun _ _ => conformsFrom_store

theorem conformsFrom_ensureIssued :
    (manager.ensureIssued scene).ConformsFrom kept kept scene.world := by
  rw [ensureIssued]
  split
  · exact Activity.conformsFrom_finished .refl
  · exact conformsFrom_issueFresh
  · refine Activity.ConformsFrom.after ?_ conformsFrom_issueFresh
    exact .apart ⟨rfl, rfl, rfl⟩

theorem conformsFrom_renew {current : AccessToken} {decision : RenewalDecision} :
    (manager.renew current decision scene).ConformsFrom kept kept scene.world := by
  have hAcquire : (manager.acquire { scene with memory := .renewing }).ConformsFrom kept kept
      scene.world := conformsFrom_acquire
  refine (hAcquire.ensuring ?_ ?_).andThen fun _ _ => conformsFrom_store
  · intro result ended
    cases result with
    | error error => exact .refl
    | ok token => exact .refl
  · intro ended
    exact .refl

theorem conformsFrom_maybeRenew :
    (manager.maybeRenew scene).ConformsFrom kept kept scene.world := by
  rw [maybeRenew]
  split
  · dsimp only
    split
    · exact conformsFrom_renew
    · exact Activity.conformsFrom_finished .refl
  · exact Activity.conformsFrom_finished .refl
  · exact Activity.conformsFrom_finished (.apart ⟨rfl, rfl, rfl⟩)

end LifecycleManager

namespace Renewer

variable {renewer : Renewer κ CredentialState} {manager : LifecycleManager κ}

theorem conformsFrom_work (hIssuer : renewer.issuer = manager.issuer) :
    (renewer.work scene).ConformsFrom kept kept scene.world := by
  rw [work, hIssuer]
  refine LifecycleManager.conformsFrom_ensureIssued.andThen fun scene' outcome => ?_
  split
  · exact Activity.conformsFrom_finished .refl
  · exact LifecycleManager.conformsFrom_maybeRenew.map _

/-- Saving a record has nothing to do with logins. -/
theorem publish_sameExchanges (renewer : Renewer κ CredentialState) (loaded : CredentialRecord)
    (scene : Scene κ CredentialState) (result : Except Failure Unit) :
    scene.world.SameExchanges (renewer.publish loaded scene result).1.world := by
  rw [publish]
  split
  · exact .refl _
  · split
    · exact ⟨rfl, rfl, rfl⟩
    · exact ⟨rfl, rfl, rfl⟩

theorem conformsFrom_tick (hIssuer : renewer.issuer = manager.issuer) :
    (renewer.tick scene).ConformsFrom kept kept scene.world := by
  rw [tick]
  split
  · exact Activity.conformsFrom_finished .refl
  · next loaded _ =>
    obtain ⟨begun, hBegun⟩ : ∃ begun, begun = { scene with record := loaded } := ⟨_, rfl⟩
    have hWorld : begun.world = scene.world := by rw [hBegun]
    rw [← hBegun, ← hWorld]
    refine (conformsFrom_work hIssuer).within.bind fun scene' result => ?_
    exact Activity.conformsFrom_finished (.apart (publish_sameExchanges _ _ _ _))

end Renewer

end CredentialLease
