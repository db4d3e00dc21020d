import CredentialLease.Activity.Execution
import CredentialLease.Issuance.HttpEndpoint
import CredentialLease.Proofs.Issuance.Acquirer
import CredentialLease.Proofs.Token.StoredForm

/-!
# Which replies of a service give a token

A service dates the expiry of a token on its own clock, which may be ahead of the clock of the caller
or behind it by any amount. The issue is dated on the clock of the caller, but at the latest a
millisecond before the expiry, and not before the epoch (`toNat_issue`). So a grant makes a token as
soon as it expires after the epoch (`Grant.token_eq_ok_iff`), whatever the clock of the caller shows.

Main statement: `acquire_reply`.
-/

namespace CredentialLease

/-- A token is issued before it expires. -/
theorem AccessToken.issuedAt_lt_expiresAt (token : AccessToken) : token.issuedAt < token.expiresAt := by
  have hWords := UInt64.lt_iff_toNat_lt.mp token.issued_lt
  show ((token.issued.toNat * 1000000 : Nat) : Int) < (token.expires.toNat * 1000000 : Nat)
  omega

/-- Errors can be changed without changing what succeeds. -/
theorem mapError_eq_ok_iff {ε ε' α : Type} {f : ε → ε'} {result : Except ε α} {value : α} :
    result.mapError f = .ok value ↔ result = .ok value := by
  cases result with
  | error error => exact ⟨nofun, nofun⟩
  | ok other => exact ⟨fun h => congrArg _ (Except.ok.inj h), fun h => congrArg _ (Except.ok.inj h)⟩

/-- **What a final reply grants**: it is successful, and its body can be read. -/
structure HttpReply.Grants (reply : HttpReply) (grant : HttpTokenEndpoint.Grant) : Prop where
  success : reply.isSuccess = true
  read : (reply.body.bind Json.read).bind HttpTokenEndpoint.Grant.ofTree = some grant

/-- A reply grants one thing at most. -/
theorem HttpReply.Grants.unique {reply : HttpReply} {grant other : HttpTokenEndpoint.Grant}
    (h : reply.Grants grant) (hOther : reply.Grants other) : grant = other :=
  Option.some.inj (h.read.symm.trans hOther.read)

namespace HttpTokenEndpoint

variable {κ μ : Type} {grant : Grant} {askedAt : Instant} {token : AccessToken}
  {expiration : EpochMillis}

/-! ### The date of an issue -/

/-- The last whole millisecond before an expiry. -/
def latestIssue (expiration : EpochMillis) : Instant := ⟨((expiration.toNat : Int) - 1) * 1000000⟩

/-- A clock can hold the last millisecond before every expiry. -/
theorem checkedSub_expiration (expiration : EpochMillis) :
    (Instant.ofEpochMillis expiration).checkedSub (.ofMillis 1) = some (latestIssue expiration) := by
  have hNanos : (Instant.ofEpochMillis expiration).nanos - (Duration.ofMillis 1).nanos
      = (latestIssue expiration).nanos := by
    show ((expiration.toNat * 1000000 : Nat) : Int) - 1000000 = ((expiration.toNat : Int) - 1) * 1000000
    omega
  -- an expiry is not before the epoch, so a millisecond before it is far from the earliest instant
  have hEarliest : Instant.earliest.nanos ≤ (latestIssue expiration).nanos := by
    show (-9223372036854775808 * 1000000000 : Int) ≤ ((expiration.toNat : Int) - 1) * 1000000
    omega
  rw [Instant.checkedSub, hNanos, if_pos hEarliest]

/-- **The date of an issue** is the millisecond on the clock of the caller if that comes before the
expiry, and else the last one before the expiry. It is never before the epoch. -/
theorem toNat_issue (askedAt : Instant) (expiration : EpochMillis) :
    ((askedAt.earlier (latestIssue expiration)).toEpochMillis.toNat : Int)
      = max 0 (min (askedAt.nanos / 1000000) (expiration.toNat - 1)) := by
  have hWord := expiration.toNat_lt
  have hLatest : (latestIssue expiration).nanos = ((expiration.toNat : Int) - 1) * 1000000 := rfl
  -- either date is below the expiry, so its milliseconds fit in the word
  by_cases hEarlier : askedAt ≤ latestIssue expiration
  · have hNanos : askedAt.nanos ≤ (latestIssue expiration).nanos := hEarlier
    rw [Instant.earlier, if_pos hEarlier, Instant.toNat_toEpochMillis (by omega)]
    omega
  · have hNanos : ¬ askedAt.nanos ≤ (latestIssue expiration).nanos := hEarlier
    rw [Instant.earlier, if_neg hEarlier, Instant.toNat_toEpochMillis (by omega)]
    omega

/-- The issue is dated before the expiry exactly if there is a millisecond before the expiry. -/
theorem issue_lt_iff (askedAt : Instant) (expiration : EpochMillis) :
    (askedAt.earlier (latestIssue expiration)).toEpochMillis < expiration ↔
      1 ≤ expiration.toNat := by
  have hIssue := toNat_issue askedAt expiration
  rw [UInt64.lt_iff_toNat_lt]
  omega

/-! ### Grants -/

/-- **What token a grant makes** that expires some milliseconds after the epoch and was asked for at an
instant. -/
structure Grant.Makes (grant : Grant) (expiration : EpochMillis) (askedAt : Instant)
    (token : AccessToken) : Prop where
  name : token.name = grant.name
  secret : token.secret.bytes = utf8 (grant.id ++ ":" ++ grant.apiKey)
  expiresAt : token.expiresAt = ⟨expiration.toNat * 1000000⟩
  issuedAt : token.issuedAt
    = ⟨max 0 (min (askedAt.nanos / 1000000) (expiration.toNat - 1)) * 1000000⟩

/-- A grant without an expiry makes no token. -/
theorem Grant.token_of_none (hNone : grant.expiration = none) :
    grant.token askedAt = .error (.other "token endpoint response has no expiration") := by
  rw [Grant.token, hNone]

/-- The token of a grant that expires is made of its parts. -/
theorem Grant.token_of_some (hSome : grant.expiration = some expiration) :
    grant.token askedAt = (AccessToken.ofMillis grant.name ⟨utf8 (grant.id ++ ":" ++ grant.apiKey)⟩
      (askedAt.earlier (latestIssue expiration)).toEpochMillis expiration).mapError
        Failure.credential := by
  rw [Grant.token, hSome]
  simp only [checkedSub_expiration, AccessToken.create, Instant.toEpochMillis_ofEpochMillis]

/-- A token is the one that a grant makes exactly if its parts are those of the grant, with the dates in
words. -/
theorem Grant.makes_iff :
    grant.Makes expiration askedAt token ↔ token.name = grant.name ∧
      token.secret = ⟨utf8 (grant.id ++ ":" ++ grant.apiKey)⟩ ∧
      token.issued = (askedAt.earlier (latestIssue expiration)).toEpochMillis ∧
      token.expires = expiration := by
  have hIssue := toNat_issue askedAt expiration
  have hIssuedAt : token.issuedAt = ⟨((token.issued.toNat * 1000000 : Nat) : Int)⟩ := rfl
  have hExpiresAt : token.expiresAt = ⟨((token.expires.toNat * 1000000 : Nat) : Int)⟩ := rfl
  constructor
  -- the dates are equal as instants, and so as words, since no word is reduced
  · rintro ⟨hName, hSecret, hExpires, hIssued⟩
    rw [hExpiresAt, Instant.mk.injEq] at hExpires
    rw [hIssuedAt, Instant.mk.injEq] at hIssued
    refine ⟨hName, congrArg SecretMaterial.mk hSecret, ?_, ?_⟩
    · exact UInt64.toNat_inj.mp (by omega)
    · exact UInt64.toNat_inj.mp (by omega)
  · rintro ⟨hName, hSecret, hIssued, hExpires⟩
    refine ⟨hName, congrArg SecretMaterial.bytes hSecret, ?_, ?_⟩
    · rw [hExpiresAt, hExpires, Int.natCast_mul]
      rfl
    · rw [hIssuedAt, hIssued, Int.natCast_mul, hIssue]
      rfl

/-- What makes a token expires after the epoch. -/
theorem Grant.Makes.one_le (h : grant.Makes expiration askedAt token) : 1 ≤ expiration.toNat := by
  obtain ⟨-, -, hIssued, hExpires⟩ := Grant.makes_iff.mp h
  rw [← issue_lt_iff askedAt, ← hIssued, ← hExpires]
  exact token.issued_lt

/-- **A grant makes the token that its parts describe**, if it makes one. -/
theorem Grant.token_eq_ok_iff :
    grant.token askedAt = .ok token ↔
      ∃ expiration, grant.expiration = some expiration ∧ grant.Makes expiration askedAt token := by
  cases hExpiration : grant.expiration with
  | none =>
    rw [Grant.token_of_none hExpiration]
    exact ⟨nofun, fun ⟨_, h, _⟩ => nomatch h⟩
  | some expiration =>
    rw [Grant.token_of_some hExpiration, mapError_eq_ok_iff, AccessToken.ofMillis_eq_ok_iff,
      ← Grant.makes_iff]
    constructor
    · intro h
      exact ⟨expiration, rfl, h⟩
    · rintro ⟨_, h, hMakes⟩
      obtain rfl := Option.some.inj h
      exact hMakes

/-- **A grant with a name that tokens may have makes one exactly if it expires after the epoch.** -/
theorem Grant.exists_token_iff (hNonempty : 0 < (utf8 grant.name).length)
    (hLength : (utf8 grant.name).length ≤ maxTokenNameLength) :
    (∃ token, grant.token askedAt = .ok token) ↔
      ∃ expiration, grant.expiration = some expiration ∧ 1 ≤ expiration.toNat := by
  constructor
  · rintro ⟨token, h⟩
    obtain ⟨expiration, hExpiration, hMakes⟩ := Grant.token_eq_ok_iff.mp h
    exact ⟨expiration, hExpiration, hMakes.one_le⟩
  · rintro ⟨expiration, hExpiration, hAfter⟩
    refine ⟨⟨grant.name, ⟨utf8 (grant.id ++ ":" ++ grant.apiKey)⟩,
      (askedAt.earlier (latestIssue expiration)).toEpochMillis, expiration, hNonempty, hLength,
      (issue_lt_iff askedAt expiration).mpr hAfter⟩, ?_⟩
    exact Grant.token_eq_ok_iff.mpr
      ⟨expiration, hExpiration, Grant.makes_iff.mpr ⟨rfl, rfl, rfl, rfl⟩⟩

/-! ### Replies -/

/-- **A reply gives the token that its grant makes**, and nothing else does. -/
theorem accept_eq_ok_iff {reply : HttpReply} :
    accept askedAt (.ok reply) = .ok token ↔
      ∃ grant, reply.Grants grant ∧ grant.token askedAt = .ok token := by
  by_cases hSuccess : reply.isSuccess = true
  · rw [accept, if_pos hSuccess]
    cases hRead : (reply.body.bind Json.read).bind Grant.ofTree with
    | none =>
      constructor
      · intro h
        cases h
      · rintro ⟨grant, hGrants, -⟩
        rw [hGrants.read] at hRead
        cases hRead
    | some grant =>
      constructor
      · intro h
        exact ⟨grant, ⟨hSuccess, hRead⟩, h⟩
      · rintro ⟨other, hOther, hToken⟩
        obtain rfl := hOther.unique ⟨hSuccess, hRead⟩
        exact hToken
  · rw [accept, if_neg hSuccess]
    constructor
    · intro h
      cases h
    · rintro ⟨grant, hGrants, -⟩
      exact absurd hGrants.success hSuccess

/-- A call of the service ends with what its reply gives. -/
theorem execute_acquire (acquirer : TokenAcquirer) (provider : AuthProvider κ)
    (service : HttpTokenEndpoint) (transport : HttpTransport κ) (scene : Scene κ μ)
    (context : AuthenticatedContext) {sent : HttpRequest} {delay : Duration}
    {answer : Except TransportError HttpReply}
    (hSent : service.sent? (acquirer.calling scene context).world context
      (acquirer.nextRequest scene.world) = some sent)
    (hAnswer : transport (acquirer.calling scene context).world sent = .after delay answer) :
    ((acquirer.acquire scene context).execute (.of provider (service.endpoint transport))
      none).ending = .finished (TokenAcquirer.accept (acquirer.nextRequest scene.world)
        (accept scene.world.now answer)) := by
  unfold sent? at hSent
  -- a context that is released sends nothing, so there would be no reply
  cases hReleased : context.isReleased scene.world with
  | true =>
    have hRefused : context.ensureActive (acquirer.calling scene context).world
        = .error context.releasedError := AuthenticatedContext.ensureActive_of_isReleased hReleased
    rw [hRefused] at hSent
    cases hSent
  | false =>
    have hActive : context.ensureActive (acquirer.calling scene context).world = .ok () :=
      AuthenticatedContext.ensureActive_of_active hReleased
    rw [hActive] at hSent
    cases hRequest : service.request context.identity (acquirer.nextRequest scene.world) with
    | error failure =>
      rw [hRequest] at hSent
      cases hSent
    | ok request =>
      rw [hRequest] at hSent
      obtain rfl : request = sent := Option.some.inj hSent
      have hIssue : Host.of provider (service.endpoint transport) (acquirer.calling scene context).world
          (.issue context (acquirer.nextRequest scene.world))
          = .after delay (accept scene.world.now answer) := by
        show TokenEndpoint.issue _ _ _ _ = _
        unfold endpoint
        simp only [hActive, hRequest, hAnswer]
        rfl
      rw [acquirer.acquire_of_active hReleased, Activity.ask, Activity.execute, hIssue]
      rfl

/-- A call of an endpoint that gives no token fails to issue one. -/
theorem exists_issuance_of_accept {request : IssueRequest} {answer : Except Failure AccessToken}
    {error : CredentialError} (h : TokenAcquirer.accept request answer = .error error) :
    ∃ details, error = .issuance details := by
  cases answer with
  | error failure => exact ⟨_, (Except.error.inj h).symm⟩
  | ok token =>
    rw [TokenAcquirer.accept] at h
    split at h
    · cases h
    · exact ⟨_, (Except.error.inj h).symm⟩

/-- **Which replies of a service give a token, and which one**, whatever the clock of the caller shows,
for a request with a name that tokens may have. A final reply gives a token exactly if it grants one of
the name that was asked for, with an expiry of at least one millisecond after the epoch. The token
expires exactly then. It was issued at the time of the call, told in milliseconds, but at the latest a
millisecond before the expiry and not before the epoch. With every other reply no token is issued. -/
theorem acquire_reply (acquirer : TokenAcquirer) (provider : AuthProvider κ)
    (service : HttpTokenEndpoint) (transport : HttpTransport κ) (scene : Scene κ μ)
    (context : AuthenticatedContext) {sent : HttpRequest} {delay : Duration} {reply : HttpReply}
    (hNonempty : 0 < (utf8 (acquirer.nextRequest scene.world).name).length)
    (hLength : (utf8 (acquirer.nextRequest scene.world).name).length ≤ maxTokenNameLength)
    (hSent : service.sent? (acquirer.calling scene context).world context
      (acquirer.nextRequest scene.world) = some sent)
    (hReply : transport (acquirer.calling scene context).world sent = .after delay (.ok reply)) :
    ∃ result, ((acquirer.acquire scene context).execute (.of provider (service.endpoint transport))
        none).ending = .finished result ∧
      ((∃ token, result = .ok token) ↔ ∃ grant expiration, reply.Grants grant ∧
        grant.name = (acquirer.nextRequest scene.world).name ∧
        grant.expiration = some expiration ∧ 1 ≤ expiration.toNat) ∧
      (∀ token grant expiration, result = .ok token → reply.Grants grant →
        grant.expiration = some expiration →
        grant.Makes expiration scene.world.now token ∧ token.issuedAt < token.expiresAt) ∧
      ∀ error, result = .error error → ∃ details, error = .issuance details := by
  refine ⟨_, execute_acquire acquirer provider service transport scene context hSent hReply,
    ⟨?_, ?_⟩, ?_, fun error => exists_issuance_of_accept⟩
  · rintro ⟨token, hToken⟩
    obtain ⟨hToken, hName⟩ := TokenAcquirer.accept_eq_ok_iff.mp hToken
    obtain ⟨grant, hGrants, hGrant⟩ := accept_eq_ok_iff.mp hToken
    obtain ⟨expiration, hExpiration, hMakes⟩ := Grant.token_eq_ok_iff.mp hGrant
    exact ⟨grant, expiration, hGrants, hMakes.name.symm.trans hName, hExpiration, hMakes.one_le⟩
  · rintro ⟨grant, expiration, hGrants, hName, hExpiration, hAfter⟩
    rw [← hName] at hNonempty hLength
    have hExists : ∃ token, grant.token scene.world.now = .ok token :=
      (Grant.exists_token_iff hNonempty hLength).mpr ⟨expiration, hExpiration, hAfter⟩
    obtain ⟨token, hToken⟩ := hExists
    obtain ⟨_, -, hMakes⟩ := Grant.token_eq_ok_iff.mp hToken
    exact ⟨token, TokenAcquirer.accept_eq_ok_iff.mpr
      ⟨accept_eq_ok_iff.mpr ⟨grant, hGrants, hToken⟩, hMakes.name.trans hName⟩⟩
  · intro token grant expiration hToken hGrants hExpiration
    obtain ⟨hToken, -⟩ := TokenAcquirer.accept_eq_ok_iff.mp hToken
    obtain ⟨other, hOther, hGrant⟩ := accept_eq_ok_iff.mp hToken
    obtain rfl := hOther.unique hGrants
    obtain ⟨_, hSome, hMakes⟩ := Grant.token_eq_ok_iff.mp hGrant
    obtain rfl := Option.some.inj (hSome.symm.trans hExpiration)
    exact ⟨hMakes, token.issuedAt_lt_expiresAt⟩

/-- A clock that is past the time line of tokens, and a reply that grants the last expiry on it: the
token is issued a millisecond before. -/
theorem acquire_reply_last :
    ∃ (service : HttpTokenEndpoint) (transport : HttpTransport Unit) (scene : Scene Unit Unit)
      (context : AuthenticatedContext) (token : AccessToken),
      ((TokenAcquirer.acquire ⟨"lease-", none⟩ scene context).execute
        (.of ⟨fun _ _ => .never, fun _ _ => .ok ()⟩ (service.endpoint transport)) none).ending
          = .finished (.ok token) ∧
      scene.world.now = ⟨20000000000000000000000000⟩ ∧
      token.issuedAt = ⟨18446744073709551614000000⟩ ∧
      token.expiresAt = ⟨18446744073709551615000000⟩ := by
  obtain ⟨scene, hScene⟩ : ∃ scene : Scene Unit Unit,
      scene = ⟨.start ⟨20000000000000000000000000⟩ () fun _ => "1", .empty, ()⟩ := ⟨_, rfl⟩
  obtain ⟨reply, hReply⟩ : ∃ reply : HttpReply, reply = ⟨200, some (utf8
    ("\x7b\"id\":\"id\",\"name\":\"lease-1\",\"api_key\":\"secret\","
      ++ "\"expiration\":18446744073709551615\x7d"))⟩ := ⟨_, rfl⟩
  have hRequest : TokenAcquirer.nextRequest ⟨"lease-", none⟩ scene.world = ⟨"lease-1", none⟩ := by
    rw [hScene]
    rfl
  have hSent : (sent? ⟨"http://localhost"⟩
      (TokenAcquirer.calling ⟨"lease-", none⟩ scene default).world default
      (TokenAcquirer.nextRequest ⟨"lease-", none⟩ scene.world)).isSome = true := by
    rw [hScene]
    decide +kernel
  obtain ⟨sent, hSent⟩ := Option.isSome_iff_exists.mp hSent
  have hGrants : reply.Grants ⟨"id", "lease-1", "secret", some 18446744073709551615⟩ := by
    rw [hReply]
    constructor <;> decide +kernel
  obtain ⟨result, hEnding, hGives, hMakes, -⟩ := acquire_reply ⟨"lease-", none⟩
    ⟨fun _ _ => .never, fun _ _ => .ok ()⟩ ⟨"http://localhost"⟩ (fun _ _ => .now (.ok reply)) scene
    default (by rw [hRequest]; decide) (by rw [hRequest]; decide) hSent rfl
  obtain ⟨token, rfl⟩ := hGives.mpr ⟨_, _, hGrants, by rw [hRequest], rfl, by decide⟩
  obtain ⟨⟨-, -, hExpiresAt, hIssuedAt⟩, -⟩ := hMakes token _ _ rfl hGrants rfl
  rw [hScene] at hIssuedAt
  exact ⟨_, _, scene, _, token, hEnding, by rw [hScene]; rfl, hIssuedAt, hExpiresAt⟩

end HttpTokenEndpoint

end CredentialLease
