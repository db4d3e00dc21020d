import CredentialLease.Proofs.Base64.Canonical
import CredentialLease.Proofs.Login.KeyFiles
import CredentialLease.Proofs.Text.Utf8

/-!
# What a Basic header tells of an identity

A receiver decodes what comes after the name of the scheme and cuts it at the first colon
(`readBasicScheme`). The name and the password are joined without an escape, so a password may hold
colons and a name may not: a name with a colon is cut there (`readBasicScheme_of_colon`), and its rest
is taken for the beginning of the password. A login refuses no such principal.

Main statement: `basicAuthorization_tells_identity`. `basicAuthorization_of_colon` shows two identities
with one header.
-/

namespace CredentialLease

/-! ### Reading a header -/

/-- What stands before the first colon, and what after it. -/
def cutAtColon : Bytes → Option (Bytes × Bytes)
  | [] => none
  | b :: rest =>
    if b = 58 then some ([], rest)
    else (cutAtColon rest).map fun (name, password) => (b :: name, password)

/-- The name and the password that are read in a header value. -/
def readBasicScheme (header : String) : Option (Bytes × Bytes) := do
  let text ← List.isPrefixOf? "Basic ".toList header.toList
  let pair ← (Base64.decode (String.ofList text)).toOption
  cutAtColon pair

section Reading

variable {name other password otherPassword : Bytes}

theorem cutAtColon_append (h : 58 ∉ name) :
    cutAtColon (name ++ 58 :: password) = some (name, password) := by
  induction name with
  | nil => rfl
  | cons b name ih =>
    obtain ⟨hFirst, hRest⟩ := not_or.mp (mt List.mem_cons.mpr h)
    rw [List.cons_append, cutAtColon, if_neg (Ne.symm hFirst), ih hRest]
    rfl

theorem basicScheme_eq : basicScheme name password
    = "Basic " ++ Base64.encode (name ++ 58 :: password) := by
  rw [basicScheme, List.append_assoc]
  rfl

/-- A receiver finds the joined bytes, and has to cut them. -/
theorem readBasicScheme_basicScheme :
    readBasicScheme (basicScheme name password) = cutAtColon (name ++ 58 :: password) := by
  have hText : List.isPrefixOf? "Basic ".toList (basicScheme name password).toList
      = some (Base64.encode (name ++ 58 :: password)).toList := by
    rw [List.isPrefixOf?_eq_some_iff_append_eq, basicScheme_eq, String.toList_append]
  rw [readBasicScheme, hText, Option.bind_eq_bind, Option.bind_some, String.ofList_toList,
    Base64.decode_encode]
  rfl

/-- **Headers are equal exactly when the joined bytes are.** -/
theorem basicScheme_inj : basicScheme name password = basicScheme other otherPassword ↔
    name ++ 58 :: password = other ++ 58 :: otherPassword := by
  rw [basicScheme_eq, basicScheme_eq, String.append_right_inj, Base64.encode_inj]

end Reading

/-! ### Names with and without a colon -/

section Colons

variable {name : String} {password : Bytes}

theorem mem_utf8_colon_iff : 58 ∈ utf8 name ↔ ':' ∈ name.toList :=
  mem_utf8_iff (show ':'.toNat < 128 by decide)

/-- A name without a colon is read with the whole password. -/
theorem readBasicScheme_of_notMem (h : ':' ∉ name.toList) :
    readBasicScheme (basicScheme (utf8 name) password) = some (utf8 name, password) := by
  rw [readBasicScheme_basicScheme, cutAtColon_append (mt mem_utf8_colon_iff.mp h)]

/-- **A name is cut at its first colon**, and what comes after that is read with the password. -/
theorem readBasicScheme_of_colon {before after : String} (hName : name = before ++ ":" ++ after)
    (h : ':' ∉ before.toList) :
    readBasicScheme (basicScheme (utf8 name) password)
      = some (utf8 before, utf8 after ++ 58 :: password) := by
  have hJoined : utf8 name ++ 58 :: password = utf8 before ++ 58 :: (utf8 after ++ 58 :: password) := by
    rw [hName, utf8_append, utf8_append, List.append_assoc, List.append_assoc]
    rfl
  rw [readBasicScheme_basicScheme, hJoined, cutAtColon_append (mt mem_utf8_colon_iff.mp h)]

/-- **The name and the password are read back exactly when the name has no colon.** -/
theorem readBasicScheme_eq_some_iff :
    readBasicScheme (basicScheme (utf8 name) password) = some (utf8 name, password) ↔
      ':' ∉ name.toList := by
  refine ⟨fun hRead hColon => ?_, readBasicScheme_of_notMem⟩
  obtain ⟨before, after, hName, hBefore⟩ := List.eq_append_cons_of_mem hColon
  have hSplit : name = String.ofList before ++ ":" ++ String.ofList after := by
    rw [← String.toList_inj, hName]
    simp
  rw [readBasicScheme_of_colon hSplit (by rwa [String.toList_ofList])] at hRead
  -- what is read for the password is longer than the password
  have hLength := congrArg List.length (Prod.mk.inj (Option.some.inj hRead)).2
  rw [List.length_append, List.length_cons] at hLength
  omega

end Colons

/-! ### Identities -/

namespace AuthenticatedContext

variable {κ : Type}

/-- **Identities whose principals have no colon have different headers.** -/
theorem basicHeader_inj {identity other : Identity} (hColon : ':' ∉ identity.principal.toList)
    (hOther : ':' ∉ other.principal.toList) :
    basicHeader identity = basicHeader other ↔ identity = other := by
  constructor
  · intro h
    have hRead := congrArg readBasicScheme h
    rw [basicHeader, basicHeader, readBasicScheme_of_notMem hColon, readBasicScheme_of_notMem hOther]
      at hRead
    obtain ⟨hPrincipal, hMaterial⟩ := Prod.mk.inj (Option.some.inj hRead)
    obtain ⟨principal, material⟩ := identity
    obtain rfl : principal = other.principal := utf8_injective hPrincipal
    obtain rfl : material = other.material := by
      obtain ⟨bytes⟩ := material
      exact congrArg SecretMaterial.mk hMaterial
    rfl
  · exact congrArg basicHeader

/-- **The header of an identity tells its principal and its material exactly when the principal has no
colon.** That is so for every login that succeeds, as long as its context is active. A principal with a
colon is cut at the first one. Two identities whose principals have no colon have one header only if
they are the same. -/
theorem basicAuthorization_tells_identity {tree : FileTree} {credentials : LoginCredentials}
    {context : AuthenticatedContext} {world : World κ}
    (hLogin : KeyFile.login tree credentials = .ok context.identity)
    (hActive : context.isReleased world = false) :
    ∃ header, context.basicAuthorization world = .ok header ∧
      (readBasicScheme header
          = some (utf8 context.identity.principal, context.identity.material.bytes) ↔
        ':' ∉ credentials.principal.toList) ∧
      (∀ before after, credentials.principal = before ++ ":" ++ after → ':' ∉ before.toList →
        readBasicScheme header
          = some (utf8 before, utf8 after ++ 58 :: context.identity.material.bytes)) ∧
      ∀ (otherTree : FileTree) (otherCredentials : LoginCredentials) (other : AuthenticatedContext)
        (otherWorld : World κ), KeyFile.login otherTree otherCredentials = .ok other.identity →
        other.isReleased otherWorld = false → ':' ∉ credentials.principal.toList →
        ':' ∉ otherCredentials.principal.toList →
        (other.basicAuthorization otherWorld = .ok header ↔ other.identity = context.identity) := by
  obtain ⟨-, hPrincipal, -⟩ := KeyFile.login_eq_ok_iff_readMaterial.mp hLogin
  refine ⟨_, basicAuthorization_of_active hActive, ?_, ?_, ?_⟩
  · rw [← hPrincipal]
    exact readBasicScheme_eq_some_iff
  · intro before after hName hBefore
    exact readBasicScheme_of_colon (hPrincipal.trans hName) hBefore
  · intro otherTree otherCredentials other otherWorld hOther hOtherActive hColon hOtherColon
    obtain ⟨-, hOtherPrincipal, -⟩ := KeyFile.login_eq_ok_iff_readMaterial.mp hOther
    rw [← hPrincipal] at hColon
    rw [← hOtherPrincipal] at hOtherColon
    rw [basicAuthorization_of_active hOtherActive, Except.ok.injEq]
    exact basicHeader_inj hOtherColon hColon

/-- A material with colons is read back, and another principal with the same key file has another
header. -/
theorem basicAuthorization_tells_identity_colons :
    ∃ (tree : FileTree) (context other : AuthenticatedContext) (world : World Unit) (header : String),
      KeyFile.login tree ⟨"svc", "key"⟩ = .ok context.identity ∧
      KeyFile.login tree ⟨"job", "key"⟩ = .ok other.identity ∧
      context.isReleased world = false ∧ context.basicAuthorization world = .ok header ∧
      readBasicScheme header = some (utf8 "svc", utf8 ":k:") ∧
      other.basicAuthorization world ≠ .ok header := by
  obtain ⟨tree, hTree⟩ : ∃ tree : FileTree, tree = ⟨[(["key"], .file (utf8 ":k:\n"))], []⟩ := ⟨_, rfl⟩
  obtain ⟨context, hContext⟩ : ∃ context : AuthenticatedContext,
      context = ⟨0, "svc", ⟨utf8 ":k:"⟩⟩ := ⟨_, rfl⟩
  obtain ⟨other, hOther⟩ : ∃ other : AuthenticatedContext, other = ⟨1, "job", ⟨utf8 ":k:"⟩⟩ :=
    ⟨_, rfl⟩
  have hLogin : KeyFile.login tree ⟨"svc", "key"⟩ = .ok context.identity := by
    rw [hTree, hContext]
    rfl
  have hOtherLogin : KeyFile.login tree ⟨"job", "key"⟩ = .ok other.identity := by
    rw [hTree, hOther]
    rfl
  obtain ⟨header, hHeader, hRead, -, hSame⟩ :=
    @basicAuthorization_tells_identity Unit tree ⟨"svc", "key"⟩ context (.start ⟨0⟩ () toString)
      hLogin rfl
  refine ⟨tree, context, other, _, header, hLogin, hOtherLogin, rfl, hHeader, ?_, ?_⟩
  · rw [hRead.mpr (by decide), hContext]
  · rw [Ne, hSame tree ⟨"job", "key"⟩ other _ hOtherLogin rfl (by decide) (by decide), hContext, hOther]
    decide

/-- **Two principals have one header**: the first colon of a principal is taken for the one after it. -/
theorem basicAuthorization_of_colon :
    ∃ (tree : FileTree) (first second : AuthenticatedContext) (world : World Unit) (header : String),
      KeyFile.login tree ⟨"a:b", "short"⟩ = .ok first.identity ∧
      KeyFile.login tree ⟨"a", "long"⟩ = .ok second.identity ∧
      first.isReleased world = false ∧ second.isReleased world = false ∧
      first.identity.principal ≠ second.identity.principal ∧
      first.basicAuthorization world = .ok header ∧ second.basicAuthorization world = .ok header ∧
      readBasicScheme header = some (utf8 "a", utf8 "b:c") ∧
      readBasicScheme header
        ≠ some (utf8 first.identity.principal, first.identity.material.bytes) := by
  obtain ⟨tree, hTree⟩ : ∃ tree : FileTree, tree = ⟨[(["short"], .file (utf8 "c")),
    (["long"], .file (utf8 "b:c"))], []⟩ := ⟨_, rfl⟩
  obtain ⟨first, hFirst⟩ : ∃ first : AuthenticatedContext, first = ⟨0, "a:b", ⟨utf8 "c"⟩⟩ := ⟨_, rfl⟩
  obtain ⟨second, hSecond⟩ : ∃ second : AuthenticatedContext, second = ⟨1, "a", ⟨utf8 "b:c"⟩⟩ :=
    ⟨_, rfl⟩
  have hHeaders : basicHeader first.identity = basicHeader second.identity := by
    rw [hFirst, hSecond]
    exact basicScheme_inj.mpr rfl
  have hRead : readBasicScheme (basicHeader second.identity) = some (utf8 "a", utf8 "b:c") := by
    rw [hSecond]
    exact readBasicScheme_of_notMem (by decide)
  refine ⟨tree, first, second, .start ⟨0⟩ () toString, basicHeader second.identity, ?_, ?_, rfl, rfl,
    ?_, ?_, basicAuthorization_of_active rfl, hRead, ?_⟩
  · rw [hTree, hFirst]; rfl
  · rw [hTree, hSecond]; rfl
  · rw [hFirst, hSecond]; decide
  · rw [← hHeaders]
    exact basicAuthorization_of_active rfl
  · rw [hRead, hFirst]; decide

end AuthenticatedContext

end CredentialLease
