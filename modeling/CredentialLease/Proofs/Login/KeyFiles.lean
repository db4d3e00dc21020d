import CredentialLease.Login.Context
import CredentialLease.Login.KeyFile
import CredentialLease.Proofs.Login.Session
import Mathlib.Data.List.DropRight

/-!
# The material in a key file

A key file holds its material with white space after it. `IsMaterial` says what that is without a way
to find it: the contents begin with it, the rest is white space, and the material does not end in
white space. There is at most one such part, none exactly in a file of white space alone, and it is
what is left of the contents (`isMaterial_iff`). Nothing is taken from the beginning or from within.

A login succeeds exactly when the principal is not blank and the key file has material, which it then
gives (`login_eq_ok_iff`), so files that differ in white space at their end only
(`AlikeUpToSpace`) give the same identity. It fails with authentication errors only
(`exists_details_of_login`).

Main statement: `login_gives_material`.
-/

namespace CredentialLease.KeyFile

/-! ### White space at the end -/

/-- The white space of ASCII: space, tab, line feed, form feed and carriage return. -/
def asciiSpaces : Bytes := [32, 9, 10, 12, 13]

theorem isSpace_iff {b : UInt8} : isSpace b = true ↔ b ∈ asciiSpaces := by
  simp only [isSpace, asciiSpaces, Bool.or_eq_true, beq_iff_eq, List.mem_cons, List.not_mem_nil,
    or_false, or_assoc]

/-- Whether there is nothing but white space in a byte string. -/
def AllSpace (bytes : Bytes) : Prop := ∀ b ∈ bytes, b ∈ asciiSpaces

instance (bytes : Bytes) : Decidable (AllSpace bytes) :=
  List.decidableBAll (· ∈ asciiSpaces) bytes

/-- **Whether a byte string is the material of a key file with these contents.** -/
structure IsMaterial (material contents : Bytes) : Prop where
  /-- It has a last byte, which is not white space. -/
  last : ∃ b, material.getLast? = some b ∧ b ∉ asciiSpaces
  /-- Only white space comes after it. -/
  space : ∃ space, AllSpace space ∧ contents = material ++ space

theorem IsMaterial.ne_nil {material contents : Bytes} (h : IsMaterial material contents) :
    material ≠ [] := by
  obtain ⟨b, hLast, -⟩ := h.last
  rintro rfl
  cases hLast

theorem trimmedMaterial_eq_nil_iff {contents : Bytes} :
    trimmedMaterial contents = [] ↔ AllSpace contents := by
  refine List.rdropWhile_eq_nil_iff.trans ?_
  simp only [isSpace_iff, AllSpace]

theorem trimmedMaterial_ne_nil_iff {contents : Bytes} :
    trimmedMaterial contents ≠ [] ↔ ∃ b ∈ contents, b ∉ asciiSpaces := by
  rw [Ne, trimmedMaterial_eq_nil_iff, AllSpace]
  simp only [not_forall, exists_prop]

/-- White space at the end makes no difference to the material. -/
theorem trimmedMaterial_append {space : Bytes} (h : AllSpace space) (stem : Bytes) :
    trimmedMaterial (stem ++ space) = trimmedMaterial stem := by
  have hReverse : ∀ b ∈ space.reverse, isSpace b = true :=
    fun b hb => isSpace_iff.mpr (h b (List.mem_reverse.mp hb))
  rw [trimmedMaterial, List.reverse_append, List.dropWhile_append_of_pos hReverse, trimmedMaterial]

theorem trimmedMaterial_eq_self {material : Bytes}
    (h : ∃ b, material.getLast? = some b ∧ b ∉ asciiSpaces) : trimmedMaterial material = material := by
  obtain ⟨b, hLast, hSpace⟩ := h
  refine List.rdropWhile_eq_self_iff.mpr fun hNe => ?_
  rw [List.getLast?_eq_some_getLast hNe] at hLast
  rw [Option.some.inj hLast, isSpace_iff]
  exact hSpace

/-- **What is left of the contents is their material, and there is no other.** -/
theorem isMaterial_iff {material contents : Bytes} :
    IsMaterial material contents ↔ trimmedMaterial contents = material ∧ material ≠ [] := by
  constructor
  · intro h
    obtain ⟨space, hSpace, rfl⟩ := h.space
    exact ⟨by rw [trimmedMaterial_append hSpace, trimmedMaterial_eq_self h.last], h.ne_nil⟩
  · rintro ⟨rfl, hNe⟩
    refine ⟨⟨_, List.getLast?_eq_some_getLast hNe, ?_⟩, contents.rtakeWhile isSpace, ?_, ?_⟩
    · exact mt isSpace_iff.mpr (List.rdropWhile_last_not isSpace contents hNe)
    · exact fun b hb => isSpace_iff.mp (List.mem_rtakeWhile_imp hb)
    · exact List.rdropWhile_append_rtakeWhile.symm

theorem exists_isMaterial_iff {contents : Bytes} :
    (∃ material, IsMaterial material contents) ↔ ∃ b ∈ contents, b ∉ asciiSpaces := by
  rw [← trimmedMaterial_ne_nil_iff]
  constructor
  · rintro ⟨material, hMaterial⟩
    obtain ⟨rfl, hNe⟩ := isMaterial_iff.mp hMaterial
    exact hNe
  · intro hNe
    exact ⟨_, isMaterial_iff.mpr ⟨rfl, hNe⟩⟩

/-- Whether two byte strings differ in white space at their end only. -/
def AlikeUpToSpace (contents other : Bytes) : Prop :=
  ∃ stem space otherSpace, AllSpace space ∧ AllSpace otherSpace ∧ contents = stem ++ space ∧
    other = stem ++ otherSpace

theorem AlikeUpToSpace.isMaterial_iff {contents other material : Bytes}
    (h : AlikeUpToSpace contents other) :
    IsMaterial material contents ↔ IsMaterial material other := by
  obtain ⟨stem, space, otherSpace, hSpace, hOther, rfl, rfl⟩ := h
  rw [KeyFile.isMaterial_iff, KeyFile.isMaterial_iff, trimmedMaterial_append hSpace,
    trimmedMaterial_append hOther]

/-- A file that holds just the material differs in white space at its end only. -/
theorem IsMaterial.alikeUpToSpace {contents material : Bytes} (h : IsMaterial material contents) :
    AlikeUpToSpace contents material := by
  obtain ⟨space, hSpace, hContents⟩ := h.space
  exact ⟨material, space, [], hSpace, List.forall_mem_nil _, hContents, (List.append_nil _).symm⟩

/-! ### Logins -/

section Logins

variable {tree : FileTree} {credentials : LoginCredentials} {error : CredentialError}

theorem exists_details_of_readMaterial {path : String} (h : readMaterial tree path = .error error) :
    ∃ details, error = .authentication details := by
  unfold readMaterial at h
  split at h
  · cases h
    exact ⟨_, rfl⟩
  · dsimp only at h
    split at h
    · cases h
      exact ⟨_, rfl⟩
    · cases h

/-- A login from a key file fails with an authentication error. -/
theorem exists_details_of_login (h : login tree credentials = .error error) :
    ∃ details, error = .authentication details := by
  unfold login at h
  split at h
  · cases h
    exact ⟨_, rfl⟩
  · cases hMaterial : readMaterial tree credentials.keyPath with
    | ok material =>
      rw [hMaterial] at h
      cases h
    | error cause =>
      rw [hMaterial] at h
      obtain rfl := Except.error.inj h
      exact exists_details_of_readMaterial hMaterial

theorem readMaterial_eq_ok_iff {path : String} {contents : Bytes} {material : SecretMaterial}
    (hRead : tree.read path = .ok contents) :
    readMaterial tree path = .ok material ↔ IsMaterial material.bytes contents := by
  rw [isMaterial_iff, readMaterial, hRead]
  dsimp only
  constructor
  · intro h
    split at h
    · cases h
    · next hNe =>
      obtain rfl := Except.ok.inj h
      exact ⟨rfl, hNe⟩
  · rintro ⟨hMaterial, hNe⟩
    rw [if_neg (by rwa [hMaterial]), hMaterial]

/-- A login reads the key file of a principal that is not blank. -/
theorem login_eq_ok_iff_readMaterial {identity : Identity} :
    login tree credentials = .ok identity ↔ isBlankText credentials.principal = false ∧
      identity.principal = credentials.principal ∧
      readMaterial tree credentials.keyPath = .ok identity.material := by
  rw [login]
  cases hBlank : isBlankText credentials.principal with
  | true => simp
  | false =>
    obtain ⟨principal, material⟩ := identity
    cases readMaterial tree credentials.keyPath with
    | error cause => simp [Except.map]
    | ok found => simp [Except.map, eq_comm]

/-- **A login succeeds with the material of the key file.** -/
theorem login_eq_ok_iff {contents : Bytes} {identity : Identity}
    (hRead : tree.read credentials.keyPath = .ok contents) :
    login tree credentials = .ok identity ↔ isBlankText credentials.principal = false ∧
      identity.principal = credentials.principal ∧ IsMaterial identity.material.bytes contents := by
  rw [login_eq_ok_iff_readMaterial, readMaterial_eq_ok_iff hRead]

theorem exists_login_iff {contents : Bytes} (hRead : tree.read credentials.keyPath = .ok contents) :
    (∃ identity, login tree credentials = .ok identity) ↔
      isBlankText credentials.principal = false ∧ ∃ b ∈ contents, b ∉ asciiSpaces := by
  rw [← exists_isMaterial_iff]
  constructor
  · rintro ⟨identity, hLogin⟩
    obtain ⟨hBlank, -, hMaterial⟩ := (login_eq_ok_iff hRead).mp hLogin
    exact ⟨hBlank, _, hMaterial⟩
  · rintro ⟨hBlank, material, hMaterial⟩
    exact ⟨⟨credentials.principal, ⟨material⟩⟩, (login_eq_ok_iff hRead).mpr ⟨hBlank, rfl, hMaterial⟩⟩

/-- **White space at the end of a key file makes no difference to a login that succeeds.** -/
theorem login_of_alikeUpToSpace {contents otherContents : Bytes} {identity : Identity}
    (hRead : tree.read credentials.keyPath = .ok contents)
    (hLogin : login tree credentials = .ok identity) (hAlike : AlikeUpToSpace contents otherContents)
    {other : FileTree} {path : String} (hOther : other.read path = .ok otherContents) :
    login other ⟨credentials.principal, path⟩ = .ok identity := by
  rw [login_eq_ok_iff hRead, hAlike.isMaterial_iff] at hLogin
  refine (login_eq_ok_iff ?_).mpr hLogin
  exact hOther

end Logins

/-- **A login gives the material of the key file**, for every principal and all contents. It succeeds
exactly when the principal is not blank and the file has a byte that is not white space. The identity
then has that principal and the one material that the contents have, and its active contexts give out
that material and the header made of it. Every file that differs in white space at its end only gives
this identity again, one that holds just the material among them. All failures, those of files that
cannot be read too, are authentication errors. -/
theorem login_gives_material {κ : Type} (tree : FileTree) (credentials : LoginCredentials) :
    (∀ contents, tree.read credentials.keyPath = .ok contents →
      ((∃ identity, login tree credentials = .ok identity) ↔
        isBlankText credentials.principal = false ∧ ∃ b ∈ contents, b ∉ asciiSpaces) ∧
      ∀ identity, login tree credentials = .ok identity →
        identity.principal = credentials.principal ∧
        (∀ material, IsMaterial material contents ↔ material = identity.material.bytes) ∧
        (∀ (world : World κ) (context : AuthenticatedContext), context.identity = identity →
          context.isReleased world = false →
          context.material world = .ok identity.material ∧
          context.basicAuthorization world = .ok (AuthenticatedContext.basicHeader identity)) ∧
        (∀ (other : FileTree) path otherContents, other.read path = .ok otherContents →
          AlikeUpToSpace contents otherContents →
          login other ⟨credentials.principal, path⟩ = .ok identity) ∧
        ∀ (other : FileTree) path, other.read path = .ok identity.material.bytes →
          login other ⟨credentials.principal, path⟩ = .ok identity) ∧
    ∀ error, login tree credentials = .error error → ∃ details, error = .authentication details := by
  refine ⟨fun contents hRead => ⟨exists_login_iff hRead, fun identity hLogin => ?_⟩,
    fun error => exists_details_of_login⟩
  obtain ⟨-, hPrincipal, hMaterial⟩ := (login_eq_ok_iff hRead).mp hLogin
  refine ⟨hPrincipal, fun material => ⟨fun h => ?_, ?_⟩, ?_, ?_, ?_⟩
  · obtain ⟨rfl, -⟩ := isMaterial_iff.mp h
    exact (isMaterial_iff.mp hMaterial).1
  · rintro rfl
    exact hMaterial
  · rintro world context rfl hActive
    exact ⟨AuthenticatedContext.material_of_active hActive,
      AuthenticatedContext.basicAuthorization_of_active hActive⟩
  · intro other path otherContents hOther hAlike
    exact login_of_alikeUpToSpace hRead hLogin hAlike hOther
  · intro other path hOther
    exact login_of_alikeUpToSpace hRead hLogin hMaterial.alikeUpToSpace hOther

/-- Two key files with white space before, within and after their material, which end differently: they
give one identity. A blank principal is refused. -/
theorem login_gives_material_twice :
    ∃ (tree : FileTree) (context : AuthenticatedContext) (details : String),
      tree.read "first" = .ok (utf8 " a b\r\n") ∧ tree.read "second" = .ok (utf8 " a b\t") ∧
      AlikeUpToSpace (utf8 " a b\r\n") (utf8 " a b\t") ∧
      login tree ⟨"svc", "first"⟩ = .ok context.identity ∧
      login tree ⟨"svc", "second"⟩ = .ok context.identity ∧
      context.material (World.start ⟨0⟩ () toString) = .ok ⟨utf8 " a b"⟩ ∧
      login tree ⟨" ", "first"⟩ = .error (.authentication details) := by
  obtain ⟨tree, hTree⟩ : ∃ tree : FileTree, tree = ⟨[(["first"], .file (utf8 " a b\r\n")),
    (["second"], .file (utf8 " a b\t"))], []⟩ := ⟨_, rfl⟩
  have hFirst : tree.read "first" = .ok (utf8 " a b\r\n") := by rw [hTree]; rfl
  have hSecond : tree.read "second" = .ok (utf8 " a b\t") := by rw [hTree]; rfl
  have hAlike : AlikeUpToSpace (utf8 " a b\r\n") (utf8 " a b\t") :=
    ⟨utf8 " a b", utf8 "\r\n", utf8 "\t", by decide, by decide, rfl, rfl⟩
  have hIs : IsMaterial (utf8 " a b") (utf8 " a b\r\n") :=
    ⟨⟨98, rfl, by decide⟩, utf8 "\r\n", by decide, rfl⟩
  obtain ⟨hSucceeds, hGives⟩ := (@login_gives_material Unit tree ⟨"svc", "first"⟩).1 _ hFirst
  obtain ⟨identity, hLogin⟩ := hSucceeds.mpr ⟨rfl, by decide⟩
  obtain ⟨-, hMaterial, hActive, hOther, -⟩ := hGives identity hLogin
  obtain ⟨hGiven, -⟩ := hActive (World.start ⟨0⟩ () toString) ⟨0, identity⟩ rfl rfl
  have hBytes : identity.material = ⟨utf8 " a b"⟩ := by rw [(hMaterial _).mp hIs]
  obtain ⟨details, hDetails⟩ := (@login_gives_material Unit tree ⟨" ", "first"⟩).2
    (.authentication "principal is empty") rfl
  refine ⟨tree, ⟨0, identity⟩, details, hFirst, hSecond, hAlike, hLogin,
    hOther tree "second" _ hSecond hAlike, ?_, ?_⟩
  · rw [hGiven, hBytes]
  · rw [← hDetails]
    rfl

end CredentialLease.KeyFile
