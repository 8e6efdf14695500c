import ComplyTime.Authn.TrustEntries
import ComplyTime.Core.Delimiter

/-!
# Principal identifiers

`PrincipalFromJWT` joins issuer and subject by a double colon.  Neither part is
kept free of colons: `ValidateIssuerURL` looks at the scheme and the case of the
host only, and subjects are arbitrary.  Two identities can therefore have one
identifier, and a policy that names the one then applies to the other.  This
happens for two issuers exactly when one of them continues the other by a colon
or by a text that begins with two.
-/

namespace ComplyTime.Authz

open Cedar Delimiter

/-- Different identities of the two issuers have different identifiers. -/
def Distinguished (issuer other : String) : Prop :=
  ∀ sub otherSub, sub ≠ "" → otherSub ≠ "" →
    principalFromJWT issuer sub = principalFromJWT other otherSub →
    issuer = other ∧ sub = otherSub

/-- The scope of the policy is `principal == uid`, possibly narrowed further. -/
def Names (policy : Policy Cedar.Request) (uid : EntityUID) : Prop :=
  ∀ request, policy.applies request = true → request.principal = uid

/-- A policy that names an identity of the issuer applies to no other identity
of the other issuer. -/
def NamedAlone (issuer other : String) : Prop :=
  ∀ sub, sub ≠ "" → ∀ policy, Names policy (principalFromJWT issuer sub) →
    ∀ cfg ctx action subjectID trusted, ctx.issuer = other → ctx.sub ≠ "" →
      policy.applies (cedarRequest cfg ctx action subjectID trusted) = true →
      issuer = ctx.issuer ∧ sub = ctx.sub

/-- The other issuer is this one followed by a single colon, or by a text that
begins with two. -/
def ContinuesByColons (issuer other : String) : Prop :=
  ∃ rest, other = issuer ++ rest ∧ (rest = ":" ∨ ∃ tail, rest = "::" ++ tail)

/-! ## Identifiers as joined texts -/

theorem principalFromJWT_eq_iff {issuer sub other otherSub : String} :
    principalFromJWT issuer sub = principalFromJWT other otherSub ↔
      join [':', ':'] issuer.toList sub.toList =
        join [':', ':'] other.toList otherSub.toList := by
  simp only [principalFromJWT, EntityUID.mk.injEq, true_and, join,
    ← String.toList_inj, String.toList_append]
  rfl

theorem toList_ne_nil {text : String} : text.toList ≠ [] ↔ text ≠ "" :=
  not_congr String.toList_eq_nil_iff

theorem colons_overlap_iff {rest : List Char} :
    rest ≠ [] ∧ [':', ':'] <+: rest ++ [':', ':'] ↔
      rest = [':'] ∨ ∃ tail, rest = ':' :: ':' :: tail := by
  match rest with
  | [] => simp
  | [letter] => simp [eq_comm]
  | letter :: second :: tail => simp [List.cons_prefix_cons, eq_comm]

variable {issuer other : String}

theorem overlaps_iff_continuesByColons :
    Overlaps [':', ':'] issuer.toList other.toList ↔
      ContinuesByColons issuer other := by
  constructor
  · rintro ⟨rest, hrest, hother, hprefix⟩
    refine ⟨String.ofList rest, ?_, ?_⟩
    · rw [← String.toList_inj, String.toList_append, String.toList_ofList,
        hother]
    · rcases colons_overlap_iff.mp ⟨hrest, hprefix⟩ with rfl | ⟨tail, rfl⟩
      · exact .inl rfl
      · refine .inr ⟨String.ofList tail, ?_⟩
        simp [← String.toList_inj]
  · rintro ⟨rest, rfl, hrest⟩
    have hcolons : rest.toList = [':'] ∨
        ∃ tail, rest.toList = ':' :: ':' :: tail := by
      rcases hrest with rfl | ⟨tail, rfl⟩
      · exact .inl rfl
      · exact .inr ⟨tail.toList, by rw [String.toList_append]; rfl⟩
    obtain ⟨hne, hprefix⟩ := colons_overlap_iff.mpr hcolons
    exact ⟨rest.toList, hne, String.toList_append, hprefix⟩

theorem distinguished_iff :
    Distinguished issuer other ↔
      ¬ ContinuesByColons issuer other ∧ ¬ ContinuesByColons other issuer := by
  rw [← overlaps_iff_continuesByColons, ← overlaps_iff_continuesByColons,
    ← join_injective_iff]
  constructor
  · intro hdistinguished second second' hsecond hsecond' heq
    have hparts := hdistinguished (String.ofList second)
      (String.ofList second')
      (toList_ne_nil.mp (by rwa [String.toList_ofList]))
      (toList_ne_nil.mp (by rwa [String.toList_ofList]))
      (principalFromJWT_eq_iff.mpr
        (by rwa [String.toList_ofList, String.toList_ofList]))
    exact ⟨congrArg String.toList hparts.1, String.ofList_injective hparts.2⟩
  · intro hinjective sub otherSub hsub hotherSub heq
    have hparts := hinjective sub.toList otherSub.toList
      (toList_ne_nil.mpr hsub) (toList_ne_nil.mpr hotherSub)
      (principalFromJWT_eq_iff.mp heq)
    exact ⟨String.toList_inj.mp hparts.1, String.toList_inj.mp hparts.2⟩

/-! ## Policies that name a principal -/

theorem Distinguished.namedAlone (hdistinguished : Distinguished issuer other) :
    NamedAlone issuer other := by
  rintro sub hsub policy hnames cfg ctx action subjectID trusted rfl hother
    happlies
  exact hdistinguished sub ctx.sub hsub hother (hnames _ happlies).symm

/-- Over every two issuers, accepted by `ValidateIssuerURL` or not. -/
theorem identities_distinguished_iff (issuer other : String) :
    Distinguished issuer other ∧ NamedAlone issuer other ↔
      ¬ ContinuesByColons issuer other ∧ ¬ ContinuesByColons other issuer := by
  constructor
  · rintro ⟨hdistinguished, -⟩
    exact distinguished_iff.mp hdistinguished
  · intro hseparate
    have hdistinguished := distinguished_iff.mpr hseparate
    exact ⟨hdistinguished, hdistinguished.namedAlone⟩

theorem ContinuesByColons.isPrefix
    (hcontinues : ContinuesByColons issuer other) :
    issuer.toList <+: other.toList := by
  obtain ⟨rest, rfl, -⟩ := hcontinues
  exact ⟨rest.toList, String.toList_append.symm⟩

theorem hosted_identities_distinguished :
    Distinguished "https://gitlab.example" "https://gitlab.example:8443" ∧
      NamedAlone "https://gitlab.example" "https://gitlab.example:8443" := by
  refine (identities_distinguished_iff _ _).mpr ⟨?_, ?_⟩
  · rintro ⟨rest, hother, hrest⟩
    have hport : rest = ":8443" :=
      (String.append_right_inj "https://gitlab.example").mp hother.symm
    subst hport
    rcases hrest with hcolon | ⟨tail, htail⟩
    · exact absurd hcolon (by decide)
    · have hletters : [':', ':'] <+: ":8443".toList :=
        ⟨tail.toList, by rw [htail, String.toList_append]; rfl⟩
      exact absurd hletters (by decide)
  · intro hcontinues
    exact absurd hcontinues.isPrefix (by decide)

/-- Two accepted issuers of one host, and subjects that make up for the
difference. -/
theorem shared_principal :
    Authn.validateIssuerURL String.toLower "https://idp.example/a" = .ok () ∧
    Authn.validateIssuerURL String.toLower "https://idp.example/a::b" = .ok () ∧
    principalFromJWT "https://idp.example/a" "b::ci" =
      principalFromJWT "https://idp.example/a::b" "ci" ∧
    ¬ Distinguished "https://idp.example/a" "https://idp.example/a::b" := by
  have hcontinues : ContinuesByColons "https://idp.example/a"
      "https://idp.example/a::b" := ⟨"::b", rfl, .inr ⟨"b", rfl⟩⟩
  refine ⟨by decide +kernel, by decide +kernel, by decide, ?_⟩
  rw [distinguished_iff]
  exact fun hseparate => hseparate.1 hcontinues

end ComplyTime.Authz
