import ComplyTime.Authz.Policies

/-!
# What an overlay may take away

The parser numbers the policies of every file from zero, so each overlay file
reuses the identifiers of `base.cedar` and of the files before it, and `Add`
replaces.  The loaded set is the union of all files exactly when every policy
is written at some position that no later file reaches.  A two-policy overlay
already replaces the publish permit and the forbid floor.
-/

namespace ComplyTime.Authz

open Cedar

/-- Every policy of the documents is in the set, so that the set decides as
their union does, and the floor of publishing stands. -/
structure OnlyAdds (policySet : PolicySet Request)
    (documents : List (List (Policy Request))) : Prop where
  contains : ∀ document ∈ documents, ∀ policy ∈ document,
    policy ∈ PolicySet.policies policySet
  decides : ∀ request,
    authorize (PolicySet.policies policySet) request =
      authorize documents.flatten request
  floor : ∀ request attributes,
    request.action = actionPublishArtifact →
    request.entities request.resource = some attributes →
    attributes "publisher_trusted" = some (.boolean false) →
    authorize (PolicySet.policies policySet) request = .deny

/-- Containment is the whole of it: the decisions and the floor follow. -/
theorem onlyAdds_of_contains {order : IterationOrder Request}
    {documents : List (List (Policy Request))}
    (hcontains : ∀ document ∈ basePolicies :: documents,
      ∀ policy ∈ document, policy ∈ PolicySet.policies
        (mergeDocuments order (ofDocument basePolicies) documents)) :
    OnlyAdds (mergeDocuments order (ofDocument basePolicies) documents)
      (basePolicies :: documents) := by
  constructor
  · exact hcontains
  · intro request
    apply authorize_congr
    intro policy
    constructor
    · intro hmem
      rw [mem_policies_mergeDocuments_ofDocument] at hmem
      exact hmem.mem_flatten
    · intro hmem
      obtain ⟨document, hdocument, hpolicy⟩ := List.mem_flatten.mp hmem
      exact hcontains document hdocument policy hpolicy
  · intro request attributes haction hresource huntrusted
    have hfloor : publishFloor ∈ PolicySet.policies
        (mergeDocuments order (ofDocument basePolicies) documents) :=
      hcontains basePolicies (by simp) publishFloor (by simp [basePolicies])
    exact authorize_eq_deny_of_forbid hfloor rfl
      (satisfied_publishFloor haction hresource huntrusted)

/-- Loading a readable policy directory only adds to the base policies exactly
when every policy stands, in some file, at a position that no file loaded after
it reaches. -/
theorem loadEmbeddedPolicies_onlyAdds_iff (order : IterationOrder Request)
    (policyDir : String) (entries : List DirEntry)
    (hreadable : ∀ entry ∈ entries, entry.Readable) :
    ∃ policySet,
      loadEmbeddedPolicies order policyDir (.ok entries) = .ok policySet ∧
      (OnlyAdds policySet (basePolicies :: policyDocuments policyDir entries) ↔
        ∀ document ∈ basePolicies :: policyDocuments policyDir entries,
          ∀ policy ∈ document,
            Retained (basePolicies :: policyDocuments policyDir entries)
              policy) := by
  refine ⟨_, loadEmbeddedPolicies_ok order policyDir hreadable, ?_⟩
  constructor
  · intro honly document hdocument policy hpolicy
    have hmem := honly.contains document hdocument policy hpolicy
    rwa [mem_policies_mergeDocuments_ofDocument] at hmem
  · intro hretained
    apply onlyAdds_of_contains
    intro document hdocument policy hpolicy
    rw [mem_policies_mergeDocuments_ofDocument]
    exact hretained document hdocument policy hpolicy

/-! ## Two overlays -/

def overlayFile (document : List (Policy Request)) : DirEntry where
  name := "overlay.cedar"
  path := "/etc/cedar/overlay.cedar"
  isDir := false
  readError := none
  document := .ok document

theorem readable_overlayFile (document : List (Policy Request)) :
    ∀ entry ∈ [overlayFile document], entry.Readable := by
  intro entry hmem
  obtain rfl := List.mem_singleton.mp hmem
  exact .inr ⟨rfl, rfl⟩

theorem policyDocuments_overlayFile (document : List (Policy Request)) :
    policyDocuments "/etc/cedar" [overlayFile document] = [document] := by
  have hloaded : (overlayFile document).skipped = false := by
    change (false || !".cedar".toList.isSuffixOf "overlay.cedar".toList) = false
    decide
  rw [policyDocuments, if_neg (by decide), overlays, List.filterMap_cons,
    hloaded]
  rfl

/-- Auditors may register subjects. -/
def auditorRegistration : Policy Request :=
  permitWhen actionRequestRegistration isAuditor

/-- Everyone may publish. -/
def openPublishing : Policy Request :=
  permitWhen actionPublishArtifact (.literal (.boolean true))

/-- An overlay that repeats the base before its own policy loses nothing. -/
theorem repeated_base_onlyAdds :
    ∃ policySet,
      loadEmbeddedPolicies entryOrder "/etc/cedar"
        (.ok [overlayFile (basePolicies ++ [auditorRegistration])]) =
          .ok policySet ∧
      OnlyAdds policySet
        [basePolicies, basePolicies ++ [auditorRegistration]] := by
  have hloaded := loadEmbeddedPolicies_onlyAdds_iff entryOrder "/etc/cedar"
    [overlayFile (basePolicies ++ [auditorRegistration])]
    (readable_overlayFile _)
  rw [policyDocuments_overlayFile] at hloaded
  obtain ⟨policySet, hload, honly⟩ := hloaded
  refine ⟨policySet, hload, honly.mpr ?_⟩
  intro document hdocument policy hpolicy
  have hmem : policy ∈ basePolicies ++ [auditorRegistration] := by
    simp only [List.mem_cons, List.not_mem_nil, or_false] at hdocument
    rcases hdocument with rfl | rfl
    · exact List.mem_append_left _ hpolicy
    · exact hpolicy
  obtain ⟨position, hposition⟩ := List.mem_iff_getElem?.mp hmem
  exact ⟨[basePolicies], _, [], position, rfl, hposition, by simp⟩

/-- A publish request of a publisher that the subject does not trust. -/
def untrustedRequest : Request where
  principal := ⟨"Publisher", "https://ci.example::job"⟩
  action := actionPublishArtifact
  resource := ⟨"Subject", "payments"⟩
  context := fun _ => none
  entities := fun uid =>
    if uid.entityType = "Subject" then
      some fun name =>
        if name = "publisher_trusted" then some (.boolean false) else none
    else some fun name =>
      if name = "publisher" then some (.boolean true) else none

/-- Two policies replace the publish permit and the floor: the untrusted
request is allowed, while the union of the two files denies it. -/
theorem two_policy_overlay_removes_floor :
    (loadEmbeddedPolicies entryOrder "/etc/cedar"
        (.ok [overlayFile [openPublishing, auditorRegistration]])
        ).toOption.map (fun policySet =>
          authorize (PolicySet.policies policySet) untrustedRequest) =
      some .allow ∧
    authorize [basePolicies, [openPublishing, auditorRegistration]].flatten
      untrustedRequest = .deny := by
  constructor <;> decide

end ComplyTime.Authz
