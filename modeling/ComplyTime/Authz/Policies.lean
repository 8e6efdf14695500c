import ComplyTime.Core.Cedar
import ComplyTime.Errors

/-!
# The embedded policies and their overlays

`base.cedar` holds six policies: the permit and the forbid floor of publishing,
the two admin permits and the two evidence permits.  `LoadEmbeddedPolicies`
starts from them and adds the policies of every `*.cedar` file of the policy
directory, in the order in which the directory is listed.
-/

namespace ComplyTime.Authz

open Cedar

/-! ## Actions -/

def action (id : String) : EntityUID := ⟨"Action", id⟩

def actionPublishArtifact : EntityUID := action "publish:artifact"

def actionRequestRegistration : EntityUID :=
  action "admin:request-registration"

def actionRequestTrustModification : EntityUID :=
  action "admin:request-trust-modification"

def actionReadEvidence : EntityUID := action "read:evidence"

def actionQueryEvidence : EntityUID := action "query:evidence"

/-! ## `base.cedar` -/

/-- `principal.scopes.contains("…")`. -/
def hasScope (scope : String) : Expr :=
  .contains (.attribute .principal "scopes") (.literal (.string scope))

/-- `principal.groups.contains(context.…)`. -/
def inGroup (group : String) : Expr :=
  .contains (.attribute .principal "groups") (.attribute .context group)

def isAdmin : Expr :=
  .or (hasScope "complytime:admin") (inGroup "admin_group")

def isAuditor : Expr :=
  .or (.or (.or (hasScope "complytime:audit") (hasScope "complytime:admin"))
    (inGroup "auditor_group")) (inGroup "admin_group")

def publishPermit : Policy Request :=
  permitWhen actionPublishArtifact
    (.and (isTrue .principal "publisher")
      (isTrue .resource "publisher_trusted"))

/-- The safety floor of publishing. -/
def publishFloor : Policy Request :=
  forbidUnless actionPublishArtifact (isTrue .resource "publisher_trusted")

def basePolicies : List (Policy Request) :=
  [publishPermit,
   publishFloor,
   permitWhen actionRequestRegistration isAdmin,
   permitWhen actionRequestTrustModification isAdmin,
   permitWhen actionQueryEvidence isAuditor,
   permitWhen actionReadEvidence isAuditor]

/-! ## `LoadEmbeddedPolicies` -/

/-- What `os.ReadDir`, `os.ReadFile` and the policy parser make of one entry of
the policy directory. -/
structure DirEntry where
  name : String
  path : String
  isDir : Bool
  readError : Option GoError
  document : Except GoError (List (Policy Request))

def DirEntry.skipped (entry : DirEntry) : Bool :=
  entry.isDir || !".cedar".toList.isSuffixOf entry.name.toList

def loadEntry (order : IterationOrder Request)
    (policySet : PolicySet Request) (entry : DirEntry) :
    Except GoError (PolicySet Request) :=
  if entry.skipped then .ok policySet
  else match entry.readError, entry.document with
  | some err, _ => .error (.within ("reading " ++ entry.path) err)
  | none, .error err => .error (.within ("parsing " ++ entry.path) err)
  | none, .ok document => .ok (addAll policySet (order.1 (ofDocument document)))

def loadEmbeddedPolicies (order : IterationOrder Request)
    (policyDir : String) (readDir : Except GoError (List DirEntry)) :
    Except GoError (PolicySet Request) :=
  if policyDir = "" then .ok (ofDocument basePolicies)
  else match readDir with
  | .error err =>
    .error (.within ("reading CEDAR_POLICY_DIR " ++ policyDir) err)
  | .ok entries => entries.foldlM (loadEntry order) (ofDocument basePolicies)

/-- The file is skipped or holds well-formed policies. -/
def DirEntry.Readable (entry : DirEntry) : Prop :=
  entry.skipped = true ∨ entry.readError = none ∧ entry.document.isOk = true

/-- The documents of the policy files, in the order of the listing. -/
def overlays (entries : List DirEntry) : List (List (Policy Request)) :=
  entries.filterMap fun entry =>
    if entry.skipped then none else entry.document.toOption

section

variable (order : IterationOrder Request)

theorem loadEntry_of_readable (policySet : PolicySet Request) {entry : DirEntry}
    (hreadable : entry.Readable) :
    loadEntry order policySet entry =
      .ok (mergeDocuments order policySet (overlays [entry])) := by
  unfold loadEntry
  by_cases hskipped : entry.skipped = true
  · rw [if_pos hskipped]
    simp [overlays, hskipped, mergeDocuments]
  · rw [if_neg hskipped]
    obtain ⟨hread, hok⟩ := hreadable.resolve_left hskipped
    cases hdocument : entry.document with
    | error err => simp [hdocument, Except.isOk, Except.toBool] at hok
    | ok document =>
      simp [overlays, hskipped, hread, hdocument, mergeDocuments,
        Except.toOption]

theorem foldlM_loadEntry (policySet : PolicySet Request)
    {entries : List DirEntry} (hreadable : ∀ entry ∈ entries, entry.Readable) :
    entries.foldlM (loadEntry order) policySet =
      .ok (mergeDocuments order policySet (overlays entries)) := by
  induction entries generalizing policySet with
  | nil => rfl
  | cons entry entries ih =>
    have hoverlays : overlays (entry :: entries) =
        overlays [entry] ++ overlays entries := by
      rw [← List.singleton_append, overlays, List.filterMap_append]
      rfl
    rw [List.foldlM_cons,
      loadEntry_of_readable order policySet (hreadable entry (by simp))]
    change entries.foldlM (loadEntry order) _ = _
    rw [ih _ fun other hother => hreadable other (by simp [hother]),
      hoverlays, mergeDocuments, mergeDocuments, mergeDocuments,
      List.foldl_append]

/-- The documents that a policy directory contributes. -/
def policyDocuments (policyDir : String) (entries : List DirEntry) :
    List (List (Policy Request)) :=
  if policyDir = "" then [] else overlays entries

theorem loadEmbeddedPolicies_ok (policyDir : String) {entries : List DirEntry}
    (hreadable : ∀ entry ∈ entries, entry.Readable) :
    loadEmbeddedPolicies order policyDir (.ok entries) =
      .ok (mergeDocuments order (ofDocument basePolicies)
        (policyDocuments policyDir entries)) := by
  unfold loadEmbeddedPolicies policyDocuments
  by_cases hdir : policyDir = ""
  · rw [if_pos hdir, if_pos hdir]
    rfl
  · rw [if_neg hdir, if_neg hdir]
    exact foldlM_loadEntry order (ofDocument basePolicies) hreadable

theorem loadEmbeddedPolicies_embedded (readDir : Except GoError (List DirEntry)) :
    loadEmbeddedPolicies order "" readDir = .ok (ofDocument basePolicies) := by
  unfold loadEmbeddedPolicies
  rw [if_pos rfl]

end

/-! ## The floor -/

/-- The floor forbids every publish request on an untrusted resource. -/
theorem satisfied_publishFloor {request : Request} {attributes : Record}
    (haction : request.action = actionPublishArtifact)
    (hresource : request.entities request.resource = some attributes)
    (huntrusted : attributes "publisher_trusted" = some (.boolean false)) :
    publishFloor.satisfied request = true := by
  rw [publishFloor, satisfied_forbidUnless]
  refine ⟨haction, ?_⟩
  have hrecord : request.record .resource = some attributes := hresource
  rw [holds_isTrue hrecord huntrusted]
  rfl

end ComplyTime.Authz
