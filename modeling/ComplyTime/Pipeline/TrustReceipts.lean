import ComplyTime.Pipeline.Deployment
import ComplyTime.Pipeline.Transitions

/-!
# Reading trust receipts

An auditor reads a ledger through `UnwrapContent`: a trust-modification receipt
yields the list it was sealed for, a registration receipt yields none.  This
rests on what the libraries behind `Wrap` do to the values that texts denote.
-/

namespace ComplyTime.Pipeline

open Json Receipt Subjects AdminSubscriber Ledgers

/-- The receipts are made by `receipt.Wrap` over libraries that keep the values
that texts denote. -/
structure WrapsReceipts (env : Environment) (library : Library)
    (clock : ℕ → String) : Prop where
  wrap : ∀ now content publisher subjectID artifactType,
    env.wrap now content publisher subjectID artifactType =
      Receipt.wrap library content publisher subjectID artifactType (clock now)
  canonicalizes : library.Canonicalizes
  renders : library.Renders
  /-- `json.Unmarshal` inverts `json.Marshal`. -/
  marshals : ∀ now message receipt, Wrapped env now message receipt →
    library.unmarshal (env.marshal message.data) = .ok message.data

/-! ## What a receipt says -/

section Reading

variable (library : Library)

/-- The value that the content of a receipt denotes. -/
def receiptContent (receipt : Bytes) : Option Json :=
  (unwrapContent library receipt).toOption.bind fun unwrapped =>
    (library.unmarshal unwrapped.content).toOption

def readTrustEntry (value : Json) : Option TrustEntry :=
  (asObject value).bind fun members =>
    (stringMember "issuer" members).bind fun issuer =>
      (stringMember "sub" members).map fun sub => ⟨issuer, sub⟩

/-- Decoding into a slice: `null` leaves it nil. -/
def asSlice : Json → Option (List Json)
  | .arr items => some items
  | .null => some []
  | _ => none

def readTrustList (value : Json) : Option (List TrustEntry) :=
  (asObject value).bind fun members =>
    (member "trustedPublishers" members).bind fun publishers =>
      (asSlice publishers).bind fun items => items.mapM readTrustEntry

/-- The list in a trust-modification receipt; other receipts have none. -/
def sealedTrustList (receipt : Bytes) : Option (List TrustEntry) :=
  if predicateText library "artifactType" receipt =
      some "trust-modification" then
    (receiptContent library receipt).bind readTrustList
  else none

/-- The list in the last trust-modification receipt of a log. -/
def auditedTrustList (entries : List Entry) : Option (List TrustEntry) :=
  (entries.filterMap fun entry => sealedTrustList library entry.data).getLast?

end Reading

/-! ## Canonical content -/

theorem canonical_trustEntryData (entry : TrustEntry) :
    canonical (trustEntryData entry) = trustEntryData entry := by
  rw [trustEntryData, canonical_obj, canonicalObject_eq_self]
  · simp [canonicalMembers, canonical]
  · simp [Precedes]
    decide

theorem canonical_trustListData (list : Option (List TrustEntry)) :
    canonical (trustListData list) = trustListData list := by
  have hitems : ∀ entries : List TrustEntry,
      canonicalItems (entries.map trustEntryData) =
        entries.map trustEntryData := by
    intro entries
    induction entries with
    | nil => rfl
    | cons entry entries ih =>
      rw [List.map_cons, canonicalItems, canonical_trustEntryData, ih]
  cases list with
  | none => rfl
  | some entries => exact congrArg Json.arr (hitems entries)

theorem canonical_data (message : AdminRequest) :
    canonical message.data = message.data := by
  cases message with
  | register request =>
    rw [AdminRequest.data, registrationData, canonical_obj,
      canonicalObject_eq_self]
    · simp [canonicalMembers, canonical]
    · simp [Precedes]
      decide
  | sealTrust request =>
    rw [AdminRequest.data, trustData, canonical_obj, canonicalObject_eq_self]
    · simp [canonicalMembers, canonical, canonical_trustListData]
    · simp [Precedes]
      decide

/-! ## Receipts of admin requests -/

section Wrapped

variable {env : Environment} {library : Library} {clock : ℕ → String}
  {now : ℕ} {message : AdminRequest} {receipt : Bytes}

/-- The predicate of a receipt names the artifact type it was wrapped for. -/
theorem artifactType_wrap {content : Bytes}
    {publisher : PublisherIdentity}
    {subjectID artifactType receivedAt : String}
    (hcanonicalizes : library.Canonicalizes) (hrenders : library.Renders)
    (hwrap : Receipt.wrap library content publisher subjectID artifactType
      receivedAt = .ok receipt) :
    predicateText library "artifactType" receipt = some artifactType := by
  obtain ⟨canonicalContent, -, htexts⟩ :=
    predicateText_wrap hcanonicalizes hrenders hwrap
  rw [htexts]
  simp [stringMember, member, Predicate.members, asString, receiptStatement]

theorem artifactType_of_wrapped (hwraps : WrapsReceipts env library clock)
    (hwrapped : Wrapped env now message receipt) :
    predicateText library "artifactType" receipt =
      some message.artifactType := by
  unfold Wrapped at hwrapped
  rw [hwraps.wrap] at hwrapped
  exact artifactType_wrap hwraps.canonicalizes hwraps.renders hwrapped

theorem content_of_wrapped (hwraps : WrapsReceipts env library clock)
    (hwrapped : Wrapped env now message receipt) :
    receiptContent library receipt = some message.data := by
  have hmarshaled := hwraps.marshals now message receipt hwrapped
  unfold Wrapped at hwrapped
  rw [hwraps.wrap] at hwrapped
  obtain ⟨canonicalContent, htransform, hunwrap⟩ :=
    unwrapContent_wrap hwraps.canonicalizes hwraps.renders hwrapped
  have hdecoded := hwraps.canonicalizes _ _ _ htransform hmarshaled
  rw [canonical_data] at hdecoded
  simp [receiptContent, hunwrap, hdecoded, Except.toOption]

theorem readTrustEntry_trustEntryData (entry : TrustEntry) :
    readTrustEntry (trustEntryData entry) = some entry := by
  simp [readTrustEntry, trustEntryData, asObject, stringMember, member,
    asString]

theorem readTrustList_trustData (request : SealTrustRequest) :
    readTrustList (trustData request) =
      some (request.trustedPublishers.getD []) := by
  have hentries : ∀ entries : List TrustEntry,
      (entries.map trustEntryData).mapM readTrustEntry = some entries := by
    intro entries
    induction entries with
    | nil => rfl
    | cons entry entries ih =>
      simp [List.mapM_cons, readTrustEntry_trustEntryData, ih]
  cases hlist : request.trustedPublishers with
  | none =>
    simp [readTrustList, trustData, trustListData, hlist, asObject, member,
      asSlice]
  | some entries =>
    simp [readTrustList, trustData, trustListData, hlist, asObject, member,
      asSlice, hentries]

theorem sealedTrustList_sealTrust {request : SealTrustRequest}
    (hwraps : WrapsReceipts env library clock)
    (hwrapped : Wrapped env now (.sealTrust request) receipt) :
    sealedTrustList library receipt =
      some (request.trustedPublishers.getD []) := by
  have htype : predicateText library "artifactType" receipt =
      some "trust-modification" := artifactType_of_wrapped hwraps hwrapped
  rw [sealedTrustList, if_pos htype, content_of_wrapped hwraps hwrapped]
  exact readTrustList_trustData request

theorem sealedTrustList_register {request : RegisterRequest}
    (hwraps : WrapsReceipts env library clock)
    (hwrapped : Wrapped env now (.register request) receipt) :
    sealedTrustList library receipt = none := by
  have htype : predicateText library "artifactType" receipt =
      some "subject-registration" := artifactType_of_wrapped hwraps hwrapped
  rw [sealedTrustList, htype, if_neg (by decide)]

end Wrapped

/-! ## Growing logs -/

theorem auditedTrustList_append (library : Library) (entries : List Entry)
    (entry : Entry) :
    auditedTrustList library (entries ++ [entry]) =
      (sealedTrustList library entry.data).or
        (auditedTrustList library entries) := by
  unfold auditedTrustList
  rw [List.filterMap_append]
  cases hsealed : sealedTrustList library entry.data with
  | none => simp [hsealed]
  | some list => simp [hsealed]

theorem auditedTrustList_congr (library : Library) {entries others : List Entry}
    (hsame : entries.map Entry.data = others.map Entry.data) :
    auditedTrustList library entries = auditedTrustList library others := by
  have hmap : ∀ log : List Entry,
      (log.filterMap fun entry => sealedTrustList library entry.data) =
        (log.map Entry.data).filterMap (sealedTrustList library) := by
    intro log
    rw [List.filterMap_map]
    rfl
  unfold auditedTrustList
  rw [hmap, hmap, hsame]

/-! ## The deployment -/

theorem plain_trustListData (list : Option (List TrustEntry)) :
    JsonText.plain (trustListData list) = true := by
  cases list with
  | none => rfl
  | some entries =>
    rw [trustListData, JsonText.plain]
    induction entries with
    | nil => rfl
    | cons entry entries ih =>
      rw [List.map_cons, JsonText.plainItems, ih]
      rfl

theorem plain_data (message : AdminRequest) :
    JsonText.plain message.data = true := by
  cases message with
  | register request => rfl
  | sealTrust request =>
    simp [AdminRequest.data, trustData, JsonText.plain, JsonText.plainMembers,
      plain_trustListData]

theorem wrapsReceipts_deploymentUnder
    (policySet : Cedar.PolicySet Cedar.Request) :
    WrapsReceipts (deploymentUnder policySet) plainLibrary
      deploymentClock where
  wrap := fun _ _ _ _ _ => rfl
  canonicalizes := canonicalizes_plainLibrary
  renders := renders_plainLibrary
  marshals := by
    intro now message receipt hwrapped
    exact unmarshal_textBytes (plain_data message)

theorem wrapsReceipts_deployment :
    WrapsReceipts deployment plainLibrary deploymentClock :=
  wrapsReceipts_deploymentUnder _

theorem exists_wrapped (policySet : Cedar.PolicySet Cedar.Request) (now : ℕ)
    (message : AdminRequest) :
    ∃ receipt, Wrapped (deploymentUnder policySet) now message receipt :=
  wrap_textBytes (plain_data message) message.publisher message.subjectID
    message.artifactType (deploymentClock now)

end ComplyTime.Pipeline
