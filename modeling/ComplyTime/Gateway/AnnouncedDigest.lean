import ComplyTime.Gateway.Ingest
import ComplyTime.Gateway.PlainLibrary
import ComplyTime.Locker.Worker

/-!
# The announced digest

`IngestArtifact` hashes the body as it came and announces that digest in the
work item and in the ingested event; the worker copies it into the sealed
event.  `Wrap` canonicalizes the body first, seals the canonical content and
records the digest of that.  The two digests belong to one content when the
body was canonical to begin with.
-/

namespace ComplyTime.Ingest

open Json JsonText Receipt Subjects Worker

/-- The digest that is announced for an accepted body is that of the content
in the sealed receipt, and the receipt records the same hash. -/
structure AnnouncesSealed (library : Library) (accepted : Accepted) :
    Prop where
  unwrapped : ∃ result,
    unwrapContent library accepted.ref.receiptBytes = .ok result ∧
      accepted.ref.contentDigest = hexString (library.sha256 result.content)
  ingested : accepted.ingested.contentDigest = accepted.ref.contentDigest
  sealedEvent : ∀ sha256Hex index,
    (sealedEvent sha256Hex accepted.ref index).contentDigest =
      accepted.ref.contentDigest
  recorded : ∃ hash, accepted.ref.contentDigest = hexString hash ∧
    predicateText library "contentDigest" accepted.ref.receiptBytes =
      some ("sha256:" ++ Base64.encodeToString Base64.urlEncoding hash)

section Announcements

variable {library : Library} {compile : String → Schema}
  {surroundings : Surroundings} {request : Request} {accepted : Accepted}

theorem contentDigest_wrap (hcanonicalizes : library.Canonicalizes)
    (hrenders : library.Renders) {content receipt : Bytes}
    {publisher : PublisherIdentity} {subjectID artifactType receivedAt : String}
    (hwrap : wrap library content publisher subjectID artifactType
      receivedAt = .ok receipt) :
    ∃ canonicalContent, library.transform content = .ok canonicalContent ∧
      predicateText library "contentDigest" receipt =
        some ("sha256:" ++ Base64.encodeToString Base64.urlEncoding
          (library.sha256 canonicalContent)) := by
  obtain ⟨canonicalContent, hcontent, htexts⟩ :=
    predicateText_wrap hcanonicalizes hrenders hwrap
  refine ⟨canonicalContent, hcontent, (htexts "contentDigest").trans ?_⟩
  simp [stringMember, member, Predicate.members, asString, receiptStatement]

/-- The announcements are right when the hash does not see canonicalization. -/
theorem announcesSealed_iff_sha256 (hcanonicalizes : library.Canonicalizes)
    (hrenders : library.Renders)
    (haccepted : ingestArtifact library compile surroundings request =
      .ok accepted) :
    ∃ canonicalContent,
      library.transform (readBody request) = .ok canonicalContent ∧
      (AnnouncesSealed library accepted ↔
        library.sha256 (readBody request) =
          library.sha256 canonicalContent) := by
  obtain ⟨artifactType, checked, -, hsubmitted⟩ :=
    submit_of_ingestArtifact haccepted
  obtain ⟨-, hwrap, href, hingested⟩ := submit_eq_ok hsubmitted
  obtain ⟨canonicalContent, hcontent, hunwrap⟩ :=
    unwrapContent_wrap hcanonicalizes hrenders hwrap
  obtain ⟨recorded, hrecorded, hdigest⟩ :=
    contentDigest_wrap hcanonicalizes hrenders hwrap
  rw [hcontent] at hrecorded
  obtain rfl := Except.ok.inj hrecorded
  refine ⟨canonicalContent, hcontent, ?_⟩
  constructor
  · intro hannounces
    obtain ⟨result, hresult, hsame⟩ := hannounces.unwrapped
    rw [hunwrap] at hresult
    rw [href, ← Except.ok.inj hresult] at hsame
    exact hexString_injective hsame
  · intro hsame
    rw [hsame] at href hingested
    exact {
      unwrapped := ⟨_, hunwrap, href⟩
      ingested := hingested.trans href.symm
      sealedEvent := fun _ _ => rfl
      recorded := ⟨_, href, hdigest⟩ }

/-- Unless its canonical form has the same hash by accident, an accepted body
is announced by the digest of what is sealed exactly when it is its own
canonical form. -/
theorem announced_digest_iff (hcanonicalizes : library.Canonicalizes)
    (hrenders : library.Renders)
    (haccepted : ingestArtifact library compile surroundings request =
      .ok accepted)
    (hcollision : ∀ canonicalContent,
      library.transform (readBody request) = .ok canonicalContent →
      library.sha256 (readBody request) = library.sha256 canonicalContent →
        readBody request = canonicalContent) :
    AnnouncesSealed library accepted ↔
      library.transform (readBody request) = .ok (readBody request) := by
  obtain ⟨canonicalContent, hcontent, hannounces⟩ :=
    announcesSealed_iff_sha256 hcanonicalizes hrenders haccepted
  rw [hannounces, hcontent, Except.ok.injEq]
  constructor
  · intro hsame
    exact (hcollision canonicalContent hcontent hsame).symm
  · intro hsame
    rw [hsame]

end Announcements

/-! ## Envelopes -/

def envelopeRequest (envelope : Json) : Request :=
  plainRequest contentTypeDSSE envelope

/-- No schema is consulted for envelopes. -/
def envelopeSchemas : String → Schema := fun _ _ => .error ["unused"]

theorem ingest_envelopeRequest {envelope : Json} (hplain : plain envelope)
    (hsize : (textBytes envelope).length ≤ maxBodySize) :
    ∃ accepted, ingestArtifact plainLibrary envelopeSchemas
      plainSurroundings (envelopeRequest envelope) = .ok accepted := by
  obtain ⟨accepted, haccepted, -⟩ := ingest_plainRequest hplain hsize
    (classify_envelope rfl)
  exact ⟨accepted, haccepted⟩

/-- An envelope with its members in order. -/
def sortedEnvelope : Json :=
  .obj [("payload", .str "e30="),
    ("payloadType", .str "application/vnd.in-toto+json"),
    ("signatures", .arr [])]

theorem transform_sortedEnvelope :
    plainLibrary.transform (textBytes sortedEnvelope) =
      .ok (textBytes sortedEnvelope) := by
  rw [transform_textBytes (by decide)]
  rfl

/-- The same envelope with its members in the order in which Go declares the
fields of `dsse.Envelope`. -/
def declaredEnvelope : Json :=
  .obj [("payloadType", .str "application/vnd.in-toto+json"),
    ("payload", .str "e30="), ("signatures", .arr [])]

theorem transform_declaredEnvelope :
    plainLibrary.transform (textBytes declaredEnvelope) =
      .ok (textBytes sortedEnvelope) := by
  rw [transform_textBytes (by decide)]
  rfl

theorem sortedEnvelope_announced :
    ∃ accepted, ingestArtifact plainLibrary envelopeSchemas
        plainSurroundings (envelopeRequest sortedEnvelope) = .ok accepted ∧
      AnnouncesSealed plainLibrary accepted := by
  have hbody : readBody (envelopeRequest sortedEnvelope) =
      textBytes sortedEnvelope := by rfl
  obtain ⟨accepted, haccepted⟩ := ingest_envelopeRequest
    (by decide : plain sortedEnvelope = true) (by decide)
  refine ⟨accepted, haccepted, ?_⟩
  apply (announced_digest_iff canonicalizes_plainLibrary renders_plainLibrary
    haccepted ?_).mpr
  · rw [hbody]
    exact transform_sortedEnvelope
  · intro canonicalContent hcanonical hsame
    rw [hbody, transform_sortedEnvelope] at hcanonical
    rw [hbody]
    exact Except.ok.inj hcanonical

/-- What is announced for the second envelope is not the digest of what is
sealed for it. -/
theorem declaredEnvelope_not_announced :
    ∃ accepted, ingestArtifact plainLibrary envelopeSchemas
        plainSurroundings (envelopeRequest declaredEnvelope) = .ok accepted ∧
      ¬ AnnouncesSealed plainLibrary accepted := by
  have hbody : readBody (envelopeRequest declaredEnvelope) =
      textBytes declaredEnvelope := by rfl
  obtain ⟨accepted, haccepted⟩ := ingest_envelopeRequest
    (by decide : plain declaredEnvelope = true) (by decide)
  refine ⟨accepted, haccepted, ?_⟩
  obtain ⟨canonicalContent, hcontent, hannounces⟩ := announcesSealed_iff_sha256
    canonicalizes_plainLibrary renders_plainLibrary haccepted
  rw [hbody, transform_declaredEnvelope] at hcontent
  rw [hannounces, hbody, ← Except.ok.inj hcontent]
  change Sha256.sha256 (textBytes declaredEnvelope) ≠
    Sha256.sha256 (textBytes sortedEnvelope)
  decide +kernel

end ComplyTime.Ingest
