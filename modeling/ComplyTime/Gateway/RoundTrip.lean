import ComplyTime.Gateway.AnnouncedDigest

/-!
# Recovering what was wrapped

`UnwrapContent` returns the canonical form of what was wrapped.  Wrapping that
form again gives the receipt that the original content would have given, so a
second trip changes nothing.  The body of an envelope takes the same way: it
comes back byte for byte when it was canonical before.
-/

namespace ComplyTime.Receipt

open Json JsonText

section Rewrapping

variable {library : Library} {content canonicalContent receipt : Bytes}
  {publisher : PublisherIdentity} {subjectID artifactType receivedAt : String}

/-- Content and canonical form give the same receipts. -/
theorem wrap_canonicalContent (hfixes : library.FixesCanonical)
    (hcontent : library.transform content = .ok canonicalContent)
    (publisher : PublisherIdentity)
    (subjectID artifactType receivedAt : String) :
    wrap library canonicalContent publisher subjectID artifactType receivedAt =
      wrap library content publisher subjectID artifactType receivedAt := by
  rw [wrap, wrap, hcontent, hfixes content canonicalContent hcontent]

/-- The two fields that depend on the content alone. -/
theorem contentTexts_wrap (hcanonicalizes : library.Canonicalizes)
    (hrenders : library.Renders)
    (hcontent : library.transform content = .ok canonicalContent)
    (hwrap : wrap library content publisher subjectID artifactType
      receivedAt = .ok receipt) :
    predicateText library "content" receipt =
        some (Base64.encodeToString Base64.stdEncoding canonicalContent) ∧
      predicateText library "contentDigest" receipt =
        some ("sha256:" ++ Base64.encodeToString Base64.urlEncoding
          (library.sha256 canonicalContent)) := by
  obtain ⟨found, hfound, htexts⟩ :=
    predicateText_wrap hcanonicalizes hrenders hwrap
  rw [hcontent] at hfound
  obtain rfl := Except.ok.inj hfound
  constructor
  · rw [htexts]
    simp [stringMember, member, Predicate.members, asString, receiptStatement]
  · rw [htexts]
    simp [stringMember, member, Predicate.members, asString, receiptStatement]

/-- A receipt gives back the canonical content and the publisher.  Under any
publisher and at any time the content so recovered is wrapped as the original
content would be, and into the same content fields. -/
theorem receipt_round_trip (hcanonicalizes : library.Canonicalizes)
    (hfixes : library.FixesCanonical) (hrenders : library.Renders)
    (hwrap : wrap library content publisher subjectID artifactType
      receivedAt = .ok receipt) :
    ∃ result, unwrapContent library receipt = .ok result ∧
      library.transform content = .ok result.content ∧
      result.publisher = publisher ∧ result.format = "gemara-receipt/v1" ∧
      ∀ (publisher : PublisherIdentity)
        (subjectID artifactType receivedAt : String),
        wrap library result.content publisher subjectID artifactType
            receivedAt =
          wrap library content publisher subjectID artifactType receivedAt ∧
        ∀ again, wrap library result.content publisher subjectID artifactType
            receivedAt = .ok again →
          ∀ field ∈ ["content", "contentDigest"],
            (predicateText library field again).isSome ∧
              predicateText library field again =
                predicateText library field receipt := by
  obtain ⟨canonicalContent, hcontent, hunwrap⟩ :=
    unwrapContent_wrap hcanonicalizes hrenders hwrap
  refine ⟨_, hunwrap, hcontent, rfl, rfl, ?_⟩
  intro publisher subjectID artifactType receivedAt
  refine ⟨wrap_canonicalContent hfixes hcontent publisher subjectID
    artifactType receivedAt, ?_⟩
  intro again hagain
  have hfirst := contentTexts_wrap hcanonicalizes hrenders hcontent hwrap
  have hsecond := contentTexts_wrap hcanonicalizes hrenders
    (hfixes content canonicalContent hcontent) hagain
  intro field hfield
  simp only [List.mem_cons, List.not_mem_nil, or_false] at hfield
  rcases hfield with rfl | rfl
  · rw [hsecond.1, hfirst.1]
    exact ⟨rfl, rfl⟩
  · rw [hsecond.2, hfirst.2]
    exact ⟨rfl, rfl⟩

/-- A receipt tells what it was made of. -/
theorem eq_of_wrap_eq_wrap {otherContent : Bytes}
    {otherPublisher : PublisherIdentity}
    {otherSubjectID otherArtifactType otherReceivedAt : String}
    (hcanonicalizes : library.Canonicalizes) (hrenders : library.Renders)
    (hwrap : wrap library content publisher subjectID artifactType
      receivedAt = .ok receipt)
    (hother : wrap library otherContent otherPublisher otherSubjectID
      otherArtifactType otherReceivedAt = .ok receipt) :
    library.transform content = library.transform otherContent ∧
      publisher = otherPublisher ∧ artifactType = otherArtifactType ∧
      receivedAt = otherReceivedAt := by
  obtain ⟨canonicalContent, hcontent, hunwrap⟩ :=
    unwrapContent_wrap hcanonicalizes hrenders hwrap
  obtain ⟨otherCanonical, hotherContent, hotherUnwrap⟩ :=
    unwrapContent_wrap hcanonicalizes hrenders hother
  rw [hunwrap, Except.ok.injEq, UnwrapResult.mk.injEq] at hotherUnwrap
  obtain ⟨_, _, htexts⟩ := predicateText_wrap hcanonicalizes hrenders hwrap
  obtain ⟨_, _, hotherTexts⟩ :=
    predicateText_wrap hcanonicalizes hrenders hother
  have htype := (htexts "artifactType").symm.trans (hotherTexts "artifactType")
  have htime := (htexts "receivedAt").symm.trans (hotherTexts "receivedAt")
  refine ⟨?_, hotherUnwrap.2.1, ?_, ?_⟩
  · rw [hcontent, hotherContent, hotherUnwrap.1]
  · simpa [stringMember, member, Predicate.members, asString,
      receiptStatement] using htype
  · simpa [stringMember, member, Predicate.members, asString,
      receiptStatement] using htime

end Rewrapping

/-- A publisher with a quote, a backslash and a line break in its names. -/
def awkwardPublisher : PublisherIdentity :=
  ⟨"https://ci.example/\"a\\b\"", "job\n\x01é"⟩

/-- An envelope whose members are out of order comes back sorted, under texts
that need escapes and more than one byte for a character. -/
theorem round_trip_declaredEnvelope :
    ∃ receipt result,
      wrap plainLibrary (textBytes Ingest.declaredEnvelope) awkwardPublisher
          "zahlungen-ü" "dsse \"v1\"\t😀" "2026-01-01T00:00:00Z" =
        .ok receipt ∧
      unwrapContent plainLibrary receipt = .ok result ∧
      result.content = textBytes Ingest.sortedEnvelope ∧
      result.publisher = awkwardPublisher ∧
      wrap plainLibrary result.content awkwardPublisher "zahlungen-ü"
          "dsse \"v1\"\t😀" "2026-01-01T00:00:00Z" = .ok receipt := by
  have hplain : plain Ingest.declaredEnvelope = true := by decide
  obtain ⟨receipt, hwrap⟩ := wrap_textBytes hplain awkwardPublisher
    "zahlungen-ü" "dsse \"v1\"\t😀" "2026-01-01T00:00:00Z"
  obtain ⟨result, hunwrap, hcontent, hpublisher, -, hagain⟩ :=
    receipt_round_trip canonicalizes_plainLibrary fixesCanonical_plainLibrary
      renders_plainLibrary hwrap
  rw [Ingest.transform_declaredEnvelope] at hcontent
  exact ⟨receipt, result, hwrap, hunwrap, (Except.ok.inj hcontent).symm,
    hpublisher, (hagain _ _ _ _).1.trans hwrap⟩

end ComplyTime.Receipt

namespace ComplyTime.Ingest

open Json JsonText Receipt

/-- Unwrapping the receipt of an accepted request gives back the body that the
client sent. -/
def Recovers (library : Library) (request : Request) (accepted : Accepted) :
    Prop :=
  ∃ result, unwrapContent library accepted.ref.receiptBytes = .ok result ∧
    result.content = request.body

section Recovery

variable {library : Library} {compile : String → Schema}
  {surroundings : Surroundings} {request : Request} {accepted : Accepted}

theorem unwrapContent_accepted (hcanonicalizes : library.Canonicalizes)
    (hrenders : library.Renders)
    (haccepted : ingestArtifact library compile surroundings request =
      .ok accepted) :
    ∃ canonicalContent,
      library.transform (readBody request) = .ok canonicalContent ∧
      unwrapContent library accepted.ref.receiptBytes =
        .ok ⟨canonicalContent, ⟨request.ctx.issuer, request.ctx.sub⟩,
          receiptType⟩ := by
  obtain ⟨artifactType, -, hwrap⟩ := ingestArtifact_eq_ok haccepted
  exact unwrapContent_wrap hcanonicalizes hrenders hwrap

/-- An accepted body, an envelope or not, is recovered byte for byte exactly
when it is the canonical form of what the handler has read of it. -/
theorem recovers_iff (hcanonicalizes : library.Canonicalizes)
    (hrenders : library.Renders)
    (haccepted : ingestArtifact library compile surroundings request =
      .ok accepted) :
    Recovers library request accepted ↔
      library.transform (readBody request) = .ok request.body := by
  obtain ⟨canonicalContent, hcontent, hunwrap⟩ :=
    unwrapContent_accepted hcanonicalizes hrenders haccepted
  rw [hcontent, Except.ok.injEq]
  constructor
  · intro hrecovers
    obtain ⟨result, hresult, hbody⟩ := hrecovers
    rw [hunwrap] at hresult
    obtain rfl := Except.ok.inj hresult
    exact hbody
  · intro hbody
    exact ⟨_, hunwrap, hbody⟩

end Recovery

theorem sortedEnvelope_recovered :
    ∃ accepted, ingestArtifact plainLibrary envelopeSchemas
        plainSurroundings (envelopeRequest sortedEnvelope) = .ok accepted ∧
      Recovers plainLibrary (envelopeRequest sortedEnvelope) accepted := by
  have hbody : readBody (envelopeRequest sortedEnvelope) =
      textBytes sortedEnvelope := by rfl
  obtain ⟨accepted, haccepted⟩ := ingest_envelopeRequest
    (by decide : plain sortedEnvelope = true) (by decide)
  refine ⟨accepted, haccepted, ?_⟩
  apply (recovers_iff canonicalizes_plainLibrary renders_plainLibrary
    haccepted).mpr
  rw [hbody]
  exact transform_sortedEnvelope

/-- The envelope as Go marshals it comes back with its members sorted. -/
theorem declaredEnvelope_not_recovered :
    ∃ accepted, ingestArtifact plainLibrary envelopeSchemas
        plainSurroundings (envelopeRequest declaredEnvelope) = .ok accepted ∧
      ¬ Recovers plainLibrary (envelopeRequest declaredEnvelope) accepted := by
  have hbody : readBody (envelopeRequest declaredEnvelope) =
      textBytes declaredEnvelope := by rfl
  obtain ⟨accepted, haccepted⟩ := ingest_envelopeRequest
    (by decide : plain declaredEnvelope = true) (by decide)
  obtain ⟨canonicalContent, hcontent, hunwrap⟩ := unwrapContent_accepted
    canonicalizes_plainLibrary renders_plainLibrary haccepted
  rw [hbody, transform_declaredEnvelope] at hcontent
  obtain rfl := Except.ok.inj hcontent
  refine ⟨accepted, haccepted, ?_⟩
  intro hrecovers
  obtain ⟨result, hresult, hsame⟩ := hrecovers
  rw [hunwrap] at hresult
  obtain rfl := Except.ok.inj hresult
  have hdiffer : textBytes sortedEnvelope ≠ textBytes declaredEnvelope := by
    decide
  exact hdiffer hsame

end ComplyTime.Ingest
