import ComplyTime.Gateway.AnnouncedDigest

/-!
# Bodies that are cut

`IngestArtifact` reads the body through a reader that ends after 256 KiB, and
the end of that reader looks like the end of the body.  A longer body is
therefore handled as its first 256 KiB: when these are accepted by themselves,
the rest is lost without a trace, and the digest and the receipt are those of
the part that was read.
-/

namespace ComplyTime.Ingest

open Json JsonText Receipt Subjects

/-- An accepted request stands for the body that the client has sent. -/
structure Whole (library : Library) (surroundings : Surroundings)
    (request : Request) (accepted : Accepted) : Prop where
  fits : request.body.length ≤ maxBodySize
  digest : accepted.ref.contentDigest = hexString (library.sha256 request.body)
  announced : accepted.ingested.contentDigest =
    hexString (library.sha256 request.body)
  wrapped : wrap library request.body ⟨request.ctx.issuer, request.ctx.sub⟩
    request.subjectID accepted.ref.artifactType surroundings.receivedAt =
      .ok accepted.ref.receiptBytes

/-- The request without what lies behind the limit. -/
def Request.cut (request : Request) : Request :=
  { request with body := readBody request }

section Bodies

variable {library : Library} {compile : String → Schema}
  {surroundings : Surroundings} {request : Request} {accepted : Accepted}

theorem readBody_cut : readBody request.cut = readBody request := by
  simp [Request.cut, readBody, List.take_take]

theorem ingestArtifact_cut :
    ingestArtifact library compile surroundings request.cut =
      ingestArtifact library compile surroundings request := by
  simp only [ingestArtifact, readBody_cut]
  rfl

theorem whole_of_fits (hlength : request.body.length ≤ maxBodySize)
    (haccepted : ingestArtifact library compile surroundings request =
      .ok accepted) :
    Whole library surroundings request accepted := by
  obtain ⟨artifactType, checked, -, hsubmitted⟩ :=
    submit_of_ingestArtifact haccepted
  rw [readBody_eq_body hlength] at hsubmitted
  obtain ⟨-, hwrapped, hdigest, hannounced⟩ := submit_eq_ok hsubmitted
  obtain ⟨htype, -⟩ := artifactType_of_submit hsubmitted
  exact ⟨hlength, hdigest, hannounced, by rw [htype, hwrapped]⟩

end Bodies

/-- An accepted request stands for the whole body exactly when the body fits
the limit. -/
theorem accepted_whole_iff {library : Library} {compile : String → Schema}
    {surroundings : Surroundings} {request : Request} {accepted : Accepted}
    (haccepted : ingestArtifact library compile surroundings request =
      .ok accepted) :
    Whole library surroundings request accepted ↔
      request.body.length ≤ maxBodySize :=
  ⟨Whole.fits, fun hlength => whole_of_fits hlength haccepted⟩

theorem sorted_envelope_whole :
    ∃ accepted, ingestArtifact plainLibrary envelopeSchemas
        plainSurroundings (envelopeRequest sortedEnvelope) = .ok accepted ∧
      Whole plainLibrary plainSurroundings
        (envelopeRequest sortedEnvelope) accepted := by
  obtain ⟨accepted, haccepted⟩ := ingest_envelopeRequest
    (by decide : plain sortedEnvelope = true) (by decide)
  exact ⟨accepted, haccepted, (accepted_whole_iff haccepted).mpr (by decide)⟩

/-! ## A document that ends at the limit -/

/-- A document whose text has eight characters besides the padding. -/
def paddedDocument (count : ℕ) : Json :=
  .obj [("a", .str (String.ofList (List.replicate count 'a')))]

theorem length_paddedDocument (count : ℕ) :
    (textBytes (paddedDocument count)).length = count + 8 := by
  have hpadding : ((List.replicate count 'a').flatMap escape).flatMap
      String.utf8EncodeChar = List.replicate count 97 := by
    induction count with
    | zero => rfl
    | succ count ih =>
      rw [List.replicate_succ, List.flatMap_cons, List.flatMap_append, ih]
      rfl
  have htext : textBytes (paddedDocument count) =
      [123, 34, 97, 34, 58, 34] ++ (List.replicate count 97 ++ [34, 125]) := by
    simp only [paddedDocument, textBytes, compact, compactMembers, quoted,
      String.toList_ofList, List.flatMap_cons, List.flatMap_append, hpadding,
      List.nil_append, List.append_assoc]
    rfl
  rw [htext]
  simp

/-- A document whose text is exactly as long as the limit. -/
def longDocument : Json := paddedDocument (maxBodySize - 8)

theorem length_longDocument :
    (textBytes longDocument).length = maxBodySize := by
  rw [longDocument, length_paddedDocument]
  decide

/-- A request whose body is the document and one byte more. -/
def oversizedRequest : Request :=
  { envelopeRequest longDocument with body := textBytes longDocument ++ [33] }

theorem cut_oversizedRequest :
    oversizedRequest.cut = envelopeRequest longDocument := by
  have hread : readBody oversizedRequest = textBytes longDocument := by
    rw [readBody, ← length_longDocument]
    exact List.take_left
  rw [Request.cut, hread]
  rfl

theorem length_oversizedRequest :
    oversizedRequest.body.length = maxBodySize + 1 := by
  have hbody : oversizedRequest.body = textBytes longDocument ++ [33] := rfl
  rw [hbody, List.length_append, length_longDocument, List.length_singleton]

theorem oversized_envelope_accepted :
    maxBodySize < oversizedRequest.body.length ∧
    ∃ accepted, ingestArtifact plainLibrary envelopeSchemas
        plainSurroundings oversizedRequest = .ok accepted ∧
      ¬ Whole plainLibrary plainSurroundings oversizedRequest accepted := by
  have hlonger : maxBodySize < oversizedRequest.body.length := by
    rw [length_oversizedRequest]
    exact Nat.lt_succ_self _
  have hplain : plain longDocument = true := rfl
  obtain ⟨accepted, haccepted⟩ :=
    ingest_envelopeRequest hplain (Nat.le_of_eq length_longDocument)
  rw [← cut_oversizedRequest, ingestArtifact_cut] at haccepted
  exact ⟨hlonger, accepted, haccepted, fun hwhole =>
    absurd hwhole.fits (Nat.not_le.mpr hlonger)⟩

end ComplyTime.Ingest
