import ComplyTime.Graph.EvidenceQuery
import ComplyTime.Graph.LoaderRuns
import ComplyTime.Platform.Intake

/-!
# Where the shown evidence comes from

The loader is handed the events of a pipeline, in any order and any number of
times.  What the evidence query shows then comes from records of sealed
intakes.  Evidence nodes are keyed by the log index alone, so the subject, the
publisher and the digest of one row may come from different ledgers.
-/

namespace ComplyTime.Platform

open ComplyTime.Graph Pipeline Receipt TransitionSystem Worker

/-- Of ingested and sealed events, the loader gets those of the pipeline. -/
def Delivers (library : Library) (compile : String → Ingest.Schema)
    (recorded : System × List Intake) (delivery : Delivery) : Prop :=
  match delivery.message with
  | .ok (.ingested (.ok data)) =>
    ∃ intake ∈ recorded.2, ∃ submission : Pipeline.Submission,
      submission.Answered library compile ∧ submission.ref = intake.ref ∧
        submission.publisher = intake.publisher ∧
        submission.accepted.ingested = data
  | .ok (.sealed _ (.ok data)) => data ∈ recorded.1.events
  | _ => True

/-- The record is that of a genuine intake at its index of the ledger.  It
names the placeholder or a publisher of the same content. -/
def Accounted (env : Environment) (library : Library)
    (recorded : System × List Intake) (record : EvidenceRecord) : Prop :=
  ∃ intake ∈ recorded.2, intake.Genuine env library ∧
    intake.ref.subjectID = record.subjectID ∧
    intake.ref.contentDigest = record.digest ∧
    (∃ index, intake.SealedAt recorded.1 index ∧
      record.logIndex = toLogIndex index) ∧
    (record.publisher = placeholder ∨ ∃ other ∈ recorded.2,
      other.Genuine env library ∧ other.publisher = record.publisher ∧
      other.ref.subjectID = record.subjectID ∧
      other.ref.contentDigest = record.digest)

section Shown

variable {env : Environment} {library : Library}
  {compile : String → Ingest.Schema} {recorded : System × List Intake}
  {loader : Loader} {history : List Handled} {book : Book}

theorem accounted_of_record (htraced : Traced env library recorded)
    (hdelivers : ∀ handled ∈ history,
      Delivers library compile recorded handled.delivery)
    (hbook : BookOf loader history book) {record : EvidenceRecord}
    (hrecord : record ∈ book.records) :
    Accounted env library recorded record := by
  obtain ⟨earlier, handled, later, found, rfl, hfound, hseals⟩ :=
    seals_of_record hbook hrecord
  obtain ⟨time, data, unwrapped, publisher, hmessage, -, hresolves, rfl⟩ :=
    hseals
  have hevent := hdelivers handled (by simp)
  simp only [Delivers, hmessage] at hevent
  obtain ⟨intake, hintake, index, hsealed, rfl⟩ := htraced.events data hevent
  refine ⟨intake, hintake, htraced.genuine intake hintake, rfl, rfl,
    ⟨index, hsealed, rfl⟩, ?_⟩
  generalize handled.delivery.surroundings.lookup = lookup at hresolves
  cases hresolves with
  | failed err => exact .inl rfl
  | unknown pick hunknown => exact .inl rfl
  | found pick publisher hstub =>
    obtain ⟨past, hpast, ingested, hingested, hstub⟩ :=
      ingested_of_stub hfound hstub
    have hsent := hdelivers past (List.mem_append_left _ hpast)
    simp only [Delivers, hingested] at hsent
    obtain ⟨other, hother, submission, hanswered, href, hpublisher, rfl⟩ :=
      hsent
    rw [(sent_of_answered hanswered).2, href, hpublisher] at hstub
    obtain ⟨hdigest, hsubject, rfl⟩ := Stub.mk.inj hstub
    by_cases hissuer : other.publisher.issuer = ""
    · exact .inl (if_pos hissuer)
    · exact .inr ⟨other, hother, htraced.genuine other hother,
        (if_neg hissuer).symm, hsubject.symm, hdigest.symm⟩

theorem exists_row_of_evidence {graph : EvidenceGraph} {subjectID : String}
    {filter : EvidenceFilter} {result : EvidenceResult} {item : EvidenceItem}
    (hevidence : evidence graph subjectID filter = .ok result)
    (hitem : item ∈ result.evidence) :
    ∃ row ∈ subjectRows graph subjectID, evidenceItem graph row = .ok item := by
  unfold evidence at hevidence
  simp only at hevidence
  split at hevidence
  · cases hevidence
  obtain ⟨items, hitems, hresult⟩ := bind_eq_ok hevidence
  obtain rfl := Except.ok.inj hresult
  have hmem : item ∈ items := by
    simp only [Keyset.pageOf] at hitem
    split at hitem
    · exact List.mem_of_mem_take hitem
    · exact hitem
  obtain ⟨row, hrow, hread⟩ := exists_of_mem_mapM hitems hmem
  have hselected := (List.perm_insertionSort _ _).mem_iff.mp
    (List.mem_of_mem_take hrow)
  obtain ⟨hrows, hwhere⟩ := List.mem_filter.mp hselected
  simp only [whereClause, Bool.and_eq_true, decide_eq_true_eq] at hwhere
  exact ⟨row, mem_subjectRows.mpr ⟨hrows, hwhere.1.1.1.1⟩, hread⟩

theorem exists_last_record {logIndex : Int64} {records : List EvidenceRecord}
    (hexists : ∃ record ∈ records, record.logIndex = logIndex) :
    ∃ earlier record later, records = earlier ++ record :: later ∧
      record.logIndex = logIndex ∧
      ∀ other ∈ later, other.logIndex ≠ logIndex := by
  induction records with
  | nil => simp at hexists
  | cons first rest ih =>
    by_cases hlater : ∃ record ∈ rest, record.logIndex = logIndex
    · obtain ⟨earlier, record, later, rfl, hlast⟩ := ih hlater
      exact ⟨first :: earlier, record, later, rfl, hlast⟩
    · push Not at hlater
      obtain ⟨record, hmem, hindex⟩ := hexists
      rcases List.mem_cons.mp hmem with rfl | hrest
      · exact ⟨[], record, rest, rfl, hindex, hlater⟩
      · exact absurd hindex (hlater record hrest)

/-- Every row that the evidence query shows for a subject is made of records
of sealed intakes at its log index: one for the subject, one of the shown
publisher and one with the shown digest. -/
theorem shown_evidence_accounted {state : LoaderState} {subjectID : String}
    {filter : EvidenceFilter} {result : EvidenceResult} {item : EvidenceItem}
    (hcanonicalizes : library.Canonicalizes) (hrenders : library.Renders)
    (hreach : Reaches (recording (step env) intakes)
      (fun _ => Submits library compile) (initial, []) recorded)
    (hloaded : Reaches (loaderStep loader) anyStep .initial state)
    (hdelivers : ∀ handled ∈ state.history,
      Delivers library compile recorded handled.delivery)
    (hevidence : evidence state.graph subjectID filter = .ok result)
    (hitem : item ∈ result.evidence) :
    ∃ targets publishes describes,
      (∀ record ∈ [targets, publishes, describes],
        Accounted env library recorded record ∧
          record.logIndex = item.logIndex) ∧
      targets.subjectID = subjectID ∧
      publishes.publisher = item.publisher ∧
      describes.digest = item.digest := by
  have htraced := traced_of_reaches hcanonicalizes hrenders hreach
  obtain ⟨book, ⟨graph, hrefines, hrepresents⟩, hbook⟩ :=
    bookOf_of_reaches hloaded
  obtain ⟨row, hrow, hread⟩ := exists_row_of_evidence hevidence hitem
  obtain ⟨logIndex, publisher, hrow⟩ := exists_rowOf hrefines hrow
  obtain ⟨hindex, hdigest, -, -, hpublisher⟩ := evidenceItem_eq_ok hread
  have hkey : property state.graph row.evidence "logIndex" =
      some (.integer logIndex) :=
    property_of_at hrow.evidenceAt (by simp [NodeKey.pattern])
  obtain rfl := PropertyValue.integer.inj (Option.some.inj (hkey ▸ hindex))
  rw [publisherOf_at hrow.publisherAt] at hpublisher
  obtain rfl := Except.ok.inj hpublisher
  obtain ⟨targets, htargets, htargetsIndex, hsubject⟩ :=
    (hrepresents.targets _ _).mp hrow.targets
  obtain ⟨publishes, hpublishes, hpublishesIndex, hpublisher⟩ :=
    (hrepresents.published _ _).mp hrow.published
  obtain ⟨earlier, describes, later, hsplit, hdescribesIndex, hlast⟩ :=
    exists_last_record ⟨targets, htargets, htargetsIndex⟩
  obtain ⟨properties, hnode, hproperties⟩ := hrepresents.described earlier
    describes later hsplit (hdescribesIndex ▸ hlast)
  rw [property_eq hrefines hrow.evidenceAt, ← hdescribesIndex, hnode,
    Option.bind_some, hproperties ("digest", .text describes.digest)
      (by simp [EvidenceRecord.properties])] at hdigest
  refine ⟨targets, publishes, describes, ?_, hsubject, hpublisher,
    PropertyValue.text.inj (Option.some.inj hdigest)⟩
  have haccounted : ∀ record ∈ book.records,
      Accounted env library recorded record :=
    fun _ => accounted_of_record htraced hdelivers hbook
  intro record hrecord
  simp only [List.mem_cons, List.not_mem_nil, or_false] at hrecord
  rcases hrecord with rfl | rfl | rfl
  · exact ⟨haccounted _ htargets, htargetsIndex⟩
  · exact ⟨haccounted _ hpublishes, hpublishesIndex⟩
  · exact ⟨haccounted _ (by simp [hsplit]), hdescribesIndex⟩

end Shown

theorem ok_of_toOption {Error Value : Type*} {result : Except Error Value}
    {value : Value} (hvalue : result.toOption = some value) :
    result = .ok value := by
  cases result with
  | error err => cases hvalue
  | ok found => exact congrArg Except.ok (Option.some.inj hvalue)

/-- The sealed event, and the receipt that the locker has for it. -/
def envelopeDelivery : Delivery where
  message := .ok (.sealed 0 (.ok (sealedEvent sampleDigest envelope.ref 1)))
  surroundings := ⟨fun _ => .ok ⟨200, .ok envelope.ref.receiptBytes⟩, .ok 0, 0⟩
  replies := []

theorem shown_envelope_accounted :
    ∃ (recorded : System × List Intake) (describes : EvidenceRecord),
      Accounted sampleEnvironment plainLibrary recorded describes ∧
        describes.digest = envelope.ref.contentDigest := by
  obtain ⟨recorded, hreach, -, hevent⟩ := exists_envelope_run
  have hloaded : Reaches (loaderStep plainLoader) anyStep .initial
      (LoaderState.initial.deliver plainLoader envelopeDelivery) :=
    reaches_foldl plainLoader [envelopeDelivery] .refl
  have hdelivers : ∀ handled ∈ (LoaderState.initial.deliver plainLoader
      envelopeDelivery).history, Delivers plainLibrary Ingest.envelopeSchemas
        recorded handled.delivery := by
    intro handled hmem
    obtain rfl := List.mem_singleton.mp hmem
    exact hevent
  have hobserved : (evidence (LoaderState.initial.deliver plainLoader
      envelopeDelivery).graph "alpha" EvidenceFilter.none).toOption.map
        (fun result => result.evidence.map EvidenceItem.digest) =
      some [envelope.ref.contentDigest] := by
    decide +kernel
  obtain ⟨result, hresult, hdigests⟩ := Option.map_eq_some_iff.mp hobserved
  obtain ⟨item, hitem, hdigest⟩ := List.map_eq_singleton_iff.mp hdigests
  obtain ⟨targets, publishes, describes, haccounted, -, -, hdescribes⟩ :=
    shown_evidence_accounted canonicalizes_plainLibrary renders_plainLibrary
      hreach hloaded hdelivers (ok_of_toOption hresult)
      (hitem ▸ List.mem_singleton_self item)
  exact ⟨recorded, describes, (haccounted describes (by simp)).1,
    hdescribes.trans hdigest⟩

end ComplyTime.Platform
