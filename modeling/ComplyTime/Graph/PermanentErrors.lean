import ComplyTime.Graph.Isolation
import ComplyTime.Graph.MalformedReferences

/-!
# Permanent errors behind wrappings

`isPermanentError` looks at the error value itself, while every handler returns
its errors wrapped by `fmt.Errorf`.  Behind a wrapping no error counts as
permanent, so a message whose artifact can never be decoded is asked for again
and again, and only messages that are no CloudEvents are terminated.
-/

namespace ComplyTime.Graph

open Cypher Keyed RemoteStore

/-! ## Chains of wrappings -/

/-- An error under a chain of `fmt.Errorf` wrappings, the outermost first; each
is given by the texts around its `%w` verb. -/
def wrapAll (chain : List (String × String)) (err : GoError) : GoError :=
  chain.foldr (fun texts cause => .wrap texts.1 cause texts.2) err

/-- The texts of `fmt.Errorf(context + ": %w", …)`. -/
def contextTexts (context : String) : String × String := (context ++ ": ", "")

theorem isPermanentError_wrapAll_cons (texts : String × String)
    (chain : List (String × String)) (err : GoError) :
    isPermanentError (wrapAll (texts :: chain) err) = false := rfl

/-- A chain leaves the answer alone only if it is empty or there is nothing to
recognize. -/
theorem isPermanentError_wrapAll_iff (chain : List (String × String))
    (err : GoError) :
    isPermanentError (wrapAll chain err) = isPermanentError err ↔
      chain = [] ∨ isPermanentError err = false := by
  cases chain with
  | nil => exact iff_of_true rfl (.inl rfl)
  | cons texts chain =>
    rw [isPermanentError_wrapAll_cons, eq_comm]
    simp

/-! ## Handlers -/

/-- The errors that are tried again. -/
def Transient (err : GoError) : Prop := isPermanentError err = false

theorem transient_within {α : Type} (context : String)
    (program : LoaderProgram α) :
    ErrorsIn Transient (within context program) := by
  apply ErrorsIn.mapError
  intro err
  rfl

theorem transient_resolvePublisher (lookup : Except GoError ℕ)
    (data : EvidenceSealedData) :
    ErrorsIn Transient (resolvePublisher lookup data) :=
  (ErrorsIn.attempt _).bind fun _ => .pure _

section Handlers

variable {loader : Loader} {surroundings : Surroundings}

theorem transient_handleSealed (time : Time)
    (data : Except GoError EvidenceSealedData) :
    ErrorsIn Transient (handleSealed loader surroundings time data) := by
  apply (transient_within _ _).bind
  intro data
  apply (transient_within _ _).bind
  intro receiptBytes
  apply (transient_within _ _).bind
  intro unwrapped
  apply (transient_within _ _).bind
  intro _
  apply (transient_resolvePublisher _ _).bind
  intro publisher
  apply (transient_within _ _).bind
  intro _
  apply (transient_within _ _).bind
  intro _
  exact transient_within _ _

theorem transient_handlerOf {event : Event} {handler : LoaderProgram Unit}
    (hhandler : handlerOf loader surroundings event = some handler) :
    ErrorsIn Transient handler := by
  cases event with
  | ingested data =>
    obtain rfl := Option.some.inj hhandler
    apply (transient_within _ _).bind
    intro data
    apply (transient_within _ _).bind
    intro _
    apply (transient_within _ _).bind
    intro _
    exact transient_within _ _
  | sealed time data =>
    obtain rfl := Option.some.inj hhandler
    exact transient_handleSealed time data
  | subjectRegistered data =>
    obtain rfl := Option.some.inj hhandler
    apply (transient_within _ _).bind
    intro _
    exact transient_within _ _
  | other type => cases hhandler

/-- No message that is a CloudEvent is ever terminated. -/
theorem handleMessage_ne_term (event : Event)
    (world : World EvidenceGraph GoError) :
    (handleMessage loader surroundings (.ok event) world).1 ≠ some .term := by
  simp only [handleMessage]
  split
  · simp
  · rename_i handler hhandler
    have htransient := transient_handlerOf hhandler world
    rcases hrun : exec handler world with ⟨failure | _, next⟩
    · rw [hrun] at htransient
      cases failure with
      | error err =>
        have herr : isPermanentError err = false := htransient err rfl
        simp [verdictOf, herr]
      | panic text => simp [verdictOf]
    · simp [verdictOf]

end Handlers

/-! ## Artifacts that cannot be decoded -/

/-- The receipt at the reference can be read, and `ParseArtifact` fails on its
content. -/
def Undecodable (loader : Loader) (surroundings : Surroundings)
    (data : EvidenceSealedData) (err : GoError) : Prop :=
  ∃ unwrapped, readReceipt loader surroundings data.storageRef =
      some unwrapped ∧
    parseArtifact loader.decoders
      (inferArtifactType loader.library unwrapped.content) unwrapped.content
      data.logIndex = .error err

section Undecodable

variable {loader : Loader} {surroundings : Surroundings}
  {data : EvidenceSealedData} {err : GoError}

theorem exists_url_of_readReceipt {storageRef : String}
    {unwrapped : Receipt.UnwrapResult}
    (hreceipt : readReceipt loader surroundings storageRef = some unwrapped) :
    ∃ url, artifactURL loader.lockerURL storageRef = .ok url := by
  unfold readReceipt fetchArtifact at hreceipt
  cases hurl : artifactURL loader.lockerURL storageRef with
  | error failure => simp [hurl] at hreceipt
  | ok url => exact ⟨url, rfl⟩

/-- The handler does not get past `ParseArtifact`. -/
theorem processArtifact_fails {artifactType : String} {content : Bytes}
    {logIndex : Int64}
    (hparse : parseArtifact loader.decoders artifactType content logIndex =
      .error err) :
    Triple (fun _ => True)
      (processArtifact loader artifactType content logIndex)
      (fun _ _ => False) (fun _ => True) := by
  apply result_bind _ fun _ _ => True.intro
  intro parsed hparsed
  rw [hparse] at hparsed
  cases hparsed

theorem handleSealed_fails (time : Time)
    (hundecodable : Undecodable loader surroundings data err) :
    Triple (fun _ => True)
      (handleSealed loader surroundings time (.ok data))
      (fun _ _ => False) (fun _ => True) := by
  obtain ⟨unwrapped, hreceipt, hparse⟩ := hundecodable
  apply result_bind _ fun _ _ => True.intro
  intro found hfound
  obtain rfl := Except.ok.inj hfound
  apply Triple.compute_bind _ fun _ _ => True.intro
  intro receiptBytes hfetch
  apply result_bind _ fun _ _ => True.intro
  intro content hunwrap
  obtain rfl : content = unwrapped := by
    simpa [readReceipt, hfetch, hunwrap, Except.toOption] using hreceipt
  apply Triple.bind Triple.trivial
  intro _
  apply Triple.bind Triple.trivial
  intro publisher
  apply Triple.bind Triple.trivial
  intro _
  apply Triple.bind Triple.trivial
  intro _
  exact (processArtifact_fails hparse).mapError

/-- A sealed event whose content cannot be decoded is asked for again. -/
theorem handleMessage_undecodable {book : Book}
    {world : World EvidenceGraph GoError} (time : Time)
    (hstands : Stands (Represents book) world.store)
    (hundecodable : Undecodable loader surroundings data err) :
    (handleMessage loader surroundings (.ok (.sealed time (.ok data)))
      world).1 = some .nak := by
  have hfails := handleSealed_fails time hundecodable world True.intro
  have htransient : ErrorsIn Transient
      (handleSealed loader surroundings time (.ok data)) :=
    transient_handleSealed time _
  have htransient := htransient world
  obtain ⟨unwrapped, hreceipt, -⟩ := hundecodable
  obtain ⟨url, hurl⟩ := exists_url_of_readReceipt hreceipt
  have hcalm := neverPanics_of_url hurl surroundings time data book rfl world
  simp only [handleMessage, handlerOf]
  rcases hrun : exec (handleSealed loader surroundings time (.ok data)) world
    with ⟨failure | _, next⟩
  · rw [hrun] at htransient hcalm
    cases failure with
    | error found =>
      have hfound : isPermanentError found = false := htransient found rfl
      simp [verdictOf, hfound]
    | panic text => exact absurd rfl (hcalm text hstands)
  · rw [hrun] at hfails
    exact hfails.elim

end Undecodable

/-- A chain of wrappings hides a permanent error from the classifier, and a
failure to decode an artifact with it. -/
theorem wrapped_error_recognized_iff (chain : List (String × String))
    (err : GoError) (loader : Loader) (surroundings : Surroundings)
    (time : Time) (data : EvidenceSealedData) :
    (isPermanentError (wrapAll chain err) = isPermanentError err ↔
      chain = [] ∨ isPermanentError err = false) ∧
    (Undecodable loader surroundings data (wrapAll chain err) →
      ∀ book world, Stands (Represents book) world.store →
        (handleMessage loader surroundings (.ok (.sealed time (.ok data)))
          world).1 = some .nak) :=
  ⟨isPermanentError_wrapAll_iff chain err,
    fun hundecodable _ _ hstands =>
      handleMessage_undecodable time hstands hundecodable⟩

theorem refused_write_recognized :
    isPermanentError (wrapAll [contextTexts "upserting subject"]
        (.message "connection refused")) =
      isPermanentError (.message "connection refused") :=
  (wrapped_error_recognized_iff _ _ plainLoader
    (plainSurroundings builder (.ok 0)) 0
    (sealedData "alpha" "digest" 0)).1.mpr (.inr rfl)

/-! ## A catalog whose controls are a text -/

def mistypedDocument : Json :=
  .obj [("controls", .str "none"),
    ("metadata", .obj [("id", .str "alpha-catalog"),
      ("type", .str "ControlCatalog")])]

def mistypedError : GoError :=
  .jsonType ("json: cannot unmarshal string into Go struct field " ++
    "ControlCatalog.controls of type []gemara.Control")

/-- A decoder that meets a text where it expects an array. -/
def mistypedLoader : Loader :=
  { catalogLoader with
    decoders := {
      catalogLoader.decoders with
      controlCatalog := fun _ => .error mistypedError } }

theorem undecodable_mistyped :
    Undecodable mistypedLoader (catalogSurroundings mistypedDocument)
      (sealedData "alpha" "digest" 0)
      (wrapAll [contextTexts "unmarshaling ControlCatalog"] mistypedError) := by
  have hplain : JsonText.plain mistypedDocument = true := by decide
  have hcanonical : mistypedDocument.canonical = mistypedDocument :=
    canonical_pair (by decide) (canonical_str _)
      (canonical_pair (by decide) (canonical_str _) (canonical_str _))
  have hreceipt : readReceipt mistypedLoader
      (catalogSurroundings mistypedDocument)
      (sealedData "alpha" "digest" 0).storageRef = some _ :=
    readReceipt_catalog (fun _ => rfl) rfl hplain hcanonical
      (by decide +kernel)
  have htype : inferArtifactType mistypedLoader.library
      (JsonText.textBytes mistypedDocument) = "ControlCatalog" := by
    have hunmarshal : mistypedLoader.library.unmarshal
        (JsonText.textBytes mistypedDocument) = .ok mistypedDocument :=
      Receipt.unmarshal_textBytes hplain
    rw [inferArtifactType, hunmarshal]
    decide +kernel
  refine ⟨_, hreceipt, ?_⟩
  rw [htype, parseArtifact, if_pos rfl]
  rfl

/-- The error is permanent by itself, and the message is asked for again. -/
theorem mistyped_catalog_retried :
    isPermanentError mistypedError = true ∧
    Undecodable mistypedLoader (catalogSurroundings mistypedDocument)
      (sealedData "alpha" "digest" 0)
      (wrapAll [contextTexts "unmarshaling ControlCatalog"] mistypedError) ∧
    (handleMessage mistypedLoader (catalogSurroundings mistypedDocument)
      (.ok (.sealed 1 (.ok (sealedData "alpha" "digest" 0))))
      ⟨Graph.empty, []⟩).1 = some .nak :=
  ⟨rfl, undecodable_mistyped, handleMessage_undecodable 1
    ⟨_, refines_empty, represents_empty⟩ undecodable_mistyped⟩

end ComplyTime.Graph
