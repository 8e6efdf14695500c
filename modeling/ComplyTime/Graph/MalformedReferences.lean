import ComplyTime.Drivers.LockerDriver
import ComplyTime.Graph.LoaderRuns

/-!
# Malformed storage references

The locker driver checks the form of a reference before it builds a URL.  The
loader cuts off the length of the scheme without looking at it: a shorter text
panics in the slice expression, and a longer one of another form becomes a URL
below the locker that is requested like any other.  The two agree on
references, and on texts whose URL the HTTP library refuses.
-/

namespace ComplyTime.Graph

open Cypher Drivers RemoteStore SlashPath

/-- A driver for the locker of the loader. -/
def Loader.driver (loader : Loader) : Driver :=
  ⟨loader.lockerURL, loader.newRequest⟩

section Agreement

variable (loader : Loader) (storageRef : String)

def SameURL : Prop :=
  ∃ url, artifactURL loader.lockerURL storageRef = .ok (utf8 url) ∧
    loader.driver.url storageRef = .ok url

/-- Both return an error, whatever the locker would answer. -/
def BothRefuse : Prop :=
  (∀ surroundings, ∃ err,
    fetchArtifact loader surroundings storageRef = .error (.error err)) ∧
  ∃ err, ∀ respond, loader.driver.fetch respond storageRef = .error err

/-- No event with this reference makes the handler panic, on no graph that the
loader can have written. -/
def NeverPanics : Prop :=
  ∀ surroundings time data book, data.storageRef = storageRef →
    Calm (Stands (Represents book))
      (handleSealed loader surroundings time (.ok data))

/-- References are fetched alike, and everything else is refused. -/
structure MalformedRefused : Prop where
  same : IsReference storageRef → SameURL loader storageRef
  refuse : ¬ IsReference storageRef → BothRefuse loader storageRef
  calm : NeverPanics loader storageRef

end Agreement

variable {loader : Loader} {storageRef : String}

/-! ## URLs -/

theorem sameURL_of_isReference (hreference : IsReference storageRef) :
    SameURL loader storageRef := by
  obtain ⟨subject, index, hplain, rfl⟩ := hreference
  exact ⟨_, artifactURL_append _ _, url_of_reference loader.driver hplain index⟩

theorem artifactURL_eq_error {lockerURL : String} {failure : Failure GoError}
    (hurl : artifactURL lockerURL storageRef = .error failure) :
    ∃ text, failure = .panic text := by
  unfold artifactURL at hurl
  split at hurl
  · exact ⟨_, (Except.error.inj hurl).symm⟩
  · cases hurl

theorem fetchArtifact_of_url {surroundings : Surroundings} {url : Bytes}
    (hurl : artifactURL loader.lockerURL storageRef = .ok url) :
    fetchArtifact loader surroundings storageRef =
      (requestArtifact loader surroundings url).mapError .error := by
  rw [fetchArtifact, hurl]

/-- The loader returns an error for every answer of the locker only if it
makes no request. -/
theorem exists_refused_of_error (herror : ∀ surroundings, ∃ err,
      fetchArtifact loader surroundings storageRef = .error (.error err)) :
    ∃ url, artifactURL loader.lockerURL storageRef = .ok url ∧
      loader.newRequest url ≠ none := by
  cases hurl : artifactURL loader.lockerURL storageRef with
  | error failure =>
    obtain ⟨err, hfetch⟩ := herror ⟨fun _ => .ok ⟨200, .ok []⟩, .ok 0, 0⟩
    obtain ⟨text, rfl⟩ := artifactURL_eq_error hurl
    rw [fetchArtifact, hurl] at hfetch
    cases hfetch
  | ok url =>
    refine ⟨url, rfl, ?_⟩
    intro haccepted
    obtain ⟨err, hfetch⟩ := herror ⟨fun _ => .ok ⟨200, .ok []⟩, .ok 0, 0⟩
    rw [fetchArtifact_of_url hurl, requestArtifact, haccepted] at hfetch
    cases hfetch

theorem error_of_refused {url : Bytes}
    (hurl : artifactURL loader.lockerURL storageRef = .ok url)
    (hrefused : loader.newRequest url ≠ none) (surroundings : Surroundings) :
    ∃ err, fetchArtifact loader surroundings storageRef =
      .error (.error err) := by
  obtain ⟨err, herr⟩ := Option.ne_none_iff_exists'.mp hrefused
  refine ⟨.within "creating request" err, ?_⟩
  rw [fetchArtifact_of_url hurl, requestArtifact, herr]
  rfl

theorem driver_refuses (hnot : ¬ IsReference storageRef) :
    ∃ err, ∀ respond, loader.driver.fetch respond storageRef = .error err := by
  obtain ⟨err, herr⟩ :
      ∃ err, loader.driver.url storageRef = .error err :=
    url_of_not_reference hnot
  exact ⟨err, fun respond => by rw [Driver.fetch, herr]⟩

/-! ## Panics -/

theorem mapError_ne_panic {α : Type} (result : Except GoError α)
    (text : String) :
    result.mapError Failure.error ≠ .error (.panic text) := by
  cases result with
  | error err => simp [Except.mapError]
  | ok value => simp [Except.mapError]

theorem calm_call {pre : EvidenceGraph → Prop} (context : String)
    (upsert : Upsert) : Calm pre (within context (call upsert)) :=
  (Calm.write _).mapError _

theorem calm_resolvePublisher {book : Book} (lookup : Except GoError ℕ)
    (data : EvidenceSealedData) :
    Calm (Stands fun graph => Represents book graph ∧
        graph.Holds (.subject data.subjectID))
      (resolvePublisher lookup data) := by
  intro world text hstands hpanic
  have htriple : Triple (Stands fun graph => Represents book graph ∧
      graph.Holds (.subject data.subjectID)) (resolvePublisher lookup data) _
        (fun _ => False) := resolvePublisher_triple lookup
  have hended := htriple world hstands
  rcases hrun : exec (resolvePublisher lookup data) world with
    ⟨failure | publisher, next⟩
  · rw [hrun] at hended
    exact hended
  · rw [hrun] at hpanic
    cases hpanic

theorem calm_processArtifact (artifactType : String) (content : Bytes)
    (logIndex : Int64) :
    Calm (fun _ => True)
      (processArtifact loader artifactType content logIndex) := by
  apply Calm.compute_bind (mapError_ne_panic _)
  intro parsed _
  apply (Calm.forM fun entity => calm_call _ _).andThen
  intro _
  apply Calm.forM
  intro edge
  exact (calm_call _ _).andThen fun _ =>
    (calm_call _ _).andThen fun _ => calm_call _ _

theorem neverPanics_of_url {url : Bytes}
    (hurl : artifactURL loader.lockerURL storageRef = .ok url) :
    NeverPanics loader storageRef := by
  rintro surroundings time data book rfl
  have hfetch : ∀ text, fetchArtifact loader surroundings data.storageRef ≠
      .error (.panic text) := by
    intro text
    rw [fetchArtifact_of_url hurl]
    exact mapError_ne_panic _ text
  apply Calm.compute_bind (mapError_ne_panic _)
  intro found hfound
  obtain rfl : data = found := by simpa [Except.mapError] using hfound
  apply Calm.compute_bind hfetch
  intro receiptBytes _
  apply Calm.compute_bind (mapError_ne_panic _)
  intro unwrapped _
  apply (calm_call _ _).bind
    (subject_triple (fun _ hrepresents => hrepresents) data.subjectID)
  intro _
  apply (calm_resolvePublisher surroundings.lookup data).andThen
  intro publisher
  apply (calm_call _ _).andThen
  intro _
  apply (calm_call _ _).andThen
  intro _
  exact (calm_processArtifact _ _ _).mapError _

/-! ## When the two agree -/

/-- The loader treats a text as the driver does exactly when it is a reference
or the HTTP library refuses the URL cut out of it. -/
theorem malformedRefused_iff (loader : Loader) (storageRef : String) :
    MalformedRefused loader storageRef ↔
      IsReference storageRef ∨
        ∃ url, artifactURL loader.lockerURL storageRef = .ok url ∧
          loader.newRequest url ≠ none := by
  constructor
  · intro hrefused
    by_cases hreference : IsReference storageRef
    · exact .inl hreference
    · exact .inr (exists_refused_of_error (hrefused.refuse hreference).1)
  · rintro (hreference | ⟨url, hurl, hrefused⟩)
    · obtain ⟨url, hurl, hdriver⟩ :
          SameURL loader storageRef := sameURL_of_isReference hreference
      exact ⟨sameURL_of_isReference, fun hnot => absurd hreference hnot,
        neverPanics_of_url hurl⟩
    · exact ⟨sameURL_of_isReference,
        fun hnot => ⟨error_of_refused hurl hrefused, driver_refuses hnot⟩,
        neverPanics_of_url hurl⟩

theorem entry_reference_agrees :
    MalformedRefused plainLoader "locker://payments/entry/7" :=
  (malformedRefused_iff _ _).mpr (.inl ⟨"payments", "7",
    by unfold Plain; decide, rfl⟩)

theorem hasPrefix_of_isReference (hreference : IsReference storageRef) :
    hasPrefix storageRef scheme = true := by
  obtain ⟨subject, index, -, rfl⟩ := hreference
  exact hasPrefix_append _ _

/-- A text that is too short makes the handler panic, and a longer one of
another form is requested. -/
theorem malformed_reference_not_refused :
    (exec (handleSealed plainLoader (plainSurroundings builder (.ok 0)) 1
      (.ok { sealedData "payments" "digest" 7 with storageRef := "entry/7" }))
        ⟨Graph.empty, []⟩).1 =
      .error (.panic "runtime error: slice bounds out of range [9:7]") ∧
    ¬ MalformedRefused plainLoader "entry/7" ∧
    artifactURL plainLoader.lockerURL "https://payments" =
      .ok (utf8 "http://locker/ledgers/ayments") ∧
    ¬ MalformedRefused plainLoader "https://payments" := by
  refine ⟨rfl, ?_, by decide, ?_⟩
  · intro hrefused
    have hnot : ¬ IsReference "entry/7" := fun hreference =>
      absurd (hasPrefix_of_isReference hreference) (by decide)
    obtain ⟨url, hurl, -⟩ := exists_refused_of_error (hrefused.refuse hnot).1
    cases hurl
  · intro hrefused
    have hnot : ¬ IsReference "https://payments" := fun hreference =>
      absurd (hasPrefix_of_isReference hreference) (by decide)
    obtain ⟨url, -, hurl⟩ := exists_refused_of_error (hrefused.refuse hnot).1
    exact hurl rfl

end ComplyTime.Graph
