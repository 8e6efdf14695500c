import ComplyTime.Core.TransitionSystem
import ComplyTime.Gateway.PlainLibrary
import ComplyTime.Graph.Handling

/-!
# Runs of the loader

The stream delivers messages to the loader in any order and any number of
times, and each delivery meets its own replies of the store and of the locker.
A run is the list of its deliveries with the verdicts they ended in.  Whatever
happens in a run, the graph represents a book that the deliveries explain: a
delivery adds the entry of its event or nothing, and it adds the entry when the
message is acknowledged.
-/

namespace ComplyTime.Graph

open Cypher Keyed RemoteStore TransitionSystem

/-- A message handed to the loader, with what surrounds its handling. -/
structure Delivery where
  message : Except GoError Event
  surroundings : Surroundings
  /-- The answers of the graph store to the writes. -/
  replies : List (Reply GoError)

/-- A delivery and how it was answered; `none` after a panic. -/
structure Handled where
  delivery : Delivery
  verdict : Option Verdict

structure LoaderState where
  graph : EvidenceGraph
  history : List Handled

def LoaderState.initial : LoaderState := ⟨Graph.empty, []⟩

def LoaderState.deliver (loader : Loader) (state : LoaderState)
    (delivery : Delivery) : LoaderState :=
  let handled := handleMessage loader delivery.surroundings delivery.message
    ⟨state.graph, delivery.replies⟩
  ⟨handled.2.store, state.history ++ [⟨delivery, handled.1⟩]⟩

def loaderStep (loader : Loader) (state : LoaderState) (delivery : Delivery) :
    Option LoaderState :=
  some (state.deliver loader delivery)

/-- The book after a delivery with the given verdict. -/
inductive Enters (loader : Loader) (book : Book) (handled : Handled) :
    Book → Prop
  | entry {event : Event} {next : Book}
      (hmessage : handled.delivery.message = .ok event)
      (hentry : Entry loader handled.delivery.surroundings book event next) :
      Enters loader book handled next
  | nothing
      (hunhandled : handled.verdict = some .ack →
        ∃ type, handled.delivery.message = .ok (.other type)) :
      Enters loader book handled book

/-- The books that a history of deliveries explains. -/
inductive BookOf (loader : Loader) : List Handled → Book → Prop
  | empty : BookOf loader [] Book.empty
  | deliver {history : List Handled} {handled : Handled} {book next : Book} :
      BookOf loader history book → Enters loader book handled next →
        BookOf loader (history ++ [handled]) next

/-- The entry of a sealed event that was looked up in the book. -/
def SealsAs (loader : Loader) (book : Book) (delivery : Delivery)
    (record : EvidenceRecord) : Prop :=
  ∃ time data unwrapped publisher,
    delivery.message = .ok (.sealed time (.ok data)) ∧
    readReceipt loader delivery.surroundings data.storageRef = some unwrapped ∧
    Resolves book.stubs data delivery.surroundings.lookup publisher ∧
    record = evidenceRecord data
      (inferArtifactType loader.library unwrapped.content) publisher
      (sealedTime delivery.surroundings time)

def stubOf (data : EvidenceIngestedData) : Stub :=
  ⟨data.contentDigest, data.subjectID, data.publisher⟩

section Entries

variable {loader : Loader} {book next : Book} {handled : Handled}

section

variable (henters : Enters loader book handled next)

include henters

theorem Enters.cases :
    (∃ data, handled.delivery.message = .ok (.ingested (.ok data)) ∧
      next = book.ingest (stubOf data)) ∨
    (∃ record, SealsAs loader book handled.delivery record ∧
      next = book.seal record) ∨
    next = book := by
  cases henters with
  | @entry event next hmessage hentry =>
    cases event with
    | ingested data =>
      cases data with
      | error err => cases hentry
      | ok data => exact .inl ⟨data, hmessage, hentry⟩
    | sealed time data =>
      cases data with
      | error err => cases hentry
      | ok data =>
        obtain ⟨unwrapped, publisher, hreceipt, hresolves, hnext⟩ := hentry
        exact .inr (.inl ⟨_, ⟨time, data, unwrapped, publisher, hmessage,
          hreceipt, hresolves, rfl⟩, hnext⟩)
    | subjectRegistered data =>
      cases data with
      | error err => cases hentry
      | ok data => exact .inr (.inr hentry)
    | other type => cases hentry
  | nothing hunhandled => exact .inr (.inr rfl)

theorem Enters.of_ingested {data : EvidenceIngestedData}
    (hmessage : handled.delivery.message = .ok (.ingested (.ok data)))
    (hack : handled.verdict = some .ack) :
    next = book.ingest (stubOf data) := by
  cases henters with
  | entry hevent hentry =>
    rw [hmessage] at hevent
    obtain rfl := Except.ok.inj hevent
    exact hentry
  | nothing hunhandled =>
    obtain ⟨type, hother⟩ := hunhandled hack
    rw [hmessage] at hother
    cases hother

theorem Enters.of_sealed {time : Time} {data : EvidenceSealedData}
    (hmessage : handled.delivery.message = .ok (.sealed time (.ok data)))
    (hack : handled.verdict = some .ack) :
    ∃ record, SealsAs loader book handled.delivery record ∧
      record.logIndex = data.logIndex ∧ next = book.seal record := by
  cases henters with
  | entry hevent hentry =>
    rw [hmessage] at hevent
    obtain rfl := Except.ok.inj hevent
    obtain ⟨unwrapped, publisher, hreceipt, hresolves, hnext⟩ := hentry
    exact ⟨_, ⟨time, data, unwrapped, publisher, hmessage, hreceipt,
      hresolves, rfl⟩, rfl, hnext⟩
  | nothing hunhandled =>
    obtain ⟨type, hother⟩ := hunhandled hack
    rw [hmessage] at hother
    cases hother

theorem Enters.mono :
    book.stubs ⊆ next.stubs ∧ book.records ⊆ next.records := by
  rcases henters.cases with ⟨data, -, rfl⟩ | ⟨record, -, rfl⟩ | rfl
  · exact ⟨List.subset_append_left _ _, List.Subset.refl _⟩
  · exact ⟨List.Subset.refl _, List.subset_append_left _ _⟩
  · exact ⟨List.Subset.refl _, List.Subset.refl _⟩

end

end Entries

/-! ## What the history explains -/

section Explained

variable {loader : Loader} {history : List Handled} {book : Book}

section

variable (hbook : BookOf loader history book)

include hbook

theorem ingested_of_stub {stub : Stub} (hstub : stub ∈ book.stubs) :
    ∃ handled ∈ history, ∃ data,
      handled.delivery.message = .ok (.ingested (.ok data)) ∧
        stub = stubOf data := by
  induction hbook with
  | empty => cases hstub
  | @deliver history handled book next _ henters ih =>
    have hearlier : stub ∈ book.stubs → ∃ past ∈ history ++ [handled],
        ∃ data, past.delivery.message = .ok (.ingested (.ok data)) ∧
          stub = stubOf data := by
      intro hmem
      obtain ⟨past, hpast, hfound⟩ := ih hmem
      exact ⟨past, List.mem_append_left _ hpast, hfound⟩
    rcases henters.cases with ⟨data, hmessage, rfl⟩ | ⟨record, -, rfl⟩ | rfl
    · rw [stubs_ingest, List.mem_append, List.mem_singleton] at hstub
      cases hstub with
      | inl hmem => exact hearlier hmem
      | inr hnew => exact ⟨handled, by simp, data, hmessage, hnew⟩
    · exact hearlier hstub
    · exact hearlier hstub

/-- Every acknowledged ingested event has left its stub. -/
theorem stub_of_ingested {handled : Handled} (hmem : handled ∈ history)
    {data : EvidenceIngestedData}
    (hmessage : handled.delivery.message = .ok (.ingested (.ok data)))
    (hack : handled.verdict = some .ack) : stubOf data ∈ book.stubs := by
  induction hbook with
  | empty => cases hmem
  | @deliver history last book next _ henters ih =>
    rw [List.mem_append, List.mem_singleton] at hmem
    cases hmem with
    | inl hmem => exact henters.mono.1 (ih hmem)
    | inr hlast =>
      subst hlast
      rw [henters.of_ingested hmessage hack]
      simp

/-- Every record was entered by a delivery that found an earlier book. -/
theorem seals_of_record {record : EvidenceRecord}
    (hrecord : record ∈ book.records) :
    ∃ earlier handled later found, history = earlier ++ handled :: later ∧
      BookOf loader earlier found ∧
      SealsAs loader found handled.delivery record := by
  induction hbook with
  | empty => cases hrecord
  | @deliver history handled book next hbook henters ih =>
    have hearlier : record ∈ book.records → ∃ earlier past later found,
        history ++ [handled] = earlier ++ past :: later ∧
        BookOf loader earlier found ∧
        SealsAs loader found past.delivery record := by
      intro hmem
      obtain ⟨earlier, past, later, found, hsplit, hfound, hseals⟩ := ih hmem
      exact ⟨earlier, past, later ++ [handled], found,
        by simp [hsplit], hfound, hseals⟩
    rcases henters.cases with ⟨data, -, rfl⟩ | ⟨last, hseals, rfl⟩ | rfl
    · exact hearlier hrecord
    · rw [records_seal, List.mem_append, List.mem_singleton] at hrecord
      cases hrecord with
      | inl hmem => exact hearlier hmem
      | inr hlast =>
        subst hlast
        exact ⟨history, handled, [], book, rfl, hbook, hseals⟩
    · exact hearlier hrecord

/-- Every acknowledged sealed event has left its record. -/
theorem record_of_sealed {handled : Handled} (hmem : handled ∈ history)
    {time : Time} {data : EvidenceSealedData}
    (hmessage : handled.delivery.message = .ok (.sealed time (.ok data)))
    (hack : handled.verdict = some .ack) :
    (∃ unwrapped, readReceipt loader handled.delivery.surroundings
        data.storageRef = some unwrapped) ∧
      ∃ record ∈ book.records, record.logIndex = data.logIndex := by
  induction hbook with
  | empty => cases hmem
  | @deliver history last book next _ henters ih =>
    rw [List.mem_append, List.mem_singleton] at hmem
    cases hmem with
    | inl hmem =>
      obtain ⟨hreceipt, record, hrecord, hindex⟩ := ih hmem
      exact ⟨hreceipt, record, henters.mono.2 hrecord, hindex⟩
    | inr hlast =>
      subst hlast
      obtain ⟨record, hseals, hindex, rfl⟩ := henters.of_sealed hmessage hack
      obtain ⟨_, found, unwrapped, _, hfound, hreceipt, -⟩ := hseals
      rw [hmessage] at hfound
      cases hfound
      exact ⟨⟨unwrapped, hreceipt⟩, record, by simp, hindex⟩

end

end Explained

/-! ## Runs represent books -/

section Runs

variable {loader : Loader} {state next : LoaderState} {book : Book}

theorem verdictOf_eq_ack {result : Except (Failure GoError) Unit}
    (hack : verdictOf result = some .ack) : result = .ok () := by
  cases result with
  | ok value => rfl
  | error failure =>
    cases failure with
    | error err =>
      have hverdict := Option.some.inj hack
      split at hverdict <;> cases hverdict
    | panic text => cases hack

/-- One delivery takes a represented book to a represented book. -/
theorem enters_deliver (loader : Loader)
    (hstands : Stands (Represents book) state.graph)
    (delivery : Delivery) :
    ∃ later verdict,
      (state.deliver loader delivery).history =
        state.history ++ [⟨delivery, verdict⟩] ∧
      Enters loader book ⟨delivery, verdict⟩ later ∧
      Stands (Represents later) (state.deliver loader delivery).graph := by
  unfold LoaderState.deliver handleMessage
  cases hmessage : delivery.message with
  | error err =>
    refine ⟨book, some .term, rfl, .nothing ?_, hstands⟩
    rintro ⟨⟩
  | ok event =>
    cases hhandler : handlerOf loader delivery.surroundings event with
    | none =>
      refine ⟨book, some .ack, by simp [hhandler], .nothing ?_,
        by simpa [hhandler] using hstands⟩
      intro _
      cases event with
      | other type => exact ⟨type, hmessage⟩
      | _ => cases hhandler
    | some handler =>
      have hended := handler_triple hhandler
        ⟨state.graph, delivery.replies⟩ hstands
      rcases hrun : exec handler ⟨state.graph, delivery.replies⟩ with
        ⟨result, world⟩
      rw [hrun] at hended
      cases result with
      | ok value =>
        obtain ⟨graph, hrefines, later, hentry, hrepresents⟩ := hended
        exact ⟨later, some .ack, by simp [hhandler, hrun, verdictOf],
          .entry hmessage hentry,
          by simpa [hhandler, hrun] using ⟨graph, hrefines, hrepresents⟩⟩
      | error failure =>
        obtain ⟨graph, hrefines, hkept | hentered⟩ := hended
        · refine ⟨book, verdictOf (.error failure),
            by simp [hhandler, hrun], .nothing ?_,
            by simpa [hhandler, hrun] using ⟨graph, hrefines, hkept⟩⟩
          intro hack
          cases verdictOf_eq_ack hack
        · obtain ⟨later, hentry, hrepresents⟩ := hentered
          exact ⟨later, verdictOf (.error failure),
            by simp [hhandler, hrun], .entry hmessage hentry,
            by simpa [hhandler, hrun] using
              ⟨graph, hrefines, hrepresents⟩⟩

theorem bookOf_of_reaches {guard : LoaderState → Delivery → Prop}
    (hreach : Reaches (loaderStep loader) guard .initial state) :
    ∃ book, Stands (Represents book) state.graph ∧
      BookOf loader state.history book := by
  apply hreach.invariant
  · exact ⟨Book.empty, ⟨KeyedGraph.empty, refines_empty, represents_empty⟩,
      .empty⟩
  · intro before delivery after hbook hguard hstep
    obtain ⟨book, hstands, hbook⟩ := hbook
    obtain rfl := Option.some.inj hstep
    obtain ⟨later, verdict, hhistory, henters, hlater⟩ :=
      enters_deliver loader hstands delivery
    rw [hhistory]
    exact ⟨later, hlater, .deliver hbook henters⟩

theorem reaches_foldl (loader : Loader) (deliveries : List Delivery)
    (hreach : Reaches (loaderStep loader) anyStep .initial state) :
    Reaches (loaderStep loader) anyStep .initial
      (deliveries.foldl (LoaderState.deliver loader) state) := by
  induction deliveries generalizing state with
  | nil => exact hreach
  | cons delivery deliveries ih => exact ih (.tail hreach trivial rfl)

end Runs

/-! ## Plain receipts -/

/-- A loader over plain documents, whose receipts hold no catalogs. -/
def plainLoader : Loader where
  lockerURL := "http://locker"
  newRequest := fun _ => none
  library := Receipt.plainLibrary
  decoders := {
    controlCatalog := fun _ => .error (.message "no catalog")
    threatCatalog := fun _ => .error (.message "no catalog")
    capabilityCatalog := fun _ => .error (.message "no catalog") }

/-- What the loader reads of a receipt for the content of two braces. -/
def plainReceipt (publisher : PublisherIdentity) : Json :=
  .obj [("predicate", .obj [("content", .str "e30="),
      ("publisher", Receipt.publisherJson publisher)]),
    ("predicate_type", .str Receipt.receiptType)]

def plainSurroundings (publisher : PublisherIdentity)
    (lookup : Except GoError ℕ) : Surroundings where
  respond := fun _ =>
    .ok ⟨200, .ok (JsonText.textBytes (plainReceipt publisher))⟩
  lookup := lookup
  now := 0

def builder : PublisherIdentity := ⟨"https://ci.example", "builder"⟩

def sealedData (subjectID digest : String) (logIndex : Int64) :
    EvidenceSealedData where
  contentDigest := digest
  logIndex := logIndex
  receiptDigest := ""
  receiptType := Receipt.receiptType
  storageRef := "locker://" ++ subjectID ++ "/entry/" ++ toString logIndex
  subjectID := subjectID

/-- The sealed event of an entry whose receipt names the publisher. -/
def sealedDelivery (subjectID digest : String) (logIndex : Int64)
    (publisher : PublisherIdentity) : Delivery where
  message := .ok (.sealed 1 (.ok (sealedData subjectID digest logIndex)))
  surroundings := plainSurroundings publisher (.ok 0)
  replies := []

def runPlain (deliveries : List Delivery) : LoaderState :=
  deliveries.foldl (LoaderState.deliver plainLoader) .initial

theorem map_delivery_foldl (loader : Loader) (deliveries : List Delivery)
    (state : LoaderState) :
    (deliveries.foldl (LoaderState.deliver loader) state).history.map
        Handled.delivery =
      state.history.map Handled.delivery ++ deliveries := by
  induction deliveries generalizing state with
  | nil => simp
  | cons delivery deliveries ih =>
    rw [List.foldl_cons, ih, LoaderState.deliver, List.map_append]
    simp

theorem history_runPlain {deliveries : List Delivery}
    {verdicts : List (Option Verdict)}
    (hverdicts : (runPlain deliveries).history.map Handled.verdict = verdicts) :
    (runPlain deliveries).history =
      List.zipWith Handled.mk deliveries verdicts := by
  have hdeliveries : (runPlain deliveries).history.map Handled.delivery =
      deliveries := map_delivery_foldl plainLoader deliveries .initial
  calc (runPlain deliveries).history
      = List.zipWith Handled.mk
          ((runPlain deliveries).history.map Handled.delivery)
          ((runPlain deliveries).history.map Handled.verdict) := by
        simp [List.zipWith_map]
    _ = List.zipWith Handled.mk deliveries verdicts := by
        rw [hdeliveries, hverdicts]

end ComplyTime.Graph
