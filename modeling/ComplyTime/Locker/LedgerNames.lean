import ComplyTime.Locker.TileServer

/-!
# Names of ledgers

A ledger enters the locker's map under a name that a caller passes to
`CreateLedger`, which checks it, or under the name of a directory that
`OpenExistingLedgers` finds in the base path, which does not.  The routes check
every name.  As long as the directories of the base path have valid names, all
ledgers have, and each of them lies directly under the base path and is
reachable through its routes.
-/

namespace ComplyTime.Ledgers

open Subjects

/-- What `os.ReadDir` reports of one entry. -/
structure DirEntry where
  name : String
  isDir : Bool
  deriving DecidableEq, Repr

section Calls

variable (sha256Hex : Bytes → String)

/-- One round of the loop of `OpenExistingLedgers`; a directory that does not
open is skipped. -/
def Locker.openEntry (opening : SubjectID → Opening) (locker : Locker)
    (entry : DirEntry) : Locker :=
  if !entry.isDir then locker
  else if (locker.ledgers entry.name).isSome then locker
  else locker.openLedger sha256Hex entry.name (opening entry.name)

/-- `OpenExistingLedgers` on a locker that may have open ledgers. -/
def Locker.openListed (locker : Locker)
    (readDir : Except GoError (List DirEntry))
    (opening : SubjectID → Opening) : Locker × Except GoError Unit :=
  match readDir with
  | .error err => (locker, .error (.within "reading base path" err))
  | .ok entries =>
    (entries.foldl (Locker.openEntry sha256Hex opening) locker, .ok ())

/-- A call that may add to the map, with what it meets on the disk. -/
inductive Call
  | createLedger (subjectID : SubjectID) (opening : Opening)
  | openExistingLedgers (readDir : Except GoError (List DirEntry))
      (opening : SubjectID → Opening)

def Locker.perform (locker : Locker) : Call → Locker
  | .createLedger subjectID opening =>
    (locker.createLedger sha256Hex subjectID opening).1
  | .openExistingLedgers readDir opening =>
    (locker.openListed sha256Hex readDir opening).1

def Locker.run (locker : Locker) (calls : List Call) : Locker :=
  calls.foldl (Locker.perform sha256Hex) locker

end Calls

/-- The listing has a directory of that name. -/
def Listed (entries : List DirEntry) (name : String) : Prop :=
  ∃ entry ∈ entries, entry.isDir = true ∧ entry.name = name

instance (entries : List DirEntry) (name : String) :
    Decidable (Listed entries name) :=
  inferInstanceAs (Decidable
    (∃ entry ∈ entries, entry.isDir = true ∧ entry.name = name))

/-- A name under which the call may add a ledger. -/
inductive Call.Names : Call → SubjectID → Prop
  | created {subjectID : SubjectID} {opening : Opening}
      (hvalid : ValidSubjectID subjectID) :
      Names (.createLedger subjectID opening) subjectID
  | listed {entries : List DirEntry} {opening : SubjectID → Opening}
      {subjectID : SubjectID} (hlisted : Listed entries subjectID) :
      Names (.openExistingLedgers (.ok entries) opening) subjectID

/-- Every directory the call finds in the base path has a valid name. -/
def Call.ListsValid : Call → Prop
  | .openExistingLedgers (.ok entries) _ =>
    ∀ name, Listed entries name → ValidSubjectID name
  | _ => True

theorem Call.Names.valid {call : Call} {subjectID : SubjectID}
    (hnames : call.Names subjectID) (hlists : call.ListsValid) :
    ValidSubjectID subjectID := by
  cases hnames with
  | created hvalid => exact hvalid
  | listed hlisted => exact hlists subjectID hlisted

/-! ## What a call adds -/

section Added

variable {sha256Hex : Bytes → String} {locker : Locker}
  {subjectID : SubjectID}

theorem ledgers_openLedger_of_ne {other : SubjectID} {opening : Opening}
    (hne : other ≠ subjectID) :
    (locker.openLedger sha256Hex subjectID opening).ledgers other =
      locker.ledgers other := by
  cases opening with
  | failed err directoryLeft => cases directoryLeft <;> rfl
  | opened fetched => exact Function.update_of_ne hne _ _

/-- The ledger that opening the directory yields, if it succeeds. -/
def Locker.openedLedger (sha256Hex : Bytes → String) (locker : Locker)
    (subjectID : SubjectID) : Opening → Option Ledger
  | .failed _ _ => none
  | .opened fetched =>
    some (newLedger sha256Hex (locker.entries subjectID) fetched)

theorem ledgers_openLedger_self {opening : Opening}
    (hclosed : locker.ledgers subjectID = none) :
    (locker.openLedger sha256Hex subjectID opening).ledgers subjectID =
      locker.openedLedger sha256Hex subjectID opening := by
  cases opening with
  | failed err directoryLeft => cases directoryLeft <;> exact hclosed
  | opened fetched => exact Function.update_self _ _ _

section

variable (opening : SubjectID → Opening)

theorem entries_openEntry (entry : DirEntry) (other : SubjectID) :
    (locker.openEntry sha256Hex opening entry).entries other =
      locker.entries other := by
  unfold Locker.openEntry
  split
  · rfl
  · split
    · rfl
    · exact entries_openLedger sha256Hex locker _ _ _

theorem ledgers_openEntry (entry : DirEntry) (subjectID : SubjectID) :
    (locker.openEntry sha256Hex opening entry).ledgers subjectID =
      (locker.ledgers subjectID).or
        (if entry.isDir = true ∧ entry.name = subjectID then
          locker.openedLedger sha256Hex subjectID (opening subjectID)
        else none) := by
  unfold Locker.openEntry
  by_cases hdir : entry.isDir = true
  · rw [hdir]
    by_cases hname : entry.name = subjectID
    · subst hname
      cases hledger : locker.ledgers entry.name with
      | some ledger => simp [hledger]
      | none => simp [hledger, ledgers_openLedger_self]
    · have hother : subjectID ≠ entry.name := Ne.symm hname
      cases hledger : (locker.ledgers entry.name).isSome <;>
        simp [hname, ledgers_openLedger_of_ne hother]
  · simp [hdir]

/-- An open ledger stays as it is, and a listed directory is opened. -/
theorem ledgers_foldl_openEntry (entries : List DirEntry)
    (subjectID : SubjectID) :
    (entries.foldl (Locker.openEntry sha256Hex opening) locker).ledgers
        subjectID =
      (locker.ledgers subjectID).or
        (if Listed entries subjectID then
          locker.openedLedger sha256Hex subjectID (opening subjectID)
        else none) := by
  induction entries generalizing locker with
  | nil => simp [Listed]
  | cons entry entries ih =>
    have hsame : (locker.openEntry sha256Hex opening entry).openedLedger
        sha256Hex subjectID (opening subjectID) =
          locker.openedLedger sha256Hex subjectID (opening subjectID) := by
      cases opening subjectID with
      | failed err directoryLeft => rfl
      | opened fetched =>
        rw [Locker.openedLedger, entries_openEntry, Locker.openedLedger]
    rw [List.foldl_cons, ih, hsame, ledgers_openEntry]
    by_cases hentry : entry.isDir = true ∧ entry.name = subjectID
    · have hlisted : Listed (entry :: entries) subjectID :=
        ⟨entry, List.mem_cons_self, hentry⟩
      rw [if_pos hentry, if_pos hlisted, Option.or_assoc]
      congr 1
      split
      · exact Option.or_self
      · exact Option.or_none
    · have hiff : Listed (entry :: entries) subjectID ↔
          Listed entries subjectID := by
        simp [Listed, hentry]
      rw [if_neg hentry, Option.or_none]
      simp only [hiff]

end

/-- After a restart, `OpenExistingLedgers` on a listing of all logs opens the
ledgers that every directory's opening yields. -/
theorem openListed_eq_openExistingLedgers {logs : SubjectID →
      Option (List Entry)} {entries : List DirEntry}
    (opening : SubjectID → Opening)
    (hall : ∀ subjectID, Listed entries subjectID ↔ (logs subjectID).isSome) :
    ((Locker.mk logs fun _ => none).openListed sha256Hex (.ok entries)
        opening).1.ledgers =
      ((Locker.mk logs fun _ => none).openExistingLedgers sha256Hex
        opening).ledgers := by
  funext subjectID
  rw [Locker.openListed, ledgers_foldl_openEntry, Option.none_or]
  simp only [hall, Locker.openExistingLedgers]
  cases hlog : logs subjectID with
  | none => rfl
  | some log =>
    have hentries : (Locker.mk logs fun _ => none).entries subjectID =
        log := by
      simp [Locker.entries, hlog]
    cases hopening : opening subjectID with
    | failed err directoryLeft => rfl
    | opened fetched => simp [Locker.openedLedger, hentries]

/-- Two logs and a plain file; the second log does not open. -/
theorem alpha_listed :
    let locker := Locker.mk (fun name =>
      if name = "alpha" then some [⟨[1], .worker⟩]
      else if name = "beta" then some [] else none) fun _ => none
    let opening := fun name =>
      if name = "beta" then .failed (.message "permission denied") true
      else .opened 1
    (locker.openListed (fun _ => "") (.ok [⟨"beta", true⟩, ⟨"notes", false⟩,
        ⟨"alpha", true⟩]) opening).1.ledgers =
      (locker.openExistingLedgers (fun _ => "") opening).ledgers := by
  intro locker opening
  apply openListed_eq_openExistingLedgers
  intro name
  simp only [Listed, List.exists_mem_cons_iff]
  grind

theorem isSome_perform {call : Call}
    (hopen : ((locker.perform sha256Hex call).ledgers subjectID).isSome) :
    (locker.ledgers subjectID).isSome ∨ call.Names subjectID := by
  cases call with
  | createLedger created opening =>
    by_cases heq : subjectID = created
    · subst heq
      rw [Locker.perform] at hopen
      unfold Locker.createLedger at hopen
      split at hopen
      · exact .inl hopen
      · rename_i hvalid
        exact .inr (.created hvalid)
    · left
      rw [Locker.perform] at hopen
      unfold Locker.createLedger at hopen
      split at hopen
      · exact hopen
      · split at hopen
        · exact hopen
        · cases opening <;> rwa [ledgers_openLedger_of_ne heq] at hopen
  | openExistingLedgers readDir opening =>
    cases readDir with
    | error err => exact .inl hopen
    | ok entries =>
      rw [Locker.perform, Locker.openListed, ledgers_foldl_openEntry] at hopen
      by_cases hlisted : Listed entries subjectID
      · exact .inr (.listed hlisted)
      · rw [if_neg hlisted, Option.or_none] at hopen
        exact .inl hopen

theorem isSome_run {calls : List Call}
    (hopen : ((locker.run sha256Hex calls).ledgers subjectID).isSome) :
    (locker.ledgers subjectID).isSome ∨
      ∃ call ∈ calls, call.Names subjectID := by
  induction calls generalizing locker with
  | nil => exact .inl hopen
  | cons call calls ih =>
    rcases ih hopen with hstep | ⟨later, hmem, hnames⟩
    · exact (isSome_perform hstep).imp_right fun hnames =>
        ⟨call, List.mem_cons_self, hnames⟩
    · exact .inr ⟨later, List.mem_cons_of_mem call hmem, hnames⟩

end Added

end ComplyTime.Ledgers

namespace ComplyTime.TileServer

open Ledgers SlashPath Subjects

/-! ## Where ledgers lie and how they are reached -/

/-- `storagePath` of a ledger. -/
def Server.ledgerPath (server : Server) (subjectID : SubjectID) : String :=
  join [server.basePath, subjectID]

section Reached

variable {server : Server} {subjectID : SubjectID}
  {api : Endpoint → List String → Response}

theorem namesOf_ledgerPath (server : Server)
    (hvalid : ValidSubjectID subjectID) :
    rooted (server.ledgerPath subjectID) = rooted server.basePath ∧
      namesOf (server.ledgerPath subjectID) =
        namesOf server.basePath ++ [subjectID] := by
  have hproper : ∀ name ∈ [subjectID], Proper name := by
    intro name hmem
    rw [List.mem_singleton.mp hmem]
    exact (fileName_of_valid hvalid).proper
  have hjoined : joined [subjectID] = subjectID := String.intercalate_singleton
  have hpath := join_proper server.basePath (List.cons_ne_nil _ _) hproper
  have hcleaned := (cleaned_namesOf server.basePath).append hproper
  rw [hjoined] at hpath
  rw [Server.ledgerPath, hpath]
  exact ⟨hcleaned.rooted_render, hcleaned.namesOf_render⟩

theorem fileName_checkpoint : FileName "checkpoint" := by
  have hall : ∀ character ∈ "checkpoint".toList,
      isAlphanumeric character = true := List.all_eq_true.mp (by decide)
  exact fileName_of_all rfl rfl hall (by decide) (by decide)

/-- The stored checkpoint of an open ledger is served. -/
theorem serveHTTP_checkpoint (hvalid : ValidSubjectID subjectID)
    {ledger : Ledger}
    (hledger : server.locker.getLedger subjectID = some ledger) {data : Bytes}
    (hstored : server.files
      (server.tesseraStoragePath subjectID ++ "/checkpoint") = .file data) :
    serveHTTP server ⟨tileURL subjectID ["checkpoint"], ""⟩ api =
      .content "application/octet-stream" data := by
  have hsubject := fileName_of_valid hvalid
  have hfiles : ∀ name ∈ ["checkpoint"], FileName name := by
    intro name hmem
    rw [List.mem_singleton.mp hmem]
    exact fileName_checkpoint
  have hproper : ∀ name ∈ ["checkpoint"], Proper name :=
    fun name hmem => (hfiles name hmem).proper
  have hnames := List.cons_ne_nil "checkpoint" []
  have hroute : route routes (tileURL subjectID ["checkpoint"]) =
      some (.checkpoint, [subjectID]) := by
    simp [route, segments_tileURL hsubject hnames hfiles, routes, matchParts]
  have hjoined : joined ["checkpoint"] = "checkpoint" :=
    String.intercalate_singleton
  have hserved : serveTesseraFile server
      ⟨tileURL subjectID ["checkpoint"], ""⟩ subjectID
      (joined ["checkpoint"]) = serveFile
        ⟨tileURL subjectID ["checkpoint"], ""⟩ "application/octet-stream"
        data := by
    apply serveTesseraFile_eq hledger hnames hproper
    rw [hjoined, String.append_assoc]
    exact hstored
  have hchecked : validateSubjectID subjectID = .ok () := hvalid
  have hlast : ["checkpoint"].getLast? ≠ some "index.html" := by decide
  rw [hjoined] at hserved
  simp only [serveHTTP, routePath_tileURL, hroute, getCheckpoint, hchecked,
    hserved, serveFile, containsDotDot_tileURL hsubject hnames hfiles,
    not_indexPage_tileURL hsubject hnames hfiles hlast]
  rfl

/-- In every run of calls that only find directories with valid names, starting
with no open ledger, every open ledger has a valid subject ID.  Its directory
is a direct child of the base path and no other ledger's, and its stored
checkpoint and tiles are served. -/
theorem ledgers_valid_of_listsValid {sha256Hex : Bytes → String}
    {start : Locker} {calls : List Call}
    (api : Endpoint → List String → Response)
    (hstart : ∀ subjectID, start.ledgers subjectID = none)
    (hlists : ∀ call ∈ calls, call.ListsValid)
    (hserver : server.locker = start.run sha256Hex calls)
    {ledger : Ledger}
    (hledger : server.locker.getLedger subjectID = some ledger) :
    ValidSubjectID subjectID ∧
    (rooted (server.ledgerPath subjectID) = rooted server.basePath ∧
      namesOf (server.ledgerPath subjectID) =
        namesOf server.basePath ++ [subjectID]) ∧
    (∀ other, (server.locker.getLedger other).isSome →
      server.ledgerPath other = server.ledgerPath subjectID →
        other = subjectID) ∧
    (∀ data, server.files
        (server.tesseraStoragePath subjectID ++ "/checkpoint") = .file data →
      serveHTTP server ⟨tileURL subjectID ["checkpoint"], ""⟩ api =
        .content "application/octet-stream" data) ∧
    ∀ level index width,
      (∀ name ∈ ["tile", level, index, width], TileText name) →
      width ≠ "index.html" →
      ∀ data, server.files (server.tesseraStoragePath subjectID ++ "/" ++
          joined ["tile", level, index, width]) = .file data →
        serveHTTP server
            ⟨tileURL subjectID ["tile", level, index, width], ""⟩ api =
          .content "application/octet-stream" data := by
  have hopen : ∀ other, (server.locker.getLedger other).isSome →
      ValidSubjectID other := by
    intro other hother
    rw [Locker.getLedger, hserver] at hother
    rcases isSome_run hother with hbefore | ⟨call, hmem, hnames⟩
    · rw [hstart] at hbefore
      cases hbefore
    · exact hnames.valid (hlists call hmem)
  have hvalid : ValidSubjectID subjectID :=
    hopen subjectID (by rw [hledger]; rfl)
  have hpath := namesOf_ledgerPath server hvalid
  refine ⟨hvalid, hpath, ?_, ?_, ?_⟩
  · intro other hother hsame
    have hnames := (namesOf_ledgerPath server (hopen other hother)).2
    rw [hsame, hpath.2] at hnames
    exact (List.singleton_inj.mp (List.append_cancel_left hnames)).symm
  · intro data hstored
    exact serveHTTP_checkpoint hvalid hledger hstored
  · intro level index width htexts hpage data hstored
    exact serveHTTP_of_three hvalid hledger htexts hpage hstored

end Reached

/-! ## A base path with one more directory -/

def digestOf (_ : Bytes) : String := ""

/-- The calls of a start on a base path that holds these directories. -/
def startupCalls (names : List String) : List Call :=
  [.openExistingLedgers (.ok (names.map fun name => ⟨name, true⟩))
    fun _ => .opened 0]

/-- A server on `/data` after its start, where every ledger has a checkpoint. -/
def startedServer (names : List String) : Server where
  basePath := "/data"
  locker := newLocker.run digestOf (startupCalls names)
  files := fun path =>
    if "/checkpoint".toList.isSuffixOf path.toList then .file [1]
    else .missing

/-- The ledger the locker itself has created is found and served. -/
theorem own_directory_served :
    ValidSubjectID "payments" ∧
      serveHTTP (startedServer ["payments"])
        ⟨"/ledgers/payments/checkpoint", ""⟩ unreached =
          .content "application/octet-stream" [1] := by
  have hlists : ∀ call ∈ startupCalls ["payments"], call.ListsValid := by
    intro call hmem
    rw [List.mem_singleton.mp hmem]
    rintro name ⟨entry, hentry, -, rfl⟩
    rw [List.mem_singleton.mp hentry]
    decide
  have hledger : (startedServer ["payments"]).locker.getLedger "payments" =
      some (newLedger digestOf [] 0) := by rfl
  have hstart : ∀ subjectID, newLocker.ledgers subjectID = none := fun _ => rfl
  have hserver : (startedServer ["payments"]).locker =
      newLocker.run digestOf (startupCalls ["payments"]) := rfl
  obtain ⟨hvalid, -, -, hcheckpoint, -⟩ :=
    ledgers_valid_of_listsValid unreached hstart hlists hserver hledger
  exact ⟨hvalid, hcheckpoint [1] (by decide +kernel)⟩

/-- A directory that someone else has left in the base path becomes a ledger
whose subject ID is not valid and whose routes refuse it. -/
theorem foreign_directory_opened :
    ((startedServer ["payments", "backup.2025"]).locker.getLedger
      "backup.2025").isSome = true ∧
    ¬ ValidSubjectID "backup.2025" ∧
    serveHTTP (startedServer ["payments", "backup.2025"])
      ⟨"/ledgers/backup.2025/checkpoint", ""⟩ unreached =
        .error 400 "invalid subject ID" := by
  decide +kernel

end ComplyTime.TileServer
