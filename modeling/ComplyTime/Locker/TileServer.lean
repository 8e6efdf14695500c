import ComplyTime.Core.Pattern
import ComplyTime.Core.SlashPath
import ComplyTime.Core.TileLayout
import ComplyTime.Locker.Ledgers

/-!
# The tile server

The locker serves the checkpoint and the tiles of a ledger from the directory
of its Tessera log.  The tile route has a fixed number of segments, while the
path of a tile has one for every three digits of its index and one more if the
tile is partial.  A stored tile is served exactly when the two agree.
-/

namespace ComplyTime.TileServer

open Ledgers SlashPath Subjects TileLayout

/-! ## Requests and files -/

/-- A GET request without conditions or ranges. -/
structure Request where
  /-- `r.URL.Path`. -/
  path : String
  /-- `r.URL.RawPath`, empty unless the path was escaped in an unusual way. -/
  rawPath : String

/-- What the router looks at. -/
def Request.routePath (request : Request) : String :=
  if request.rawPath ≠ "" then request.rawPath
  else if request.path = "" then "/" else request.path

inductive Response
  | error (status : ℕ) (message : String)
  | content (contentType : String) (data : Bytes)
  | redirect (location : String)
  deriving DecidableEq, Repr

/-- What the file system holds at a path. -/
inductive FileState
  | missing
  | inaccessible
  | directory
  | file (data : Bytes)
  deriving DecidableEq, Repr

structure Server where
  basePath : String
  locker : Locker
  files : String → FileState

def Server.tesseraStoragePath (server : Server) (subjectID : SubjectID) :
    String :=
  join [join [server.basePath, subjectID], "tessera"]

/-! ## `http.ServeFile` -/

/-- `containsDotDot`, which takes a backslash for a slash. -/
def containsDotDot (path : String) : Bool :=
  (path.toList.splitOnP fun character =>
    character == '/' || character == '\\').any fun part => part == ['.', '.']

def indexPage : String := "/index.html"

def serveFile (request : Request) (contentType : String) (data : Bytes) :
    Response :=
  if containsDotDot request.path then .error 400 "invalid URL path"
  else if indexPage.toList.isSuffixOf request.path.toList then .redirect "./"
  else .content contentType data

/-! ## Routes -/

def isTileCharacter (character : Char) : Bool :=
  isAlphanumeric character || character == '.'

/-- `^[a-zA-Z0-9.]+$`. -/
def tilePathSegment : Pattern := .plus (.one isTileCharacter)

inductive Endpoint
  | checkpoint
  | tile
  | healthCheck
  | listLedgers
  | getLedger
  | fetchReceipt
  | verifyReceipt
  deriving DecidableEq, Repr

/-- The routes of `registerTileRoutes` and of the generated API. -/
def routes : List (List Part × Endpoint) :=
  [([.literal "ledgers", .param, .literal "checkpoint"], .checkpoint),
   ([.literal "ledgers", .param, .literal "tile", .param, .param, .param],
     .tile),
   ([.literal "healthz"], .healthCheck),
   ([.literal "ledgers"], .listLedgers),
   ([.literal "ledgers", .param], .getLedger),
   ([.literal "ledgers", .param, .literal "entry", .param], .fetchReceipt),
   ([.literal "ledgers", .param, .literal "verify", .param], .verifyReceipt)]

section Handlers

variable (server : Server) (request : Request)

/-- What follows `os.Stat`. -/
def answerFile : FileState → Response
  | .missing => .error 404 "file not found"
  | .inaccessible => .error 500 "error accessing file"
  | .directory => .error 400 "not a file"
  | .file data => serveFile request "application/octet-stream" data

def serveTesseraFile (subjectID : SubjectID) (filePath : String) : Response :=
  match server.locker.getLedger subjectID with
  | none => .error 404 "ledger not found"
  | some _ =>
    let fullPath := join [server.tesseraStoragePath subjectID, filePath]
    let storagePath := server.tesseraStoragePath subjectID
    if !hasPrefix (clean fullPath) (clean storagePath) then
      .error 400 "invalid path"
    else answerFile request (server.files fullPath)

def getCheckpoint (subjectID : SubjectID) : Response :=
  match validateSubjectID subjectID with
  | .error _ => .error 400 "invalid subject ID"
  | .ok () => serveTesseraFile server request subjectID "checkpoint"

def getTile (subjectID : SubjectID) (level index width : String) : Response :=
  match validateSubjectID subjectID with
  | .error _ => .error 400 "invalid subject ID"
  | .ok () =>
    if !tilePathSegment.matchString level ||
        !tilePathSegment.matchString index ||
        !tilePathSegment.matchString width then
      .error 400 "invalid tile path"
    else serveTesseraFile server request subjectID
      ("tile/" ++ level ++ "/" ++ index ++ "/" ++ width)

/-- The router, with the handlers of the API given. -/
def serveHTTP (api : Endpoint → List String → Response) : Response :=
  match route routes request.routePath with
  | none => .error 404 "404 page not found"
  | some (.checkpoint, [subjectID]) => getCheckpoint server request subjectID
  | some (.tile, [subjectID, level, index, width]) =>
    getTile server request subjectID level index width
  | some (endpoint, params) => api endpoint params

end Handlers

/-! ## Names of files -/

/-- A name that begins with a letter or a digit and holds no slash. -/
structure FileName (name : String) : Prop where
  first : ∃ character rest, name.toList = character :: rest ∧
    isAlphanumeric character = true
  slashes : ∀ character ∈ name.toList, character ≠ '/' ∧ character ≠ '\\'

variable {name : String}

theorem FileName.proper (hname : FileName name) :
    Proper name := by
  obtain ⟨character, rest, hlist, halnum⟩ := hname.first
  have hne : ∀ text : String,
      text.toList.head?.any isAlphanumeric = false → name ≠ text := by
    rintro text hhead rfl
    rw [hlist, List.head?_cons, Option.any_some, halnum] at hhead
    cases hhead
  exact ⟨hne "" (by decide), hne "." (by decide), hne ".." (by decide),
    fun hslash => (hname.slashes '/' hslash).1 rfl⟩

/-- Characters of a class without slashes. -/
theorem fileName_of_all {test : Char → Bool} {first : Char} {rest : List Char}
    (hlist : name.toList = first :: rest)
    (hfirst : isAlphanumeric first = true)
    (hall : ∀ character ∈ name.toList, test character = true)
    (hslash : test '/' = false) (hbackslash : test '\\' = false) :
    FileName name := by
  refine ⟨⟨first, rest, hlist, hfirst⟩, ?_⟩
  intro character hmem
  have htest := hall character hmem
  constructor
  · rintro rfl
    rw [hslash] at htest
    cases htest
  · rintro rfl
    rw [hbackslash] at htest
    cases htest

theorem fileName_of_valid {subjectID : SubjectID}
    (hvalid : ValidSubjectID subjectID) : FileName subjectID := by
  obtain ⟨first, rest, hlist, hfirst, hall⟩ := hvalid.exists_cons
  exact fileName_of_all hlist hfirst hall (by decide) (by decide)

/-! ## Names of tiles -/

/-- A segment of a tile path: it begins with a letter or a digit, and the
pattern accepts it. -/
structure TileText (name : String) : Prop where
  first : ∃ character rest, name.toList = character :: rest ∧
    isAlphanumeric character = true
  all : ∀ character ∈ name.toList, isTileCharacter character = true

theorem TileText.fileName (htext : TileText name) :
    FileName name := by
  obtain ⟨first, rest, hlist, hfirst⟩ := htext.first
  exact fileName_of_all hlist hfirst htext.all (by decide) (by decide)

theorem TileText.matchString (htext : TileText name) :
    tilePathSegment.matchString name = true := by
  rw [tilePathSegment, Pattern.matchString_plus_one_iff]
  obtain ⟨first, rest, hlist, -⟩ := htext.first
  exact ⟨by simp [hlist], htext.all⟩

theorem isAlphanumeric_of_isDigit {character : Char}
    (hdigit : character.isDigit = true) : isAlphanumeric character = true := by
  simp only [Char.isDigit, Bool.and_eq_true, decide_eq_true_eq] at hdigit
  simp only [isAlphanumeric, Bool.or_eq_true, Bool.and_eq_true,
    decide_eq_true_eq]
  exact .inr hdigit

theorem tileText_append {text rest : String} (htext : TileText text)
    (hrest : ∀ character ∈ rest.toList, isTileCharacter character = true) :
    TileText (text ++ rest) := by
  obtain ⟨first, others, hlist, hfirst⟩ := htext.first
  constructor
  · exact ⟨first, others ++ rest.toList, by simp [hlist], hfirst⟩
  · intro character hmem
    rw [String.toList_append, List.mem_append] at hmem
    exact hmem.elim (htext.all character) (hrest character)

theorem tileText_of_digits (hne : name.toList ≠ [])
    (hdigits : ∀ character ∈ name.toList, character.isDigit = true) :
    TileText name := by
  have hall : ∀ character ∈ name.toList, isAlphanumeric character = true :=
    fun character hmem => isAlphanumeric_of_isDigit (hdigits character hmem)
  constructor
  · obtain ⟨first, rest, hlist⟩ := List.exists_cons_of_ne_nil hne
    exact ⟨first, rest, hlist, hall first (by simp [hlist])⟩
  · intro character hmem
    rw [isTileCharacter, hall character hmem]
    rfl

theorem tileText_threeDigits {number : ℕ} (hlt : number < 1000) :
    TileText (threeDigits number) :=
  tileText_of_digits (by simp [threeDigits]) fun _ =>
    isDigit_of_mem_threeDigits hlt

theorem tileText_toString (number : ℕ) : TileText (toString number) := by
  apply tileText_of_digits
  · have hlist : (toString number).toList = Nat.toDigits 10 number := by simp
    rw [hlist]
    exact Nat.toDigits_ne_nil
  · exact fun character => isDigit_of_mem_toString

theorem tileText_of_mem {kind : Kind} {index partialSize : ℕ}
    (hmem : name ∈ tileNames kind index partialSize) : TileText name := by
  rcases mem_tileNames hmem with
    rfl | rfl | rfl | ⟨group, hgroup, rfl | rfl | rfl⟩
  · exact ⟨⟨'t', _, rfl, rfl⟩, List.all_eq_true.mp (by decide)⟩
  · cases kind with
    | hashes level => exact tileText_toString level
    | entries => exact ⟨⟨'e', _, rfl, rfl⟩, List.all_eq_true.mp (by decide)⟩
  · exact tileText_toString partialSize
  · apply tileText_append ⟨⟨'x', _, rfl, rfl⟩, List.all_eq_true.mp (by decide)⟩
    exact (tileText_threeDigits hgroup).all
  · exact tileText_threeDigits hgroup
  · apply tileText_append (tileText_threeDigits hgroup)
    exact List.all_eq_true.mp (by decide)

/-! ## Files of a ledger -/

section Files

variable {server : Server} {request : Request} {subjectID : SubjectID}
  {names : List String}

/-- The storage path is clean, and names joined to it follow it. -/
theorem storage_spec (server : Server) (subjectID : SubjectID)
    (hnames : names ≠ []) (hproper : ∀ name ∈ names, Proper name) :
    join [server.tesseraStoragePath subjectID, joined names] =
        server.tesseraStoragePath subjectID ++ "/" ++ joined names ∧
      clean (server.tesseraStoragePath subjectID) =
        server.tesseraStoragePath subjectID ∧
      clean (server.tesseraStoragePath subjectID ++ "/" ++ joined names) =
        server.tesseraStoragePath subjectID ++ "/" ++ joined names := by
  let ledgerPath := join [server.basePath, subjectID]
  have htessera : ∀ name ∈ ["tessera"], Proper name := by
    intro name hname
    obtain rfl := List.mem_singleton.mp hname
    exact ⟨by decide, by decide, by decide, by unfold Plain; decide⟩
  have hstorage : server.tesseraStoragePath subjectID =
      render (rooted ledgerPath) (namesOf ledgerPath ++ ["tessera"]) :=
    join_proper ledgerPath (List.cons_ne_nil _ _) htessera
  have hcleaned := (cleaned_namesOf ledgerPath).append htessera
  have hcleaned' := hcleaned.append hproper
  have hne : namesOf ledgerPath ++ ["tessera"] ≠ [] := by simp
  rw [join_proper _ hnames hproper, hstorage, hcleaned.rooted_render,
    hcleaned.namesOf_render, ← render_append hne hnames]
  exact ⟨rfl, hcleaned.clean_render, hcleaned'.clean_render⟩

/-- A file under the storage path is looked up there. -/
theorem serveTesseraFile_eq {ledger : Ledger}
    (hledger : server.locker.getLedger subjectID = some ledger)
    (hnames : names ≠ []) (hproper : ∀ name ∈ names, Proper name)
    {data : Bytes}
    (hstored : server.files (server.tesseraStoragePath subjectID ++ "/" ++
      joined names) = .file data) :
    serveTesseraFile server request subjectID (joined names) =
      serveFile request "application/octet-stream" data := by
  obtain ⟨hjoin, hclean, hclean'⟩ :=
    storage_spec server subjectID hnames hproper
  have hinside : hasPrefix (server.tesseraStoragePath subjectID ++ "/" ++
      joined names) (server.tesseraStoragePath subjectID) = true := by
    rw [String.append_assoc]
    exact hasPrefix_append _ _
  simp only [serveTesseraFile, hledger, hjoin, hclean, hclean', hinside,
    hstored]
  rfl

end Files

/-! ## The URL of a tile -/

section Tiles

variable {server : Server} {subjectID : SubjectID}
  {api : Endpoint → List String → Response}

def tileURL (subjectID : SubjectID) (names : List String) : String :=
  "/ledgers/" ++ subjectID ++ "/" ++ joined names

variable {names : List String}

theorem segments_tileURL (hsubject : FileName subjectID) (hnames : names ≠ [])
    (hfiles : ∀ name ∈ names, FileName name) :
    segments (tileURL subjectID names) =
      "" :: "ledgers" :: subjectID :: names := by
  have hledgers : segments ("/ledgers/" ++ subjectID) =
      ["", "ledgers", subjectID] := by
    have hslash : "/ledgers/" ++ subjectID =
        "/ledgers" ++ "/" ++ subjectID := rfl
    rw [hslash, segments_append, segments_of_plain hsubject.proper.plain]
    rfl
  rw [tileURL, segments_append, hledgers, segments_joined hnames]
  · rfl
  · exact fun name hmem => (hfiles name hmem).proper.plain

theorem splitOnP_congr {test other : Char → Bool} {characters : List Char}
    (hsame : ∀ character ∈ characters, test character = other character) :
    characters.splitOnP test = characters.splitOnP other := by
  induction characters with
  | nil => rfl
  | cons first characters ih =>
    obtain ⟨hfirst, hrest⟩ := List.forall_mem_cons.mp hsame
    rw [List.splitOnP_cons_eq_if_modifyHead,
      List.splitOnP_cons_eq_if_modifyHead, hfirst, ih hrest]

theorem not_backslash_of_mem_tileURL (hsubject : FileName subjectID)
    (hfiles : ∀ name ∈ names, FileName name) {character : Char}
    (hmem : character ∈ (tileURL subjectID names).toList) :
    character ≠ '\\' := by
  simp only [tileURL, String.toList_append, List.mem_append] at hmem
  rcases hmem with ((hledgers | hsubject') | hslash) | hnames
  · rintro rfl
    exact absurd hledgers (by decide)
  · exact (hsubject.slashes character hsubject').2
  · rintro rfl
    exact absurd hslash (by decide)
  · rcases mem_joined hnames with rfl | ⟨name, hname, hcharacter⟩
    · decide
    · exact ((hfiles name hname).slashes character hcharacter).2

theorem containsDotDot_tileURL (hsubject : FileName subjectID)
    (hnames : names ≠ []) (hfiles : ∀ name ∈ names, FileName name) :
    containsDotDot (tileURL subjectID names) = false := by
  have hsplit : ((tileURL subjectID names).toList.splitOnP fun character =>
      character == '/' || character == '\\') =
        (tileURL subjectID names).toList.splitOn '/' := by
    apply splitOnP_congr
    intro character hmem
    have hne := not_backslash_of_mem_tileURL hsubject hfiles hmem
    rw [beq_false_of_ne hne, Bool.or_false]
  rw [containsDotDot, hsplit, List.any_eq_false]
  intro part hpart hdots
  have hmem : ".." ∈ segments (tileURL subjectID names) := by
    rw [segments, List.mem_map]
    exact ⟨part, hpart, congrArg String.ofList (beq_iff_eq.mp hdots)⟩
  rw [segments_tileURL hsubject hnames hfiles] at hmem
  simp only [List.mem_cons] at hmem
  rcases hmem with hempty | hledgers | hdots | hname
  · exact absurd hempty (by decide)
  · exact absurd hledgers (by decide)
  · exact hsubject.proper.ne_up hdots.symm
  · exact (hfiles ".." hname).proper.ne_up rfl

theorem not_indexPage_tileURL (hsubject : FileName subjectID)
    (hnames : names ≠ []) (hfiles : ∀ name ∈ names, FileName name)
    (hlast : names.getLast? ≠ some "index.html") :
    indexPage.toList.isSuffixOf (tileURL subjectID names).toList = false := by
  rw [Bool.eq_false_iff]
  intro hsuffix
  obtain ⟨start, hstart⟩ := List.isSuffixOf_iff_suffix.mp hsuffix
  have hurl : tileURL subjectID names =
      String.ofList start ++ "/" ++ "index.html" := by
    apply String.toList_injective
    rw [← hstart]
    simp [indexPage]
  have hsegments := segments_tileURL hsubject hnames hfiles
  have hpage : segments "index.html" = ["index.html"] := by decide
  rw [hurl, segments_append, hpage] at hsegments
  have hends : names.getLast? =
      ("" :: "ledgers" :: subjectID :: names).getLast? := by
    rw [List.getLast?_cons_cons, List.getLast?_cons_cons,
      List.getLast?_cons_of_ne_nil hnames]
  rw [hends, ← hsegments] at hlast
  exact hlast List.getLast?_concat

theorem getLast?_tileNames_ne {kind : Kind} {index partialSize : ℕ} :
    (tileNames kind index partialSize).getLast? ≠ some "index.html" := by
  rw [getLast?_tileNames]
  intro hpage
  have hdigits : ∀ character ∈ "index.html".toList,
      character.isDigit = true := by
    rw [← Option.some.inj hpage]
    split
    · exact fun character =>
        isDigit_of_mem_threeDigits (Nat.mod_lt index (by decide))
    · exact fun character => isDigit_of_mem_toString
  exact absurd (hdigits 'i' (by decide)) (by decide)

/-! ## Which tiles are served -/

/-- The tile route takes three segments after `tile`. -/
theorem route_tile {level index width : String} {path : String}
    (hsegments : segments path =
      ["", "ledgers", subjectID, "tile", level, index, width])
    (hwidth : width ≠ "") :
    route routes path = some (.tile, [subjectID, level, index, width]) := by
  simp [route, hsegments, routes, matchParts, hwidth]

theorem route_other {path : String}
    (hsegments : segments path = "" :: "ledgers" :: subjectID :: names)
    (hthree : 3 ≤ names.length) (hlength : names.length ≠ 4) :
    route routes path = none := by
  have hroutes : ∀ entry ∈ routes,
      entry.1.length ≤ 4 ∨ entry.1.length = 6 := by decide
  apply route_eq_none hsegments
  intro entry hmem
  have hentry := hroutes entry hmem
  rw [List.length_cons, List.length_cons]
  omega

theorem routePath_tileURL (subjectID : SubjectID) (names : List String) :
    (Request.mk (tileURL subjectID names) "").routePath =
      tileURL subjectID names := by
  have hne : tileURL subjectID names ≠ "" := by
    simp [tileURL, String.append_eq_empty_iff]
  simp [Request.routePath, hne]

/-- A stored tile whose path has three segments after `tile` is served. -/
theorem serveHTTP_of_three {level index width : String}
    (hvalid : ValidSubjectID subjectID) {ledger : Ledger}
    (hledger : server.locker.getLedger subjectID = some ledger)
    (htexts : ∀ name ∈ ["tile", level, index, width], TileText name)
    (hpage : width ≠ "index.html") {data : Bytes}
    (hstored : server.files (server.tesseraStoragePath subjectID ++ "/" ++
      joined ["tile", level, index, width]) = .file data) :
    serveHTTP server
        ⟨tileURL subjectID ["tile", level, index, width], ""⟩ api =
      .content "application/octet-stream" data := by
  have hsubject := fileName_of_valid hvalid
  have hfiles : ∀ name ∈ ["tile", level, index, width], FileName name :=
    fun name hmem => (htexts name hmem).fileName
  have hproper : ∀ name ∈ ["tile", level, index, width], Proper name :=
    fun name hmem => (hfiles name hmem).proper
  have hnames := List.cons_ne_nil "tile" [level, index, width]
  have hroute : route routes
      (tileURL subjectID ["tile", level, index, width]) =
        some (.tile, [subjectID, level, index, width]) := by
    apply route_tile (segments_tileURL hsubject hnames hfiles)
    exact (hproper width (by simp)).ne_empty
  have hpath : "tile/" ++ level ++ "/" ++ index ++ "/" ++ width =
      joined ["tile", level, index, width] := by
    simp [joined, String.intercalate_cons_cons, String.append_assoc]
  have hlast : ["tile", level, index, width].getLast? ≠ some "index.html" :=
    fun heq => hpage (Option.some.inj heq)
  have hchecked : validateSubjectID subjectID = .ok () := hvalid
  have hlevel := (htexts level (by simp)).matchString
  have hindex := (htexts index (by simp)).matchString
  have hwidth := (htexts width (by simp)).matchString
  simp only [serveHTTP, routePath_tileURL, hroute, getTile, hchecked, hlevel,
    hindex, hwidth, hpath,
    serveTesseraFile_eq hledger hnames hproper hstored, serveFile,
    containsDotDot_tileURL hsubject hnames hfiles,
    not_indexPage_tileURL hsubject hnames hfiles hlast]
  rfl

/-- A stored tile of an open ledger is served exactly when its path has three
segments after `tile`: a full tile with an index from 1000 to 999999, or a
partial one with an index below 1000.  Other tiles have no route. -/
theorem tile_served_iff {size : ℕ} (tile : Tile 256 size)
    (hvalid : ValidSubjectID subjectID) {ledger : Ledger}
    (hledger : server.locker.getLedger subjectID = some ledger) {data : Bytes}
    (hstored : server.files (server.tesseraStoragePath subjectID ++ "/" ++
      joined tile.names) = .file data) :
    serveHTTP server ⟨tileURL subjectID tile.names, ""⟩ api =
        .content "application/octet-stream" data ↔
      (tile.partialSize = 0 ∧ 1000 ≤ tile.index ∧ tile.index < 1000000) ∨
      (tile.partialSize ≠ 0 ∧ tile.index < 1000) := by
  have htexts : ∀ name ∈ tile.names, TileText name :=
    fun name => tileText_of_mem
  have hlast : tile.names.getLast? ≠ some "index.html" := getLast?_tileNames_ne
  rw [← length_tileNames_eq_four_iff]
  change _ ↔ tile.names.length = 4
  constructor
  · intro hserved
    by_contra hlength
    have hnames : tile.names ≠ [] := List.cons_ne_nil _ _
    have hsegments := segments_tileURL (fileName_of_valid hvalid) hnames
      fun name hmem => (htexts name hmem).fileName
    have hthree : 3 ≤ tile.names.length := three_le_length_tileNames _ _ _
    rw [serveHTTP, routePath_tileURL,
      route_other hsegments hthree hlength] at hserved
    cases hserved
  · intro hlength
    obtain ⟨rest, hform⟩ : ∃ rest,
        tile.names = "tile" :: tile.kind.text :: rest := ⟨_, rfl⟩
    have hrest : rest.length = 2 := by
      rw [hform, List.length_cons, List.length_cons] at hlength
      omega
    obtain ⟨index, width, rfl⟩ := List.length_eq_two.mp hrest
    rw [hform] at hstored htexts hlast ⊢
    apply serveHTTP_of_three hvalid hledger htexts _ hstored
    rintro rfl
    exact hlast rfl

end Tiles

/-! ## Two logs -/

/-- A locker under `/data` with one open ledger, and one file. -/
def storing (path : String) : Server where
  basePath := "/data"
  locker := { newLocker with
    ledgers := fun subjectID =>
      if subjectID = "alpha" then some ⟨fun _ => none⟩ else none }
  files := fun found => if found = path then .file [1] else .missing

/-- Handlers of the API that are never reached. -/
def unreached (_ : Endpoint) (_ : List String) : Response :=
  .error 501 "not implemented"

/-- The only tile of a log with one entry. -/
def firstTile : Tile 256 1 := ⟨.hashes 0, 0, by decide⟩

theorem first_tile_served :
    firstTile.names = ["tile", "0", "000.p", "1"] ∧
      serveHTTP (storing "/data/alpha/tessera/tile/0/000.p/1")
        ⟨"/ledgers/alpha/tile/0/000.p/1", ""⟩ unreached =
          .content "application/octet-stream" [1] := by
  have hnames : firstTile.names = ["tile", "0", "000.p", "1"] := by
    decide +kernel
  have hvalid : ValidSubjectID "alpha" := by decide
  have hledger : (storing "/data/alpha/tessera/tile/0/000.p/1").locker.getLedger
      "alpha" = some ⟨fun _ => none⟩ := rfl
  have hstored : (storing "/data/alpha/tessera/tile/0/000.p/1").files
      ((storing "/data/alpha/tessera/tile/0/000.p/1").tesseraStoragePath
        "alpha" ++ "/" ++ joined firstTile.names) = .file [1] := by
    decide +kernel
  have hurl : "/ledgers/alpha/tile/0/000.p/1" =
      tileURL "alpha" firstTile.names := by decide +kernel
  refine ⟨hnames, ?_⟩
  rw [hurl]
  exact (tile_served_iff firstTile hvalid hledger hstored).mpr
    (.inr ⟨by decide +kernel, by decide⟩)

/-- The first tile of a log with 256 entries. -/
def fullTile : Tile 256 256 := ⟨.hashes 0, 0, by decide⟩

/-- It is stored, and no route leads to it. -/
theorem full_tile_not_served :
    fullTile.names = ["tile", "0", "000"] ∧
      (storing "/data/alpha/tessera/tile/0/000").files
        ((storing "/data/alpha/tessera/tile/0/000").tesseraStoragePath
          "alpha" ++ "/tile/0/000") = .file [1] ∧
      serveHTTP (storing "/data/alpha/tessera/tile/0/000")
        ⟨"/ledgers/alpha/tile/0/000", ""⟩ unreached =
          .error 404 "404 page not found" := by
  decide +kernel

end ComplyTime.TileServer
