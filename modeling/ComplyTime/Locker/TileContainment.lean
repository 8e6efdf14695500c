import ComplyTime.Locker.TileServer

/-!
# Tile paths stay in the storage directory

`serveTesseraFile` joins the tile path to the storage directory, cleans the
result and compares the two as texts.  The segments of a tile path may be `.`
and `..`, so that the joined path can leave the directory; the comparison then
refuses it unless the text of the directory happens to be a text prefix of it.
With three segments this happens for siblings of the directory whose names
begin with its name, and for nothing else.
-/

namespace ComplyTime.TileServer

open Ledgers SlashPath Subjects TileLayout

/-! ## The path that is looked up -/

/-- The path that `serveTesseraFile` goes on to stat and serve, if it gets past
the look-up of the ledger and the comparison. -/
def stattedPath (server : Server) (subjectID : SubjectID) (filePath : String) :
    Option String :=
  let fullPath := join [server.tesseraStoragePath subjectID, filePath]
  if (server.locker.getLedger subjectID).isSome &&
      hasPrefix (clean fullPath) (clean (server.tesseraStoragePath subjectID))
  then some fullPath else none

section Statted

variable {server : Server} {request : Request} {subjectID : SubjectID}
  {filePath path : String}

theorem serveTesseraFile_of_statted
    (hstatted : stattedPath server subjectID filePath = some path) :
    serveTesseraFile server request subjectID filePath =
      answerFile request (server.files path) := by
  obtain ⟨hchecks, hpath⟩ := Option.ite_none_right_eq_some.mp hstatted
  obtain rfl := Option.some.inj hpath
  rw [Bool.and_eq_true] at hchecks
  obtain ⟨ledger, hledger⟩ := Option.isSome_iff_exists.mp hchecks.1
  simp only [serveTesseraFile, hledger, hchecks.2]
  rfl

theorem serveTesseraFile_of_not_statted
    (hstatted : stattedPath server subjectID filePath = none) :
    ∃ status message, ∀ files,
      serveTesseraFile { server with files := files } request subjectID
        filePath = .error status message := by
  cases hledger : server.locker.getLedger subjectID with
  | none =>
    refine ⟨404, "ledger not found", fun files => ?_⟩
    simp only [serveTesseraFile, hledger]
  | some ledger =>
    have hrefused : hasPrefix
        (clean (join [server.tesseraStoragePath subjectID, filePath]))
        (clean (server.tesseraStoragePath subjectID)) = false := by
      simpa [stattedPath, hledger] using hstatted
    refine ⟨400, "invalid path", fun files => ?_⟩
    have hpath : Server.tesseraStoragePath { server with files := files }
        subjectID = server.tesseraStoragePath subjectID := rfl
    simp only [serveTesseraFile, hledger, hpath, hrefused]
    rfl

end Statted

/-! ## Names of the storage directory -/

/-- The path of a tile below the storage directory. -/
def tileFile (level index width : String) : String :=
  "tile/" ++ level ++ "/" ++ index ++ "/" ++ width

theorem tileFile_eq_joined (level index width : String) :
    tileFile level index width = joined ["tile", level, index, width] := by
  simp [tileFile, joined, String.intercalate_cons_cons, String.append_assoc]

variable {request : Request} {subjectID : SubjectID}

/-- The tile route hands its segments on unchanged. -/
theorem getTile_eq {server : Server} {level index width : String}
    (hsubject : ValidSubjectID subjectID)
    (hlevel : tilePathSegment.matchString level = true)
    (hindex : tilePathSegment.matchString index = true)
    (hwidth : tilePathSegment.matchString width = true) :
    getTile server request subjectID level index width =
      serveTesseraFile server request subjectID
        (tileFile level index width) := by
  have hvalid : validateSubjectID subjectID = .ok () := hsubject
  simp only [getTile, hvalid, hlevel, hindex, hwidth]
  rfl

theorem proper_tessera : Proper "tessera" :=
  ⟨by decide, by decide, by decide, by unfold Plain; decide⟩

theorem proper_tile : Proper "tile" :=
  ⟨by decide, by decide, by decide, by unfold Plain; decide⟩

/-- The storage directory is named by the base path, the subject and
`tessera`. -/
theorem exists_storage_names (server : Server)
    (hsubject : ValidSubjectID subjectID) :
    ∃ root base, Cleaned root base ∧ server.tesseraStoragePath subjectID =
      render root (base ++ [subjectID] ++ ["tessera"]) := by
  have hname : ∀ name ∈ [subjectID], Proper name :=
    List.forall_mem_singleton.mpr (fileName_of_valid hsubject).proper
  have htessera : ∀ name ∈ ["tessera"], Proper name :=
    List.forall_mem_singleton.mpr proper_tessera
  have hbase := cleaned_namesOf server.basePath
  have hledger : join [server.basePath, subjectID] =
      render (rooted server.basePath)
        (namesOf server.basePath ++ [subjectID]) := by
    have hjoin := join_proper server.basePath (List.cons_ne_nil _ _) hname
    rwa [joined, String.intercalate_singleton] at hjoin
  have hcleaned := hbase.append hname
  refine ⟨rooted server.basePath, namesOf server.basePath, hbase, ?_⟩
  calc server.tesseraStoragePath subjectID
      = join [join [server.basePath, subjectID], joined ["tessera"]] := rfl
    _ = render (rooted (join [server.basePath, subjectID]))
          (namesOf (join [server.basePath, subjectID]) ++ ["tessera"]) :=
        join_proper _ (List.cons_ne_nil _ _) htessera
    _ = _ := by rw [hledger, hcleaned.rooted_render, hcleaned.namesOf_render]

theorem plain_of_tilePathSegment {name : String}
    (hname : tilePathSegment.matchString name = true) :
    name ≠ "" ∧ Plain name := by
  rw [tilePathSegment, Pattern.matchString_plus_one_iff] at hname
  refine ⟨?_, ?_⟩
  · rintro rfl
    exact hname.1 rfl
  · intro hslash
    exact absurd (hname.2 '/' hslash) (by decide)

/-! ## Where three segments lead -/

section Segments

variable (root : Bool) (taken : List String) {level index width : String}

/-- Two segments `..` leave the directory; the third one counts from its
parent. -/
theorem foldl_climb (width : String) :
    ["tile", "..", "..", width].foldl (step root) ("tessera" :: taken) =
      step root taken width := by
  simp only [List.foldl_cons, List.foldl_nil, step_proper proper_tile,
    step_up proper_tile, step_up proper_tessera]

theorem exists_foldl_level_index
    (hlevel : level ≠ "" ∧ Plain level) (hindex : index ≠ "" ∧ Plain index)
    (hnot : ¬ (level = ".." ∧ index = "..")) :
    ∃ extra, (∀ name ∈ extra, Proper name) ∧
      ["tile", level, index].foldl (step root) taken = extra ++ taken := by
  simp only [List.foldl_cons, List.foldl_nil, step_proper proper_tile]
  have htile : ∀ name ∈ ["tile"], Proper name :=
    List.forall_mem_singleton.mpr proper_tile
  by_cases hup : level = ".."
  · subst hup
    rw [step_up proper_tile]
    exact step_inside root [] taken hindex.1 hindex.2 (by simp)
      fun heq => absurd ⟨rfl, heq⟩ hnot
  · by_cases hdot : level = "."
    · subst hdot
      rw [step_dot]
      exact step_inside root ["tile"] taken hindex.1 hindex.2 htile
        fun _ => List.cons_ne_nil _ _
    · have hproper : Proper level := ⟨hlevel.1, hdot, hup, hlevel.2⟩
      rw [step_proper hproper]
      exact step_inside root [level, "tile"] taken hindex.1 hindex.2
        (List.forall_mem_cons.mpr ⟨hproper, htile⟩)
        fun _ => List.cons_ne_nil _ _

/-- The third segment then leads into the directory or to its parent. -/
theorem foldl_inside_or_parent
    (hlevel : level ≠ "" ∧ Plain level) (hindex : index ≠ "" ∧ Plain index)
    (hwidth : width ≠ "" ∧ Plain width)
    (hnot : ¬ (level = ".." ∧ index = "..")) :
    (∃ extra, ["tile", level, index, width].foldl (step root)
      ("tessera" :: taken) = extra ++ "tessera" :: taken) ∨
    ["tile", level, index, width].foldl (step root) ("tessera" :: taken) =
      taken := by
  obtain ⟨extra, hextra, hfold⟩ := exists_foldl_level_index root
    ("tessera" :: taken) hlevel hindex hnot
  have hsplit : ["tile", level, index, width] =
      ["tile", level, index] ++ [width] := rfl
  rw [hsplit, List.foldl_append, hfold, List.foldl_cons, List.foldl_nil]
  by_cases hparent : width = ".." ∧ extra = []
  · obtain ⟨rfl, rfl⟩ := hparent
    exact .inr (step_up proper_tessera)
  · obtain ⟨further, -, hstep⟩ := step_inside root extra ("tessera" :: taken)
      hwidth.1 hwidth.2 hextra fun hup hempty => hparent ⟨hup, hempty⟩
    exact .inl ⟨further, hstep⟩

end Segments

/-! ## What the comparison lets through -/

section Comparison

variable {root : Bool} {base : List String}

theorem length_render_storage (root : Bool) (base : List String)
    (subjectID : SubjectID) :
    (render root (base ++ [subjectID] ++ ["tessera"])).toList.length =
      (render root (base ++ [subjectID])).toList.length + 8 := by
  have hjoined : (joined ["tessera"]).toList.length = 7 := by decide
  rw [render_append (by simp) (List.cons_ne_nil _ _)]
  simp only [String.toList_append, List.length_append, hjoined]
  rfl

theorem not_hasPrefix_ledger :
    hasPrefix (render root (base ++ [subjectID]))
      (render root (base ++ [subjectID] ++ ["tessera"])) = false := by
  rw [Bool.eq_false_iff]
  intro hstarts
  have hlength := length_le_of_hasPrefix hstarts
  have hstorage := length_render_storage root base subjectID
  omega

/-- The base path has at most one character more than the ledger directory: a
text stands for no names at all. -/
theorem length_render_base_le (root : Bool) (base : List String)
    (subjectID : SubjectID) :
    (render root base).toList.length ≤
      (render root (base ++ [subjectID])).toList.length + 1 := by
  by_cases hbase : base = []
  · subst hbase
    have hempty : (joined []).toList.length = 0 := by decide
    unfold render
    split
    · simp only [String.toList_append, List.length_append, hempty]
      omega
    · simp
  · rw [render_append hbase (List.cons_ne_nil _ _)]
    simp only [String.toList_append, List.length_append]
    omega

theorem not_hasPrefix_base :
    hasPrefix (render root base)
      (render root (base ++ [subjectID] ++ ["tessera"])) = false := by
  rw [Bool.eq_false_iff]
  intro hstarts
  have hlength := length_le_of_hasPrefix hstarts
  have hstorage := length_render_storage root base subjectID
  have hbase := length_render_base_le root base subjectID
  omega

end Comparison

section Containment

variable {server : Server} {level index width path : String}

/-- The names that a tile path is resolved to. -/
def resolved (root : Bool) (base : List String) (subjectID : SubjectID)
    (level index width : String) : List String :=
  (["tile", level, index, width].foldl (step root)
    (base ++ [subjectID] ++ ["tessera"]).reverse).reverse

theorem resolved_eq (root : Bool) (base : List String)
    (subjectID : SubjectID) (level index width : String) :
    resolved root base subjectID level index width =
      (["tile", level, index, width].foldl (step root)
        ("tessera" :: subjectID :: base.reverse)).reverse := by
  simp only [resolved, List.reverse_append, List.reverse_singleton,
    List.singleton_append]

/-- What is looked up, and what the comparison compares. -/
theorem exists_resolved (server : Server)
    (hsubject : ValidSubjectID subjectID)
    (hlevel : level ≠ "" ∧ Plain level) (hindex : index ≠ "" ∧ Plain index)
    (hwidth : width ≠ "" ∧ Plain width) :
    ∃ root base,
      (∀ path, stattedPath server subjectID (tileFile level index width) =
          some path ↔
        (server.locker.getLedger subjectID).isSome = true ∧
        hasPrefix (render root (resolved root base subjectID level index width))
          (render root (base ++ [subjectID] ++ ["tessera"])) = true ∧
        render root (resolved root base subjectID level index width) = path) ∧
      (Within (server.tesseraStoragePath subjectID) (clean
          (render root (resolved root base subjectID level index width))) ↔
        base ++ [subjectID] ++ ["tessera"] <+:
          resolved root base subjectID level index width) := by
  obtain ⟨root, base, hbase, hstorage⟩ := exists_storage_names server hsubject
  have hcleaned : Cleaned root (base ++ [subjectID] ++ ["tessera"]) :=
    (hbase.append (List.forall_mem_singleton.mpr
      (fileName_of_valid hsubject).proper)).append
        (List.forall_mem_singleton.mpr proper_tessera)
  have hplain : ∀ name ∈ ["tile", level, index, width], Plain name := by
    simp only [List.forall_mem_cons, List.not_mem_nil, false_implies,
      implies_true, and_true]
    exact ⟨proper_tile.plain, hlevel.2, hindex.2, hwidth.2⟩
  have hjoin : join [server.tesseraStoragePath subjectID,
      tileFile level index width] =
        render root (resolved root base subjectID level index width) := by
    rw [hstorage, tileFile_eq_joined]
    exact hcleaned.join_segments (List.cons_ne_nil _ _) hplain
  have hresolved : Cleaned root
      (resolved root base subjectID level index width) := by
    rw [Cleaned, resolved, List.reverse_reverse]
    exact hcleaned.foldl hplain
  refine ⟨root, base, fun path => ?_, ?_⟩
  · rw [stattedPath, Option.ite_none_right_eq_some, Bool.and_eq_true, hjoin,
      hresolved.clean_render, hstorage, hcleaned.clean_render, and_assoc,
      Option.some_inj]
  · rw [hresolved.clean_render, hstorage, within_render_iff hcleaned hresolved]

/-- Two segments `..` are let through if the third one begins with the name of
the storage directory. -/
theorem hasPrefix_climb_iff {root : Bool} {base : List String}
    (hsubject : Proper subjectID) (hwidth : width ≠ "" ∧ Plain width) :
    hasPrefix (render root (resolved root base subjectID ".." ".." width))
        (render root (base ++ [subjectID] ++ ["tessera"])) = true ↔
      hasPrefix width "tessera" = true := by
  rw [resolved_eq, foldl_climb]
  by_cases hdot : width = "."
  · rw [hdot, step_dot, List.reverse_cons, List.reverse_reverse,
      not_hasPrefix_ledger]
    decide
  by_cases hup : width = ".."
  · rw [hup, step_up hsubject, List.reverse_reverse, not_hasPrefix_base]
    decide
  · rw [step_proper ⟨hwidth.1, hdot, hup, hwidth.2⟩]
    simp only [List.reverse_cons, List.reverse_reverse]
    have hnames : base ++ [subjectID] ≠ [] := by simp
    rw [render_append hnames (List.cons_ne_nil _ _),
      render_append hnames (List.cons_ne_nil _ _),
      hasPrefix_append_append, joined, joined,
      String.intercalate_singleton, String.intercalate_singleton]

/-- Two segments `..` and a third one that the comparison lets through name a
sibling of the storage directory. -/
theorem resolved_climb (root : Bool) (base : List String)
    (subjectID : SubjectID) (hwidth : width ≠ "" ∧ Plain width)
    (hstarts : hasPrefix width "tessera" = true) :
    resolved root base subjectID ".." ".." width =
      base ++ [subjectID] ++ [width] := by
  have hdot : width ≠ "." := by
    rintro rfl
    cases hstarts
  have hup : width ≠ ".." := by
    rintro rfl
    cases hstarts
  rw [resolved_eq, foldl_climb, step_proper ⟨hwidth.1, hdot, hup, hwidth.2⟩]
  simp only [List.reverse_cons, List.reverse_reverse]

theorem dots_plain : ".." ≠ "" ∧ Plain ".." :=
  ⟨by decide, by unfold Plain; decide⟩

section

variable (hsubject : ValidSubjectID subjectID)

include hsubject

theorem exists_statted_climb_iff (hwidth : width ≠ "" ∧ Plain width) :
    (∃ path, stattedPath server subjectID (tileFile ".." ".." width) =
        some path) ↔
      (server.locker.getLedger subjectID).isSome = true ∧
        hasPrefix width "tessera" = true := by
  obtain ⟨root, base, hstatted, -⟩ :=
    exists_resolved server hsubject dots_plain dots_plain hwidth
  simp only [hstatted, hasPrefix_climb_iff (fileName_of_valid hsubject).proper
    hwidth, exists_and_left, exists_eq', and_true]

theorem within_statted_climb_iff (hwidth : width ≠ "" ∧ Plain width)
    (hstatted : stattedPath server subjectID (tileFile ".." ".." width) =
      some path) :
    Within (server.tesseraStoragePath subjectID) (clean path) ↔
      width = "tessera" := by
  have hstarts := ((exists_statted_climb_iff hsubject hwidth).mp
    ⟨path, hstatted⟩).2
  obtain ⟨root, base, hiff, hwithin⟩ :=
    exists_resolved server hsubject dots_plain dots_plain hwidth
  obtain ⟨-, -, rfl⟩ := (hiff path).mp hstatted
  rw [hwithin, resolved_climb root base subjectID hwidth hstarts,
    List.prefix_append_right_inj]
  simp [eq_comm]

section

variable (hlevel : level ≠ "" ∧ Plain level) (hindex : index ≠ "" ∧ Plain index)
  (hwidth : width ≠ "" ∧ Plain width)

include hlevel hindex hwidth

/-- All other segments stay in the directory. -/
theorem within_statted_of_not_climb (hclimb : ¬ (level = ".." ∧ index = ".."))
    (hstatted : stattedPath server subjectID (tileFile level index width) =
      some path) :
    Within (server.tesseraStoragePath subjectID) (clean path) := by
  obtain ⟨root, base, hiff, hwithin⟩ :=
    exists_resolved server hsubject hlevel hindex hwidth
  obtain ⟨-, hstarts, rfl⟩ := (hiff path).mp hstatted
  rw [hwithin]
  rw [resolved_eq] at hstarts ⊢
  rcases foldl_inside_or_parent root (subjectID :: base.reverse) hlevel hindex
    hwidth hclimb with ⟨extra, hinside⟩ | hparent
  · rw [hinside]
    simp
  · rw [hparent, List.reverse_cons, List.reverse_reverse,
      not_hasPrefix_ledger] at hstarts
    cases hstarts

theorem within_statted_iff
    (hstatted : stattedPath server subjectID (tileFile level index width) =
      some path) :
    Within (server.tesseraStoragePath subjectID) (clean path) ↔
      ¬ (level = ".." ∧ index = ".." ∧ width ≠ "tessera") := by
  by_cases hclimb : level = ".." ∧ index = ".."
  · obtain ⟨rfl, rfl⟩ := hclimb
    rw [within_statted_climb_iff hsubject hwidth hstatted]
    simp
  · have hwithin := within_statted_of_not_climb hsubject hlevel hindex hwidth
      hclimb hstatted
    exact iff_of_true hwithin fun hall => hclimb ⟨hall.1, hall.2.1⟩

end

end

/-- Every path that is looked up for a tile lies in the storage directory,
apart from siblings of it.  These are reached by two segments `..` and a third
one that is longer than the name of the directory and begins with it, whenever
the subject has a ledger. -/
theorem statted_tile_within_iff (hsubject : ValidSubjectID subjectID)
    (hlevel : tilePathSegment.matchString level = true)
    (hindex : tilePathSegment.matchString index = true)
    (hwidth : tilePathSegment.matchString width = true) :
    (∀ path, stattedPath server subjectID (tileFile level index width) =
        some path →
      (Within (server.tesseraStoragePath subjectID) (clean path) ↔
        ¬ (level = ".." ∧ index = ".." ∧ width ≠ "tessera"))) ∧
    ((∃ path, stattedPath server subjectID (tileFile level index width) =
        some path ∧
      ¬ Within (server.tesseraStoragePath subjectID) (clean path)) ↔
        (server.locker.getLedger subjectID).isSome = true ∧
        level = ".." ∧ index = ".." ∧
        hasPrefix width "tessera" = true ∧ width ≠ "tessera") := by
  have hplain := plain_of_tilePathSegment hwidth
  have hwithin : ∀ path,
      stattedPath server subjectID (tileFile level index width) = some path →
      (Within (server.tesseraStoragePath subjectID) (clean path) ↔
        ¬ (level = ".." ∧ index = ".." ∧ width ≠ "tessera")) :=
    fun path => within_statted_iff hsubject (plain_of_tilePathSegment hlevel)
      (plain_of_tilePathSegment hindex) hplain
  refine ⟨hwithin, ?_, ?_⟩
  · rintro ⟨path, hstatted, hnot⟩
    rw [hwithin path hstatted, not_not] at hnot
    obtain ⟨rfl, rfl, hother⟩ := hnot
    obtain ⟨hledger, hstarts⟩ :=
      (exists_statted_climb_iff hsubject hplain).mp ⟨path, hstatted⟩
    exact ⟨hledger, rfl, rfl, hstarts, hother⟩
  · rintro ⟨hledger, rfl, rfl, hstarts, hother⟩
    obtain ⟨path, hstatted⟩ :=
      (exists_statted_climb_iff hsubject hplain).mpr ⟨hledger, hstarts⟩
    refine ⟨path, hstatted, ?_⟩
    rw [hwithin path hstatted, not_not]
    exact ⟨rfl, rfl, hother⟩

/-! ## What is sent -/

theorem containsDotDot_of_segments (before after : List String)
    (hbefore : before ≠ []) (hafter : after ≠ [])
    (hsegments : segments request.path = before ++ [".."] ++ after) :
    containsDotDot request.path = true := by
  have hpath : request.path.toList =
      (joined before).toList ++ '/' ::
        (['.', '.'] ++ '/' :: (joined after).toList) := by
    rw [← joined_segments request.path, hsegments, List.append_assoc,
      joined_append hbefore (by simp), joined_append (by simp) hafter]
    simp [joined]
  have hdots : ∀ character ∈ ['.', '.'],
      (character == '/' || character == '\\') = false := by simp
  rw [containsDotDot, hpath, List.splitOnP_append_cons _ _ rfl,
    List.splitOnP_append_cons_of_forall_mem hdots _ rfl]
  simp

/-- A file is sent only if its path is looked up and the request names no
parent directory. -/
theorem of_serveTesseraFile_eq_content {filePath : String}
    {contentType : String} {data : Bytes}
    (hcontent : serveTesseraFile server request subjectID filePath =
      .content contentType data) :
    containsDotDot request.path = false ∧
      ∃ path, stattedPath server subjectID filePath = some path := by
  cases hstatted : stattedPath server subjectID filePath with
  | none =>
    obtain ⟨status, message, hrefused⟩ :
        ∃ status message, ∀ files,
          serveTesseraFile { server with files := files } request subjectID
            filePath = .error status message :=
      serveTesseraFile_of_not_statted hstatted
    rw [hrefused server.files] at hcontent
    cases hcontent
  | some path =>
    rw [serveTesseraFile_of_statted hstatted] at hcontent
    refine ⟨?_, path, rfl⟩
    rw [Bool.eq_false_iff]
    intro hdots
    cases hfile : server.files path with
    | file data =>
      rw [hfile, answerFile, serveFile, if_pos hdots] at hcontent
      cases hcontent
    | _ =>
      rw [hfile] at hcontent
      cases hcontent

/-- A tile that is sent lies in the storage directory: `ServeFile` refuses the
requests that the comparison lets through by mistake. -/
theorem exists_within_of_getTile_eq_content {request : Request}
    {contentType : String} {data : Bytes}
    (hsubject : ValidSubjectID subjectID)
    (hlevel : tilePathSegment.matchString level = true)
    (hindex : tilePathSegment.matchString index = true)
    (hwidth : tilePathSegment.matchString width = true)
    (hsegments : segments request.path =
      ["", "ledgers", subjectID, "tile", level, index, width])
    (hcontent : getTile server request subjectID level index width =
      .content contentType data) :
    ∃ path, stattedPath server subjectID (tileFile level index width) =
        some path ∧
      Within (server.tesseraStoragePath subjectID) (clean path) := by
  rw [getTile_eq hsubject hlevel hindex hwidth] at hcontent
  obtain ⟨hdots, path, hstatted⟩ := of_serveTesseraFile_eq_content hcontent
  refine ⟨path, hstatted, within_statted_of_not_climb hsubject
    (plain_of_tilePathSegment hlevel) (plain_of_tilePathSegment hindex)
    (plain_of_tilePathSegment hwidth) ?_ hstatted⟩
  rintro ⟨rfl, -⟩
  have hcontains := containsDotDot_of_segments
    ["", "ledgers", subjectID, "tile"] [index, width] (List.cons_ne_nil _ _)
    (List.cons_ne_nil _ _) hsegments
  rw [hcontains] at hdots
  cases hdots

end Containment

/-! ## A sibling of the storage directory -/

/-- A locker under `/data`, with a file beside the storage directory of one of
its ledgers. -/
def siblingServer : Server where
  basePath := "/data"
  locker := ⟨fun _ => some [], fun _ => some ⟨DigestIndex.empty⟩⟩
  files := fun path =>
    if path = "/data/payments/tessera.bak" then .file [1] else .missing

theorem sent_tile_within :
    ∃ path, stattedPath { siblingServer with files := fun _ => .file [1] }
        "payments" (tileFile "0" "x001" "067") = some path ∧
      Within (siblingServer.tesseraStoragePath "payments") (clean path) := by
  have hsubject : ValidSubjectID "payments" := by decide
  have hsent : getTile { siblingServer with files := fun _ => .file [1] }
      ⟨"/ledgers/payments/tile/0/x001/067", ""⟩ "payments" "0" "x001" "067" =
        .content "application/octet-stream" [1] := by decide +kernel
  exact exists_within_of_getTile_eq_content hsubject (by decide) (by decide)
    (by decide) (by decide) hsent

theorem tile_within_storage :
    Within (siblingServer.tesseraStoragePath "payments")
      (clean "/data/payments/tessera/tile/2") := by
  have hstatted : stattedPath siblingServer "payments"
      (tileFile "0" ".." "2") = some "/data/payments/tessera/tile/2" := by
    decide
  have hsubject : ValidSubjectID "payments" := by decide
  exact ((statted_tile_within_iff hsubject (by decide) (by decide)
    (by decide)).1 _ hstatted).mpr (by decide)

/-- The file beside the directory is looked up, and the answer tells whether it
exists. -/
theorem sibling_statted :
    stattedPath siblingServer "payments" (tileFile ".." ".." "tessera.bak") =
      some "/data/payments/tessera.bak" ∧
    ¬ Within (siblingServer.tesseraStoragePath "payments")
      (clean "/data/payments/tessera.bak") ∧
    getTile siblingServer ⟨"/ledgers/payments/tile/../../tessera.bak", ""⟩
      "payments" ".." ".." "tessera.bak" = .error 400 "invalid URL path" ∧
    getTile siblingServer ⟨"/ledgers/payments/tile/../../tessera.old", ""⟩
      "payments" ".." ".." "tessera.old" = .error 404 "file not found" := by
  decide +kernel

end ComplyTime.TileServer
