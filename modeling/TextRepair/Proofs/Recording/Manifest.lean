import TextRepair.Proofs.Json.Written
import TextRepair.Proofs.Recording.Files
import TextRepair.Proofs.Recording.Order
import Mathlib.Data.List.Nodup

/-!
# The manifest of a recorded session

A session whose directory is new (`Recording.IsFresh`) is recorded without a failure, and its manifest has one
entry for each cycle and then one for the result, each with the digest of what stands in the file
(`Recording.recordSession_manifest`). The cycles stand in the order of the names of their files, which is their
own order as long as there are less than a thousand.

The manifest on disk is told by its text (`Recording.Shows`), which no manifest with other entries has since no
floating-point number is in it (`Manifest.files_eq_of_pretty_eq`). The names in the directory are a
rearrangement of those that were written, in order, so the cycle files among them are the images of the cycles
in one order (`Stores.exists_ordered`).
-/

namespace TextRepair

open FileTree

namespace Manifest

theorem isExact_toJson (m : Manifest) : m.toJson.IsExact := by
  have hentry : ∀ entry ∈ m.files.map ManifestEntry.toJson, entry.IsExact := by
    refine List.forall_mem_map.mpr fun entry _ => .object ?_
    simp [Json.IsExact.text]
  refine .object ?_
  simp only [List.forall_mem_cons, List.not_mem_nil, false_implies, implies_true, and_true]
  exact ⟨.text _, .text _, .int _, .list hentry, .text _⟩

theorem files_eq_of_pretty_eq {m m' : Manifest} (h : m.toJson.pretty = m'.toJson.pretty) :
    m.files = m'.files := by
  have hentry : Function.Injective ManifestEntry.toJson := by
    rintro ⟨file, digest⟩ ⟨file', digest'⟩ heq
    simpa [ManifestEntry.toJson] using heq
  have hvalues := Json.pretty_injective m.isExact_toJson m'.isExact_toJson h
  simp only [toJson, Json.listOf, Json.object.injEq, List.cons.injEq, Prod.mk.injEq, Json.list.injEq, true_and]
    at hvalues
  exact List.map_injective_iff.mpr hentry hvalues.2.2.2.1

end Manifest

namespace Recording

/-! ### Sessions and manifests -/

/-- A file and its digest. -/
def manifestEntry (file : String × String) : ManifestEntry where
  file := file.1
  digest := Digest.ofText file.2

/-- The files of the cycles and of the result. -/
def sessionFiles (cycles : List Cycle) (result : SessionResult) : List (String × String) :=
  cycles.map cycleFile ++ [(resultName, result.toJson.pretty)]

/-- The entries of these files. -/
def sessionEntries (cycles : List Cycle) (result : SessionResult) : List ManifestEntry :=
  (sessionFiles cycles result).map manifestEntry

/-- The cycles in the order in which their files are listed. -/
structure IsListing (cycles ordered : List Cycle) : Prop where
  perm : ordered.Perm cycles
  sorted : ordered.Pairwise fun a b => ListedBefore a.index b.index

/-- Records the cycles of a session one after the other, and then its result. -/
def recordSession (r : Recording) (now : Timestamp) (cycles : List Cycle) (result : SessionResult) :
    OnFiles Unit := do
  cycles.forM (r.recordCycle result.sessionId)
  r.recordResult now result

/-- The directory of a session can be made, and nothing is in it. -/
def IsFresh (r : Recording) (id : String) (t : FileTree) : Prop :=
  ∃ made p, t.makeDirs r.cwd (r.directory id) = .ok made ∧ made.resolve r.cwd (r.directory id) = .ok p ∧
    made.node? p = some .directory ∧ made.names p = []

/-- The manifest on disk. -/
def Shows (r : Recording) (id : String) (t : FileTree) (m : Manifest) : Prop :=
  t.read r.cwd (r.fileName id "manifest.json") = .ok m.toJson.pretty.toUTF8

theorem Shows.files_eq {r : Recording} {id : String} {t : FileTree} {m m' : Manifest} (h : r.Shows id t m)
    (h' : r.Shows id t m') : m.files = m'.files :=
  Manifest.files_eq_of_pretty_eq (String.toByteArray_inj.mp (Except.ok.inj (h.symm.trans h')))

/-- The manifest of a session, with the cycles in the given order. -/
def manifestOf (now : Timestamp) (cycles : List Cycle) (result : SessionResult) : Manifest where
  sessionId := result.sessionId
  outcome := result.outcome.name
  cyclesUsed := result.cyclesUsed
  files := sessionEntries cycles result
  writtenAt := now

/-! ### The order of the cycles -/

variable {r : Recording} {id name text : String} {p : Path} {files : List (String × String)} {t : FileTree}

theorem exists_perm_of_perm_map {α β : Type} {f : α → β} {as : List α} {bs : List β}
    (h : bs.Perm (as.map f)) : ∃ as' : List α, as'.Perm as ∧ bs = as'.map f := by
  induction bs generalizing as with
  | nil => exact ⟨[], by rw [List.map_eq_nil_iff.mp h.nil_eq.symm], rfl⟩
  | cons b bs ih =>
    obtain ⟨a, ha, rfl⟩ := List.mem_map.mp (h.mem_iff.mp List.mem_cons_self)
    obtain ⟨front, back, rfl⟩ := List.append_of_mem ha
    rw [List.map_append, List.map_cons] at h
    have hrest : bs.Perm ((front ++ back).map f) := by
      rw [List.map_append]
      exact (h.trans List.perm_middle).cons_inv
    obtain ⟨as', hperm, rfl⟩ := ih hrest
    exact ⟨a :: as', (hperm.cons a).trans List.perm_middle.symm, rfl⟩

theorem Stores.exists_ordered {cycles : List Cycle} (h : r.Stores id p files t)
    (hfiles : (files.map Prod.fst).filter isCycleName = cycles.map (cycleName ·.index))
    (hnodup : (cycles.map (cycleName ·.index)).Nodup) :
    ∃ ordered, IsListing cycles ordered ∧
      (t.names p).filter isCycleName = ordered.map (cycleName ·.index) := by
  have hperm : ((t.names p).filter isCycleName).Perm (cycles.map (cycleName ·.index)) :=
    hfiles ▸ h.names.filter _
  have hsorted : ((t.names p).filter isCycleName).Pairwise (· < ·) := by
    refine (((pairwise_names t p).filter _).and (hperm.nodup_iff.mpr hnodup)).imp fun hab => ?_
    by_contra hlt
    exact hab.2 (String.le_antisymm hab.1 (String.not_lt.mp hlt))
  obtain ⟨ordered, hordered, hnames⟩ := exists_perm_of_perm_map hperm
  rw [hnames, List.pairwise_map] at hsorted
  exact ⟨ordered, ⟨hordered, hsorted.imp cycleName_lt_iff.mp⟩, hnames⟩

theorem filter_isCycleName (cycles : List Cycle) {more : List (String × String)}
    (hmore : ∀ file ∈ more, isCycleName file.1 = false) :
    ((cycles.map cycleFile ++ more).map Prod.fst).filter isCycleName = cycles.map (cycleName ·.index) := by
  rw [List.map_append, map_fst_cycleFile, List.filter_append,
    List.filter_eq_self.mpr (List.forall_mem_map.mpr fun cycle _ => isCycleName_cycleName cycle.index),
    List.filter_eq_nil_iff.mpr (List.forall_mem_map.mpr fun file hfile => by simp [hmore file hfile]),
    List.append_nil]

/-! ### The result -/

theorem isPlain_resultName : IsPlain resultName :=
  ⟨by decide, by decide⟩

theorem Stores.writeOther {cycles : List Cycle} {more : List (String × String)}
    (h : r.Stores id p (cycles.map cycleFile ++ more) t) (hplain : IsPlain name)
    (hname : isCycleName name = false) (hmore : name ∉ more.map Prod.fst) (text : String) :
    ∃ t', (r.writeFile id name text).run t = (.ok (), t') ∧
      r.Stores id p (cycles.map cycleFile ++ (more ++ [(name, text)])) t' := by
  rw [← List.append_assoc]
  refine h.writeFile hplain ?_ text
  rw [List.map_append, map_fst_cycleFile, List.mem_append, not_or]
  refine ⟨fun hmem => ?_, hmore⟩
  obtain ⟨cycle, -, rfl⟩ := List.mem_map.mp hmem
  rw [isCycleName_cycleName] at hname
  cases hname

theorem Stores.entryOf (h : r.Stores id p files t) (hname : IsPlain name) (hfile : (name, text) ∈ files) :
    r.entryOf id name t = .ok (manifestEntry (name, text)) := by
  rw [Recording.entryOf, h.read hname hfile]
  rfl

theorem run_mapM_look {α β γ : Type} {f : β → FileTree → Except FileError γ} {name : α → β}
    {g : α → γ} {as : List α} (h : ∀ a ∈ as, f (name a) t = .ok (g a)) :
    ((as.map name).mapM fun b => look (f b)).run t = (.ok (as.map g), t) := by
  induction as with
  | nil => rfl
  | cons a as ih =>
    rw [List.forall_mem_cons] at h
    rw [List.map_cons, List.mapM_cons, run_bind_ok (run_look h.1), run_bind_ok (ih h.2)]
    rfl

/-- The files in the directory of a recorded session, with the cycles in the order of the manifest. -/
def recordedFiles (now : Timestamp) (cycles ordered : List Cycle) (result : SessionResult) :
    List (String × String) :=
  cycles.map cycleFile ++ [(resultName, result.toJson.pretty),
    ("result.digest", Digest.ofText result.toJson.pretty),
    ("manifest.json", (manifestOf now ordered result).toJson.pretty)]

theorem Stores.shows {now : Timestamp} {cycles ordered : List Cycle} {result : SessionResult}
    (h : r.Stores id p (recordedFiles now cycles ordered result) t) :
    r.Shows id t (manifestOf now ordered result) :=
  h.read ⟨by decide, by decide⟩ (by simp [recordedFiles])

theorem Prepared.recordResult {cycles : List Cycle} {result : SessionResult}
    (h : r.Prepared result.sessionId p (cycles.map cycleFile) t)
    (hnodup : (cycles.map (cycleName ·.index)).Nodup) (now : Timestamp) :
    ∃ t' ordered, (r.recordResult now result).run t = (.ok (), t') ∧ IsListing cycles ordered ∧
      r.Stores result.sessionId p (recordedFiles now cycles ordered result) t' := by
  have hresult : isCycleName resultName = false := isCycleName_eq_false (by decide)
  have hdigest : isCycleName "result.digest" = false := isCycleName_eq_false (by decide)
  have hmanifest : isCycleName "manifest.json" = false := isCycleName_eq_false (by decide)
  have hplain : IsPlain resultName ∧ IsPlain "result.digest" ∧ IsPlain "manifest.json" :=
    ⟨isPlain_resultName, ⟨by decide, by decide⟩, ⟨by decide, by decide⟩⟩
  obtain ⟨made, hmake, hmade⟩ := h
  rw [← List.append_nil (cycles.map cycleFile)] at hmade
  obtain ⟨t₁, hrun₁, ht₁⟩ := hmade.writeOther hplain.1 hresult List.not_mem_nil result.toJson.pretty
  obtain ⟨t₂, hrun₂, ht₂⟩ := ht₁.writeOther hplain.2.1 hdigest
    (by simp [resultName]) (Digest.ofText result.toJson.pretty)
  obtain ⟨ordered, hlisting, hnames⟩ :=
    ht₂.exists_ordered (filter_isCycleName cycles (by simp [hresult, hdigest])) hnodup
  obtain ⟨t₃, hrun₃, ht₃⟩ := ht₂.writeOther hplain.2.2 hmanifest
    (by simp [resultName]) (manifestOf now ordered result).toJson.pretty
  have hlist : r.namesIn result.sessionId t₂ = .ok (t₂.names p) := by
    rw [namesIn, ht₂.resolve]
    rfl
  have hentries : ∀ cycle ∈ ordered, r.entryOf result.sessionId (cycleName cycle.index) t₂ =
      .ok (manifestEntry (cycleFile cycle)) := by
    intro cycle hcycle
    have hfile := List.mem_map_of_mem (f := cycleFile) (hlisting.perm.mem_iff.mp hcycle)
    exact ht₂.entryOf (isPlain_cycleName cycle.index) (List.mem_append_left _ hfile)
  refine ⟨t₃, ordered, ?_, hlisting, ht₃⟩
  have hmanifestOf : (manifestOf now ordered result).files =
      ordered.map (fun cycle => manifestEntry (cycleFile cycle)) ++
        [⟨resultName, Digest.ofText result.toJson.pretty⟩] := by
    rw [manifestOf, sessionEntries, sessionFiles, List.map_append, List.map_map]
    rfl
  unfold Recording.recordResult
  dsimp only
  rw [run_bind_ok (run_change hmake), run_bind_ok hrun₁, run_bind_ok hrun₂,
    run_bind_ok (run_look hlist), hnames, run_bind_ok (run_mapM_look hentries), ← hmanifestOf]
  exact hrun₃

/-! ### Recording a session -/

theorem nodup_cycleNames {cycles : List Cycle} {n : Nat} (hindex : cycles.map Cycle.index = List.range' 1 n) :
    (cycles.map (cycleName ·.index)).Nodup := by
  have hnames : cycles.map (cycleName ·.index) = (List.range' 1 n).map cycleName := by
    rw [← hindex, List.map_map]
    rfl
  rw [hnames]
  exact List.Nodup.map (fun _ _ => cycleName_injective) List.nodup_range'

theorem map_file_sessionEntries (cycles : List Cycle) (result : SessionResult) :
    (sessionEntries cycles result).map ManifestEntry.file =
      cycles.map (cycleName ·.index) ++ [resultName] := by
  rw [sessionEntries, sessionFiles, List.map_append, List.map_append, List.map_map, List.map_map]
  rfl

theorem IsListing.sessionEntries_eq_iff {cycles ordered : List Cycle} {n : Nat}
    (h : IsListing cycles ordered) (hindex : cycles.map Cycle.index = List.range' 1 n)
    (result : SessionResult) :
    sessionEntries ordered result = sessionEntries cycles result ↔ n < 1000 := by
  have hcycles : cycles.Pairwise (fun a b => ListedBefore a.index b.index) ↔ n < 1000 := by
    rw [← pairwise_listedBefore_range', ← hindex, List.pairwise_map]
  rw [← hcycles]
  constructor
  · intro hentries
    have hnames := congrArg (List.map ManifestEntry.file) hentries
    rw [map_file_sessionEntries, map_file_sessionEntries, List.append_cancel_right_eq] at hnames
    have hordered := List.pairwise_map.mpr (h.sorted.imp cycleName_lt_iff.mpr)
    rw [hnames] at hordered
    exact (List.pairwise_map.mp hordered).imp cycleName_lt_iff.mp
  · intro hsame
    rw [h.perm.eq_of_pairwise (fun a b _ _ hab hba => absurd hba hab.asymm) h.sorted hsame]

/-- A session in a new directory is recorded, and nothing but its files is in the directory. -/
theorem recordSession_stores {cycles : List Cycle} {result : SessionResult} {tree : FileTree} {n : Nat}
    (hfresh : r.IsFresh result.sessionId tree) (hindex : cycles.map Cycle.index = List.range' 1 n)
    (now : Timestamp) :
    ∃ tree' p ordered, (r.recordSession now cycles result).run tree = (.ok (), tree') ∧
      IsListing cycles ordered ∧
      r.Stores result.sessionId p (recordedFiles now cycles ordered result) tree' := by
  obtain ⟨made, p, hmake, hresolve, hdirectory, hnames⟩ := hfresh
  have hprepared : r.Prepared result.sessionId p [] tree :=
    ⟨made, hmake, hresolve, hdirectory, by rw [hnames, List.map_nil], fun _ h => absurd h List.not_mem_nil⟩
  have hnodup := nodup_cycleNames hindex
  obtain ⟨middle, hcycles, hmiddle⟩ := hprepared.recordCycles cycles hnodup
  obtain ⟨tree', ordered, hresult, hlisting, hstores⟩ := hmiddle.recordResult hnodup now
  refine ⟨tree', p, ordered, ?_, hlisting, hstores⟩
  rw [recordSession, run_bind_ok hcycles, hresult]

/-- What is recorded of a session in a new directory: its manifest has the cycles in the order of the names of
their files, and behind them the result, with the digests of the texts that can be read back. It has the cycles
in their own order if and only if there are less than a thousand. -/
theorem recordSession_manifest (r : Recording) (now : Timestamp) (cycles : List Cycle)
    (result : SessionResult) (tree : FileTree) (n : Nat) (hfresh : r.IsFresh result.sessionId tree)
    (hindex : cycles.map Cycle.index = List.range' 1 n) :
    ∃ tree' ordered, (r.recordSession now cycles result).run tree = (.ok (), tree') ∧
      IsListing cycles ordered ∧
      (∃ m, r.Shows result.sessionId tree' m) ∧
      (∀ m, r.Shows result.sessionId tree' m →
        m.files = sessionEntries ordered result ∧
        (m.files = sessionEntries cycles result ↔ n < 1000)) ∧
      ∀ file ∈ sessionFiles cycles result,
        tree'.read r.cwd (r.fileName result.sessionId file.1) = .ok file.2.toUTF8 := by
  obtain ⟨tree', p, ordered, hrun, hlisting, hstores⟩ := recordSession_stores hfresh hindex now
  have hshown := hstores.shows
  refine ⟨tree', ordered, hrun, hlisting, ⟨_, hshown⟩, fun m hm => ?_, fun file hfile => ?_⟩
  · have hfiles : m.files = sessionEntries ordered result := hm.files_eq hshown
    rw [hfiles]
    exact ⟨rfl, hlisting.sessionEntries_eq_iff hindex result⟩
  · rw [sessionFiles, List.mem_append, List.mem_singleton] at hfile
    rcases hfile with hfile | rfl
    · obtain ⟨cycle, -, rfl⟩ := List.mem_map.mp hfile
      exact hstores.read (isPlain_cycleName cycle.index) (List.mem_append_left _ hfile)
    · exact hstores.read isPlain_resultName (by simp [recordedFiles])

/-! ### Two recorded sessions -/

/-- A recording below `rec`. -/
def scratch : Recording where
  cwd := []
  root := "rec"

/-- Cycles in which nothing happens. -/
def idleCycles (n : Nat) : List Cycle :=
  (List.range' 1 n).map (Cycle.start · default)

/-- The result of a session with nothing but such cycles. -/
def idleResult (n : Nat) : SessionResult where
  sessionId := "s"
  outcome := .exhausted
  cyclesUsed := n
  document := default
  history := idleCycles n
  startedAt := default
  finishedAt := default

theorem map_index_idleCycles (n : Nat) : (idleCycles n).map Cycle.index = List.range' 1 n := by
  rw [idleCycles, List.map_map]
  exact List.map_id _

theorem isFresh_scratch : scratch.IsFresh "s" ⟨[]⟩ := by
  have hdirectory : scratch.directory "s" = "rec/s" := by decide +kernel
  have hparts : parts "rec/s" = ["rec", "s"] := by decide
  have horigin : origin [] "rec/s" = [] := by rw [origin, ite_self]
  refine ⟨⟨[(["rec"], .directory), (["rec", "s"], .directory)]⟩, ["rec", "s"], ?_, ?_, rfl, ?_⟩
  · rw [hdirectory]
    show makeDirsFrom _ (origin [] "rec/s") (parts "rec/s") = _
    rw [horigin, hparts]
    rfl
  · rw [hdirectory, resolve_eq_walk (by decide)]
    show walk _ (origin [] "rec/s") _ = _
    rw [horigin, hparts]
    rfl
  · decide +kernel

/-- Two cycles are listed in their order. -/
theorem recordSession_manifest_twoCycles :
    ∃ tree', (scratch.recordSession default (idleCycles 2) (idleResult 2)).run ⟨[]⟩ = (.ok (), tree') ∧
      (∃ m, scratch.Shows "s" tree' m) ∧
      ∀ m, scratch.Shows "s" tree' m → m.files = sessionEntries (idleCycles 2) (idleResult 2) := by
  obtain ⟨tree', ordered, hrun, -, hshown, hfiles, -⟩ :=
    recordSession_manifest scratch default (idleCycles 2) (idleResult 2) ⟨[]⟩ 2 isFresh_scratch
      (map_index_idleCycles 2)
  exact ⟨tree', hrun, hshown, fun m hm => (hfiles m hm).2.mpr (by decide)⟩

/-- A thousand cycles are recorded, but not listed in their order. -/
theorem not_manifest_inOrder :
    scratch.IsFresh "s" ⟨[]⟩ ∧ (idleCycles 1000).map Cycle.index = List.range' 1 1000 ∧
      ∃ tree',
        (scratch.recordSession default (idleCycles 1000) (idleResult 1000)).run ⟨[]⟩ = (.ok (), tree') ∧
        (∃ m, scratch.Shows "s" tree' m) ∧
        ∀ m, scratch.Shows "s" tree' m →
          m.files ≠ sessionEntries (idleCycles 1000) (idleResult 1000) := by
  have hfresh : scratch.IsFresh (idleResult 1000).sessionId ⟨[]⟩ := isFresh_scratch
  have hindex := map_index_idleCycles 1000
  obtain ⟨tree', p, ordered, hrun, hlisting, hstores⟩ := recordSession_stores hfresh hindex default
  refine ⟨hfresh, hindex, tree', hrun, ⟨_, hstores.shows⟩, fun m hm hfiles => ?_⟩
  have hentries : sessionEntries ordered (idleResult 1000) =
      sessionEntries (idleCycles 1000) (idleResult 1000) :=
    (hstores.shows.files_eq hm).trans hfiles
  exact Nat.lt_irrefl 1000 ((hlisting.sessionEntries_eq_iff hindex _).mp hentries)

end Recording

end TextRepair
