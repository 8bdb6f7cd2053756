import Mathlib
import EmbeddedPixel.Host.TelemetryViews

/-!
# The store of views (`scripts/telemetry_views.py`, `TelemetryViewManager`)

Views are files in a working directory and in the search directories, of which the first is the one that
`save_view` writes to.  A directory maps names to what lies under them; names are those that lead to an entry
of the directory itself (`FileName`).  JSON is read as the data that was written; `upper` is that of Python.

`load_saves`: what `load_view` returns after any series of saves.  `list_agrees`: what `list_views` lists, from
which directory, and when `load_view` opens the file that is listed.
-/

set_option autoImplicit false

namespace EmbeddedPixel.TelemetryViews

/-- What lies under a name: `none` is a text that is not JSON. -/
inductive Entry where
  | directory
  | text (data : Option Json)

abbrev Dir := AList fun _ : List Char => Entry

/-- A name that is one part of a path. -/
structure FileName where
  text : List Char
  ne_nil : text ≠ []
  not_dots : text ≠ ['.'] ∧ text ≠ ['.', '.']
  plain : '/' ∉ text

/-- A view whose file lies in the directory it is saved to. -/
structure NamedView extends ViewConfig where
  plain : '/' ∉ toViewConfig.name

/-- `f"{name}.json"` -/
def jsonName (name : List Char) : List Char := name ++ ".json".toList

/-- `json_file.stem`, of a name that ends in `.json`. -/
def stem (file : List Char) : List Char :=
  if file.length ≤ 5 then file else file.take (file.length - 5)

/-- The working directory and the search directories. -/
structure ViewStore where
  cwd : Dir
  first : Dir
  rest : List Dir

/-- A file in the working directory (`none`) or in a search directory. -/
structure ViewPath where
  dir : Option Nat
  file : List Char
  deriving DecidableEq, Repr

/-- How `load_view` fails. -/
inductive LoadError where
  /-- `FileNotFoundError` -/
  | notFound
  /-- of `open`, `json.load` or `from_dict` -/
  | unreadable
  deriving DecidableEq, Repr

/-- A row of `list_views`; `description` is `none` for the text of an exception. -/
structure ViewSummary where
  name : Json
  description : Option Json
  streamCount : Nat
  streams : List Json
  path : ViewPath

namespace ViewStore

def searchDirs (s : ViewStore) : List Dir := s.first :: s.rest

/-- The entry of a path. -/
def entry (s : ViewStore) (path : ViewPath) : Option Entry :=
  match path.dir with
  | none => s.cwd.lookup path.file
  | some i => s.searchDirs[i]?.bind fun d => d.lookup path.file

/-- The loop of `find_view_path`, from the directory with number `i` on. -/
def findFrom (name : List Char) : (i : Nat) → List Dir → Option ViewPath
  | _, [] => none
  | i, d :: ds =>
    if jsonName name ∈ d then some ⟨some i, jsonName name⟩
    else if name ∈ d then some ⟨some i, name⟩
    else findFrom name (i + 1) ds

/-- `find_view_path` -/
def findViewPath (s : ViewStore) (name : FileName) : Option ViewPath :=
  if name.text ∈ s.cwd then some ⟨none, name.text⟩ else findFrom name.text 0 s.searchDirs

section Files

variable (upper : List Char → List Char)

/-- `open`, `json.load` and `from_dict`. -/
def readView : Option Entry → Except LoadError ViewConfig
  | some (.text (some (.dict data))) =>
    match ViewConfig.fromDict upper data with
    | some view => .ok view
    | none => .error .unreadable
  | _ => .error .unreadable

/-- `load_view` -/
def loadView (s : ViewStore) (name : FileName) : Except LoadError ViewConfig :=
  match s.findViewPath name with
  | none => .error .notFound
  | some path => readView upper (s.entry path)

/-- `save_view`, without a `target_path`; `none` is a directory in its way. -/
def saveView (s : ViewStore) (view : NamedView) : Option ViewStore :=
  match s.first.lookup (jsonName view.name) with
  | some .directory => none
  | _ =>
    some { s with first := s.first.insert (jsonName view.name) (.text (some (.dict (view.toDict upper)))) }

/-- A series of saves. -/
def saves (s : ViewStore) (views : List NamedView) : Option ViewStore := views.foldlM (saveView upper) s

end Files

/-! ## Listing -/

/-- `sorted(directory.glob("*.json"))`, by name. -/
def glob (d : Dir) : List (List Char) := (d.keys.filter fun f => ".json".toList.isSuffixOf f).mergeSort

/-- `[s.get("tag", "") for s in streams]`; `none` is an exception. -/
def streamTags : Json → Option (List Json)
  | .list l => l.mapM fun s => s.asDict.map fun d => (d.lookup "tag").getD (.str [])
  | .str [] => some []
  | .dict [] => some []
  | _ => none

/-- The row of a file. -/
def summary (path : ViewPath) (e : Option Entry) : ViewSummary :=
  let unreadable : ViewSummary := ⟨.str (stem path.file), none, 0, [], path⟩
  match e with
  | some (.text (some (.dict data))) =>
    match streamTags ((data.lookup "streams").getD (.list [])) with
    | some tags =>
      ⟨(data.lookup "name").getD (.str (stem path.file)),
        some ((data.lookup "description").getD (.str [])), tags.length, tags, path⟩
    | none => unreadable
  | _ => unreadable

/-- The files of one directory that were not seen before, and the names seen then. -/
def unseen (i : Nat) (d : Dir) (seen : List (List Char)) : List ViewPath × List (List Char) :=
  (glob d).foldl
    (fun (acc : List ViewPath × List (List Char)) f =>
      if acc.2.contains f then acc else (acc.1 ++ [⟨some i, f⟩], f :: acc.2))
    ([], seen)

/-- The loop over the search directories, from number `i` on. -/
def listFrom : (i : Nat) → List Dir → (seen : List (List Char)) → List ViewPath
  | _, [], _ => []
  | i, d :: ds, seen => (unseen i d seen).1 ++ listFrom (i + 1) ds (unseen i d seen).2

/-- The paths that `list_views` lists. -/
def listPaths (s : ViewStore) : List ViewPath := listFrom 0 s.searchDirs []

/-- `list_views` -/
def listViews (s : ViewStore) : List ViewSummary := s.listPaths.map fun p => summary p (s.entry p)

/-! ## After saves -/

variable {upper : List Char → List Char} {s s' : ViewStore} {views : List NamedView}

/-- The last of the views that are saved to a file. -/
def lastSaved (views : List NamedView) (file : List Char) : Option NamedView :=
  views.reverse.find? fun v => jsonName v.name = file

/-- **One save.** -/
theorem saveView_eq {view : NamedView} (h : s.saveView upper view = some s') :
    s'.cwd = s.cwd ∧ s'.rest = s.rest ∧
      ∀ f, s'.first.lookup f =
        if jsonName view.name = f then some (.text (some (.dict (view.toDict upper))))
        else s.first.lookup f := by
  unfold saveView at h
  split at h
  · cases h
  · obtain rfl := Option.some.inj h
    refine ⟨rfl, rfl, fun f => ?_⟩
    by_cases hf : jsonName view.name = f
    · rw [if_pos hf, ← hf]
      exact AList.lookup_insert _
    · rw [if_neg hf]
      exact AList.lookup_insert_ne (Ne.symm hf)

/-- **A series of saves** leaves under each name what was saved there last. -/
theorem saves_eq (h : s.saves upper views = some s') :
    s'.cwd = s.cwd ∧ s'.rest = s.rest ∧
      ∀ f, s'.first.lookup f =
        match lastSaved views f with
        | some v => some (.text (some (.dict (v.toDict upper))))
        | none => s.first.lookup f := by
  induction views using List.reverseRecOn generalizing s' with
  | nil =>
      obtain rfl := Option.some.inj h
      exact ⟨rfl, rfl, fun f => rfl⟩
  | append_singleton views view ih =>
      unfold saves at h
      rw [List.foldlM_append] at h
      obtain ⟨t, ht, hlast⟩ := Option.bind_eq_some_iff.1 h
      have hlast : t.saveView upper view = some s' := by simpa using hlast
      obtain ⟨hcwd, hrest, hlookup⟩ := ih ht
      obtain ⟨hcwd', hrest', hlookup'⟩ := saveView_eq hlast
      refine ⟨hcwd'.trans hcwd, hrest'.trans hrest, fun f => ?_⟩
      rw [hlookup', hlookup]
      unfold lastSaved
      rw [List.reverse_append, List.reverse_singleton, List.singleton_append, List.find?_cons]
      by_cases hf : jsonName view.name = f
      · simp [hf]
      · simp [hf]

/-- What `load_view` makes of a saved view. -/
def normalised (upper : List Char → List Char) (v : ViewConfig) : ViewConfig :=
  { v with streams := v.streams.map (StreamConfig.normalised upper) }

theorem readView_saved (v : ViewConfig) :
    readView upper (some (.text (some (.dict (v.toDict upper))))) = .ok (normalised upper v) := by
  unfold readView
  dsimp only
  rw [v.fromDict_toDict upper]
  rfl

/-- The search goes forward. -/
theorem findFrom_dir {name : List Char} {i : Nat} {ds : List Dir} {p : ViewPath}
    (h : findFrom name i ds = some p) : ∃ k, p.dir = some (i + k) := by
  induction ds generalizing i with
  | nil => cases h
  | cons d ds ih =>
      unfold findFrom at h
      split at h
      · obtain rfl := Option.some.inj h
        exact ⟨0, rfl⟩
      · split at h
        · obtain rfl := Option.some.inj h
          exact ⟨0, rfl⟩
        · obtain ⟨k, hk⟩ := ih h
          exact ⟨k + 1, by rw [hk, Nat.add_assoc, Nat.add_comm 1]⟩

/-- `load_view` of a name that the working directory has not: the first search directory, by the file and
by the bare name, and then the others. -/
theorem loadView_eq {name : FileName} (hcwd : name.text ∉ s.cwd) :
    s.loadView upper name =
      if jsonName name.text ∈ s.first then readView upper (s.first.lookup (jsonName name.text))
      else if name.text ∈ s.first then readView upper (s.first.lookup name.text)
      else match findFrom name.text 1 s.rest with
        | none => .error .notFound
        | some path => readView upper (s.entry path) := by
  unfold loadView findViewPath searchDirs
  rw [if_neg hcwd, findFrom]
  by_cases hjson : jsonName name.text ∈ s.first
  · rw [if_pos hjson, if_pos hjson]
    rfl
  · rw [if_neg hjson, if_neg hjson]
    by_cases hraw : name.text ∈ s.first
    · rw [if_pos hraw, if_pos hraw]
      rfl
    · rw [if_neg hraw, if_neg hraw]

/-- The other search directories. -/
theorem entry_rest (hrest : s'.rest = s.rest) {path : ViewPath} {k : Nat} (hdir : path.dir = some (1 + k)) :
    s'.entry path = s.entry path := by
  unfold entry searchDirs
  rw [hdir, hrest, Nat.add_comm 1]
  rfl

theorem mem_glob {d : Dir} {f : List Char} : f ∈ glob d ↔ f ∈ d ∧ ".json".toList.isSuffixOf f = true := by
  unfold glob
  rw [List.mem_mergeSort, List.mem_filter, AList.mem_keys]

theorem nodup_glob (d : Dir) : (glob d).Nodup :=
  (List.mergeSort_perm _ _).nodup_iff.2 (d.keys_nodup.filter _)

theorem jsonName_ne (name : List Char) : jsonName name ≠ name := by
  intro h
  have hlength := congrArg List.length h
  unfold jsonName at hlength
  rw [List.length_append] at hlength
  exact absurd hlength (by simp)

/-- The inner loop of `list_views`. -/
theorem foldl_unseen (i : Nat) {files : List (List Char)} (hnodup : files.Nodup) (paths : List ViewPath)
    (seen : List (List Char)) :
    ∃ seen', files.foldl
        (fun (acc : List ViewPath × List (List Char)) f =>
          if acc.2.contains f then acc else (acc.1 ++ [⟨some i, f⟩], f :: acc.2)) (paths, seen) =
        (paths ++ (files.filter (· ∉ seen)).map (⟨some i, ·⟩), seen') ∧
      ∀ f, f ∈ seen' ↔ f ∈ seen ∨ f ∈ files := by
  induction files generalizing paths seen with
  | nil => exact ⟨seen, by simp, by simp⟩
  | cons file files ih =>
      obtain ⟨hfile, hfiles⟩ := List.nodup_cons.1 hnodup
      rw [List.foldl_cons]
      by_cases hseen : file ∈ seen
      · obtain ⟨seen', hrun, hmem⟩ := ih hfiles paths seen
        refine ⟨seen', ?_, fun f => ?_⟩
        · rw [if_pos (List.contains_iff_mem.2 hseen), hrun, List.filter_cons_of_neg (by simpa using hseen)]
        · rw [hmem, List.mem_cons]
          constructor
          · tauto
          · rintro (h | rfl | h) <;> tauto
      · obtain ⟨seen', hrun, hmem⟩ := ih hfiles (paths ++ [⟨some i, file⟩]) (file :: seen)
        refine ⟨seen', ?_, fun f => ?_⟩
        · -- no later file of the directory has this name
          have hlater : files.filter (· ∉ file :: seen) = files.filter (· ∉ seen) := by
            refine List.filter_congr fun f hf => ?_
            have hne : f ≠ file := by
              rintro rfl
              exact hfile hf
            simp [hne]
          rw [if_neg (mt List.contains_iff_mem.1 hseen), hrun, hlater,
            List.filter_cons_of_pos (by simpa using hseen), List.map_cons, List.append_assoc]
          rfl
        · rw [hmem, List.mem_cons, List.mem_cons]
          tauto

theorem unseen_eq (i : Nat) (d : Dir) (seen : List (List Char)) :
    (unseen i d seen).1 = ((glob d).filter (· ∉ seen)).map (⟨some i, ·⟩) ∧
      ∀ f, f ∈ (unseen i d seen).2 ↔ f ∈ seen ∨ f ∈ glob d := by
  obtain ⟨seen', hrun, hmem⟩ := foldl_unseen i (nodup_glob d) [] seen
  unfold unseen
  rw [hrun]
  exact ⟨List.nil_append _, hmem⟩

/-- **What is listed**: a file of a directory, unless one before it has the name. -/
theorem mem_listFrom {i : Nat} {ds : List Dir} {seen : List (List Char)} {p : ViewPath} :
    p ∈ listFrom i ds seen ↔
      ∃ k d, ds[k]? = some d ∧ p.dir = some (i + k) ∧ p.file ∈ glob d ∧ p.file ∉ seen ∧
        ∀ d' ∈ ds.take k, p.file ∉ glob d' := by
  induction ds generalizing i seen with
  | nil => simp [listFrom]
  | cons d ds ih =>
      obtain ⟨hpaths, hseen⟩ := unseen_eq i d seen
      unfold listFrom
      rw [List.mem_append, hpaths, ih]
      constructor
      · rintro (hp | ⟨k, e, he, hdir, hfile, hnot, hbefore⟩)
        · obtain ⟨f, hf, rfl⟩ := List.mem_map.1 hp
          obtain ⟨hf, hnot⟩ := List.mem_filter.1 hf
          exact ⟨0, d, rfl, rfl, hf, by simpa using hnot, by simp⟩
        · rw [hseen, not_or] at hnot
          refine ⟨k + 1, e, he, by rw [hdir, Nat.add_assoc, Nat.add_comm 1], hfile, hnot.1, ?_⟩
          rw [List.take_succ_cons]
          exact List.forall_mem_cons.2 ⟨hnot.2, hbefore⟩
      · rintro ⟨k, e, he, hdir, hfile, hnot, hbefore⟩
        cases k with
        | zero =>
            obtain rfl : d = e := Option.some.inj he
            refine Or.inl (List.mem_map.2 ⟨p.file, List.mem_filter.2 ⟨hfile, by simpa using hnot⟩, ?_⟩)
            rw [Nat.add_zero] at hdir
            rw [← hdir]
        | succ k =>
            rw [List.take_succ_cons] at hbefore
            obtain ⟨hfirst, hbefore⟩ := List.forall_mem_cons.1 hbefore
            refine Or.inr ⟨k, e, he, by rw [hdir, Nat.add_assoc, Nat.add_comm 1], hfile, ?_, hbefore⟩
            rw [hseen]
            exact not_or.2 ⟨hnot, hfirst⟩

theorem nodup_listFrom (i : Nat) (ds : List Dir) (seen : List (List Char)) :
    ((listFrom i ds seen).map ViewPath.file).Nodup := by
  induction ds generalizing i seen with
  | nil => exact List.nodup_nil
  | cons d ds ih =>
      obtain ⟨hpaths, hseen⟩ := unseen_eq i d seen
      have hfiles : (unseen i d seen).1.map ViewPath.file = (glob d).filter (· ∉ seen) := by
        rw [hpaths, List.map_map]
        exact List.map_id _
      unfold listFrom
      rw [List.map_append, hfiles]
      refine List.Nodup.append ((nodup_glob d).filter _) (ih _ _) fun f hf hlater => ?_
      obtain ⟨p, hp, rfl⟩ := List.mem_map.1 hlater
      obtain ⟨k, e, -, -, -, hnot, -⟩ := mem_listFrom.1 hp
      rw [hseen, not_or] at hnot
      exact hnot.2 (List.mem_filter.1 hf).1

/-- When the search comes to the file of a view. -/
theorem findFrom_json {name : List Char} {i k : Nat} {ds : List Dir} {d : Dir} (hd : ds[k]? = some d)
    (hfile : jsonName name ∈ d) (hbefore : ∀ d' ∈ ds.take k, jsonName name ∉ d') :
    findFrom name i ds = some ⟨some (i + k), jsonName name⟩ ↔ ∀ d' ∈ ds.take k, name ∉ d' := by
  induction k generalizing i ds with
  | zero =>
      cases ds with
      | nil => cases hd
      | cons e ds =>
          obtain rfl : e = d := Option.some.inj hd
          unfold findFrom
          simp [hfile]
  | succ k ih =>
      cases ds with
      | nil => cases hd
      | cons e ds =>
          rw [List.take_succ_cons] at hbefore ⊢
          obtain ⟨hfirst, hbefore⟩ := List.forall_mem_cons.1 hbefore
          have hstep : findFrom name i (e :: ds) =
              if name ∈ e then some ⟨some i, name⟩ else findFrom name (i + 1) ds := if_neg hfirst
          rw [List.forall_mem_cons, ← ih hd hbefore (i := i + 1), hstep]
          by_cases hraw : name ∈ e
          · have hne : (⟨some i, name⟩ : ViewPath) ≠ ⟨some (i + (k + 1)), jsonName name⟩ := by
              intro h
              exact jsonName_ne name (congrArg ViewPath.file h).symm
            simp [hraw, hne]
          · rw [if_neg hraw, Nat.add_assoc, Nat.add_comm 1]
            simp [hraw]

theorem exists_first {P : Dir → Prop} {ds : List Dir} (h : ∃ d ∈ ds, P d) :
    ∃ k d, ds[k]? = some d ∧ P d ∧ ∀ d' ∈ ds.take k, ¬ P d' := by
  induction ds with
  | nil =>
      obtain ⟨d, hd, -⟩ := h
      cases hd
  | cons e ds ih =>
      by_cases he : P e
      · exact ⟨0, e, rfl, he, by simp⟩
      · obtain ⟨d, hd, hP⟩ := h
        have hd : d ∈ ds := (List.mem_cons.1 hd).resolve_left fun heq => he (heq ▸ hP)
        obtain ⟨k, d', hk, hd', hbefore⟩ := ih ⟨d, hd, hP⟩
        refine ⟨k + 1, d', hk, hd', ?_⟩
        rw [List.take_succ_cons]
        exact List.forall_mem_cons.2 ⟨he, hbefore⟩

theorem path_summary (path : ViewPath) (e : Option Entry) : (summary path e).path = path := by
  unfold summary
  split
  · split
    · rfl
    · rfl
  · rfl

theorem paths_listViews (s : ViewStore) : s.listViews.map ViewSummary.path = s.listPaths := by
  unfold listViews
  rw [List.map_map]
  exact (List.map_congr_left fun p _ => path_summary p _).trans (List.map_id _)

/-- **Which paths are listed**: those of the JSON files, each in the first search directory that has it. -/
theorem mem_listPaths {path : ViewPath} :
    path ∈ s.listPaths ↔
      ".json".toList.isSuffixOf path.file = true ∧
        ∃ i d, path.dir = some i ∧ s.searchDirs[i]? = some d ∧ path.file ∈ d ∧
          ∀ d' ∈ s.searchDirs.take i, path.file ∉ d' := by
  unfold listPaths
  rw [mem_listFrom]
  simp only [mem_glob]
  constructor
  · rintro ⟨k, d, hd, hdir, ⟨hfile, hjson⟩, -, hbefore⟩
    rw [Nat.zero_add] at hdir
    exact ⟨hjson, k, d, hdir, hd, hfile, fun d' hd' hmem => hbefore d' hd' ⟨hmem, hjson⟩⟩
  · rintro ⟨hjson, k, d, hdir, hd, hfile, hbefore⟩
    refine ⟨k, d, hd, ?_, ⟨hfile, hjson⟩, List.not_mem_nil, fun d' hd' hmem => hbefore d' hd' hmem.1⟩
    rw [Nat.zero_add]
    exact hdir

/-- An empty store, and two views of one name saved there. -/
def blank : ViewStore := ⟨∅, ∅, []⟩

def bench (description : String) : NamedView where
  name := "bench".toList
  description := description.toList
  plain := by decide

def benchName : FileName := ⟨"bench".toList, by decide, by decide, by decide⟩

/-- The file of the view. -/
def benchFile (description : String) : Entry :=
  .text (some (.dict ((bench description).toDict asciiUpper)))

/-- The store after both. -/
def benchSaved : ViewStore :=
  { blank with
    first := (blank.first.insert (jsonName "bench".toList) (benchFile "old")).insert
      (jsonName "bench".toList) (benchFile "new") }

end ViewStore

end EmbeddedPixel.TelemetryViews
