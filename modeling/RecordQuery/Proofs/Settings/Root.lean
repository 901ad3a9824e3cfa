import RecordQuery.Settings.Discovery
import Mathlib.Data.List.Infix

/-!
# Root files

A settings file that is marked as a root shuts a project off. Which files apply in a directory, and what
they come to, depends on what stands at the candidates up to the nearest root and on nothing else. Without
a root all files among the candidates apply, and after them the user's own file.
-/

namespace RecordQuery

variable {fs fs' : FileSystem}

namespace SettingsFile

/-! ## Candidates -/

/-- The candidates stand in a directory and in all that hold it, from the inside out. -/
theorem candidates_eq_map_tails (directory : Path) :
    candidates directory = directory.tails.map (fileName :: ·) := by
  induction directory with
  | nil => rfl
  | cons name parent ih => rw [candidates, ih, List.tails_cons, List.map_cons]

theorem length_le_of_mem_candidates {directory p : Path} (h : p ∈ candidates directory) :
    p.length ≤ directory.length + 1 := by
  rw [candidates_eq_map_tails] at h
  obtain ⟨outer, houter, rfl⟩ := List.mem_map.mp h
  simpa using ((List.mem_tails _ _).mp houter).length_le

/-- No candidate comes twice, for each has fewer names than the one before it. -/
theorem nodup_candidates (directory : Path) : (candidates directory).Nodup := by
  induction directory with
  | nil => exact List.nodup_cons.mpr ⟨List.not_mem_nil, List.nodup_nil⟩
  | cons name parent ih =>
      refine List.nodup_cons.mpr ⟨fun hmem => ?_, ih⟩
      have hlength := length_le_of_mem_candidates hmem
      simp only [List.length_cons] at hlength
      omega

/-! ## The search -/

/-- The files among some paths. -/
def filesAmong (fs : FileSystem) (paths : List Path) : List Path :=
  paths.filter fun p => (fs p).isFile

theorem isFile_of_isRoot {p : Path} (h : isRoot fs p = true) : (fs p).isFile = true := by
  unfold isRoot at h
  cases hentry : fs p with
  | file text => rfl
  | other failure => simp [hentry, Entry.text] at h

theorem isRoot_congr {p : Path} (h : fs' p = fs p) : isRoot fs' p = isRoot fs p := by
  rw [isRoot, h, ← isRoot]

theorem filesAmong_congr {paths : List Path} (h : ∀ p ∈ paths, fs' p = fs p) :
    filesAmong fs' paths = filesAmong fs paths :=
  List.filter_congr fun p hp => by rw [h p hp]

/-- A search lists the files that are no roots and goes on. -/
theorem search_append {near : List Path} (hnear : ∀ p ∈ near, isRoot fs p = false)
    (rest : List Path) :
    search fs (near ++ rest) = (filesAmong fs near ++ (search fs rest).1, (search fs rest).2) := by
  induction near with
  | nil => rfl
  | cons p near ih =>
      have hp := hnear p List.mem_cons_self
      have ih := ih fun q hq => hnear q (List.mem_cons_of_mem _ hq)
      rw [List.cons_append, search, ih]
      cases hfile : (fs p).isFile <;> simp [hp, hfile, filesAmong]

/-- A search ends with the first root. -/
theorem search_root {near far : List Path} {root : Path}
    (hnear : ∀ p ∈ near, isRoot fs p = false) (hroot : isRoot fs root = true) :
    search fs (near ++ root :: far) = (filesAmong fs near ++ [root], true) := by
  rw [search_append hnear, search, if_pos (isFile_of_isRoot hroot), if_pos hroot]

theorem search_of_no_root {paths : List Path} (h : ∀ p ∈ paths, isRoot fs p = false) :
    search fs paths = (filesAmong fs paths, false) := by
  have hsearch := search_append h []
  rwa [List.append_nil, search, List.append_nil] at hsearch

end SettingsFile

/-- Loading depends on what stands at the paths it is given. -/
theorem Settings.load_congr {paths : List Path} (h : ∀ p ∈ paths, fs' p = fs p) :
    load fs' paths = load fs paths := by
  have hfiles : paths.mapM (fileAt fs') = paths.mapM (fileAt fs) := by
    induction paths with
    | nil => rfl
    | cons p rest ih =>
        have hp : fileAt fs' p = fileAt fs p := by rw [fileAt, h p List.mem_cons_self, ← fileAt]
        rw [List.mapM_cons, List.mapM_cons, hp, ih fun q hq => h q (List.mem_cons_of_mem _ hq)]
  rw [load, hfiles, ← load]

open SettingsFile in
/-- **What a root shuts off.** Where two file systems agree on the candidates up to the nearest root, the
same files apply, from the nearest to the root and none twice, and loading them gives the same settings or
the same error, whatever stands elsewhere and wherever the user's own file is. Where no candidate is a
root, all files among them apply, and after them the user's own file if it is a file and not listed
yet. -/
theorem SettingsFile.discover_root (fs fs' : FileSystem) (directory : Path)
    (global global' : Option Path) :
    (∀ near root far, candidates directory = near ++ root :: far →
      (∀ p ∈ near, isRoot fs p = false) → isRoot fs root = true →
      (∀ p ∈ near ++ [root], fs' p = fs p) →
      let found := discover fs directory global
      found = filesAmong fs near ++ [root] ∧ found.Nodup ∧
        discover fs' directory global' = found ∧
        Settings.load fs' (discover fs' directory global') = Settings.load fs found) ∧
    ((∀ p ∈ candidates directory, isRoot fs p = false) →
      let listed := filesAmong fs (candidates directory)
      discover fs directory global =
        listed ++ global.toList.filter fun p => (fs p).isFile ∧ p ∉ listed) := by
  constructor
  · intro near root far hcandidates hnear hroot hagree found
    have hfound : found = filesAmong fs near ++ [root] := by
      simp only [found, discover, hcandidates, search_root hnear hroot, if_true]
    have hnear' : ∀ p ∈ near, isRoot fs' p = false := fun p hp =>
      (isRoot_congr (hagree p (List.mem_append_left _ hp))).trans (hnear p hp)
    have hroot' : isRoot fs' root = true := (isRoot_congr (hagree root (by simp))).trans hroot
    have hfiles : filesAmong fs' near = filesAmong fs near :=
      filesAmong_congr fun p hp => hagree p (List.mem_append_left _ hp)
    have hfound' : discover fs' directory global' = found := by
      simp only [hfound, discover, hcandidates, search_root hnear' hroot', if_true, hfiles]
    have hsublist : found.Sublist (candidates directory) := by
      rw [hfound, hcandidates]
      exact List.filter_sublist.append (List.singleton_sublist.mpr List.mem_cons_self)
    refine ⟨hfound, hsublist.nodup (nodup_candidates directory), hfound', ?_⟩
    rw [hfound']
    refine Settings.load_congr fun p hp => hagree p ?_
    rw [hfound] at hp
    exact (List.filter_sublist.append_right [root]).subset hp
  · intro hnone listed
    have hfound : discover fs directory global =
        listed ++ global.toList.filter fun p => (fs p).isFile && !listed.contains p := by
      simp only [discover, search_of_no_root hnone]
      rfl
    rw [hfound]
    congr 2
    funext p
    simp

/-- A project at `/p` with a root file, below a file that is none in one tree and a directory in the other;
and without a root the user's own file comes last. -/
theorem SettingsFile.discover_root_project :
    let inner : Path := [fileName, "a", "p"]
    let root : Path := [fileName, "p"]
    let project := [(inner, "[parser]\nstrict_literals = true"), (root, "root = true")]
    let fs := FileTree.entry ⟨([fileName], "[") :: project, []⟩
    let fs' := FileTree.entry ⟨project, [[fileName]]⟩
    let rootless := FileTree.entry ⟨[(inner, ""), ([fileName, "u"], "root = false")], []⟩
    (candidates ["a", "p"] = [inner] ++ root :: [[fileName]] ∧ (∀ p ∈ [inner], isRoot fs p = false) ∧
        isRoot fs root = true ∧ (∀ p ∈ [inner] ++ [root], fs' p = fs p) ∧
        discover fs ["a", "p"] none = [inner, root] ∧
        discover fs' ["a", "p"] (some [fileName, "u"]) = discover fs ["a", "p"] none ∧
        Settings.load fs' (discover fs' ["a", "p"] (some [fileName, "u"])) =
          Settings.load fs (discover fs ["a", "p"] none)) ∧
      (∀ p ∈ candidates ["a", "p"], isRoot rootless p = false) ∧
        discover rootless ["a", "p"] (some [fileName, "u"]) = [inner, [fileName, "u"]] := by
  intro inner root project fs fs' rootless
  have hnear : ∀ p ∈ [inner], isRoot fs p = false := by decide +kernel
  have hroot : isRoot fs root = true := by decide +kernel
  have hagree : ∀ p ∈ [inner] ++ [root], fs' p = fs p := by
    intro p hp
    simp only [List.mem_append, List.mem_singleton] at hp
    rcases hp with rfl | rfl <;> rfl
  have hnone : ∀ p ∈ candidates ["a", "p"], isRoot rootless p = false := by decide +kernel
  obtain ⟨hfound, -, hsame, hload⟩ :=
    (discover_root fs fs' ["a", "p"] none (some [fileName, "u"])).1 [inner] root [[fileName]] rfl
      hnear hroot hagree
  have hglobal := (discover_root rootless rootless ["a", "p"] (some [fileName, "u"]) none).2 hnone
  exact ⟨⟨rfl, hnear, hroot, hagree, hfound.trans (by decide +kernel), hsame, hload⟩, hnone,
    hglobal.trans (by decide +kernel)⟩

end RecordQuery
