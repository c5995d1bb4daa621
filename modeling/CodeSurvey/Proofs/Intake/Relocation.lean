import CodeSurvey.Proofs.Intake.Workspace
import CodeSurvey.Proofs.Intake.Unpacking
import CodeSurvey.Proofs.Survey.Sources
import CodeSurvey.Run

/-!
# Workspaces elsewhere

It does not matter where an archive is unpacked.  Two workspaces with the same content, in
whatever trees they are, look the same after the same entries have been unpacked into them, as
long as their paths are equally long: a path that is too long below the one root is too long
below the other.
-/

namespace CodeSurvey

/-- The change that is made below a root if it is at its place as seen from there. -/
def Change.under (root : Location) : Change → Change
  | makeDirectory loc => .makeDirectory (root ++ loc)
  | create loc => .create (root ++ loc)
  | append loc chunk => .append (root ++ loc) chunk
  | remove loc => .remove (root ++ loc)

/-- Two places in two trees with the same content below them, whose paths are equally long. -/
structure Twin (root root' : Location) (t t' : FileTree) : Prop where
  ne_nil : root ≠ []
  ne_nil' : root' ≠ []
  size_eq : (Location.path root).utf8ByteSize = (Location.path root').utf8ByteSize
  get?_eq : ∀ names, t.get? (root ++ names) = t'.get? (root' ++ names)

namespace Twin

variable {root root' : Location} {t t' : FileTree}

theorem isTooLong_eq (h : Twin root root' t t') (names : List String) :
    Location.isTooLong (root ++ names) = Location.isTooLong (root' ++ names) := by
  have hsize : (Location.path (root ++ names)).utf8ByteSize =
      (Location.path (root' ++ names)).utf8ByteSize := by
    by_cases hnames : names = []
    · rw [hnames, List.append_nil, List.append_nil, h.size_eq]
    · rw [Location.utf8ByteSize_path_append h.ne_nil hnames,
        Location.utf8ByteSize_path_append h.ne_nil' hnames, h.size_eq]
  rw [Location.isTooLong, Location.isTooLong, hsize]

theorem apply (h : Twin root root' t t') (c : Change) :
    Twin root root' (t.apply (c.under root)) (t'.apply (c.under root')) where
  ne_nil := h.ne_nil
  ne_nil' := h.ne_nil'
  size_eq := h.size_eq
  get?_eq names := by
    rw [FileTree.get?_apply (by simp [h.ne_nil]), FileTree.get?_apply (by simp [h.ne_nil']), h.get?_eq]
    cases c <;> simp [Change.under, Change.location, Change.effect]

theorem applyAll (h : Twin root root' t t') (cs : List Change) :
    Twin root root' (t.applyAll (cs.map (.under root))) (t'.applyAll (cs.map (.under root'))) := by
  induction cs generalizing t t' with
  | nil => exact h
  | cons c rest ih => exact ih (h.apply c)

/-! ## Placing one entry -/

theorem missingDirectories (h : Twin root root' t t') (base names : List String) :
    ∃ (cs : List Change) (failure : _),
      t.missingDirectories (root ++ base) names = (cs.map (.under root), failure) ∧
      t'.missingDirectories (root' ++ base) names = (cs.map (.under root'), failure) := by
  induction names generalizing base with
  | nil => exact ⟨[], none, rfl, rfl⟩
  | cons name rest ih =>
    obtain ⟨cs, failure, heq, heq'⟩ := ih (base ++ [name])
    rw [FileTree.missingDirectories, FileTree.missingDirectories, List.append_assoc, List.append_assoc,
      h.get?_eq, heq, heq']
    cases t'.get? (root' ++ (base ++ [name])) with
    | none =>
      dsimp only
      split
      · exact ⟨[], _, rfl, rfl⟩
      · exact ⟨.makeDirectory (base ++ [name]) :: cs, failure, rfl, rfl⟩
    | some n =>
      cases n with
      | directory => exact ⟨cs, failure, rfl, rfl⟩
      | file content => exact ⟨[], _, rfl, rfl⟩
      | link target => exact ⟨[], _, rfl, rfl⟩

theorem makeDirectories (h : Twin root root' t t') (names : List String) :
    ∃ (cs : List Change) (failure : _),
      t.makeDirectories root names = (cs.map (.under root), failure) ∧
      t'.makeDirectories root' names = (cs.map (.under root'), failure) := by
  rw [FileTree.makeDirectories, FileTree.makeDirectories, h.isTooLong_eq]
  split
  · exact ⟨[], _, rfl, rfl⟩
  · obtain ⟨cs, failure, heq, heq'⟩ := h.missingDirectories [] names
    rw [List.append_nil] at heq heq'
    exact ⟨cs, failure, heq, heq'⟩

theorem openFailure?_eq (h : Twin root root' t t') {names : List String} (hne : names ≠ []) :
    t.openFailure? (root ++ names) = t'.openFailure? (root' ++ names) := by
  have hlast (root : Location) : (root ++ names).getLast? = names.getLast? := by
    rw [List.getLast?_append, Option.or_of_isSome (List.getLast?_isSome.mpr hne)]
  rw [FileTree.openFailure?, FileTree.openFailure?, h.isTooLong_eq, hlast, hlast, FileTree.isDirectory,
    FileTree.isDirectory, h.get?_eq]

/-- What placing an entry comes to, and what it does below the root, whichever root this is. -/
structure Alike (root root' : Location) (p p' : Placement) : Prop where
  outcome_eq : p.outcome = p'.outcome
  changes_eq : ∃ cs : List Change, p.changes = cs.map (.under root) ∧ p'.changes = cs.map (.under root')

theorem alike_skip (reason : EntrySkip) (cs : List Change) :
    Alike root root' (.skip reason (cs.map (.under root))) (.skip reason (cs.map (.under root'))) :=
  ⟨rfl, cs, rfl, rfl⟩

theorem alike_ofDirectory (h : Twin root root' t t') (names : List String) :
    Alike root root' (.ofDirectory t root names) (.ofDirectory t' root' names) := by
  obtain ⟨cs, failure, heq, heq'⟩ := h.makeDirectories names
  rw [Placement.ofDirectory, Placement.ofDirectory, heq, heq']
  cases failure with
  | none => exact ⟨rfl, cs, rfl, rfl⟩
  | some e => exact alike_skip ..

theorem map_under_writing (root names : Location) (chunks : List ByteArray) :
    (writing names chunks).map (.under root) = writing (root ++ names) chunks := by
  rw [writing, List.map_cons, List.map_map]
  rfl

/-- How a file is written does not depend on where. -/
theorem alike_ofContent (root root' : Location) (names : List String) (cap : Allowance)
    (reads : List Read) :
    Alike root root' (.ofContent (root ++ names) cap reads) (.ofContent (root' ++ names) cap reads) := by
  rw [Placement.ofContent, Placement.ofContent]
  generalize boundedCopy .unlimited cap.bytes reads 0 #[] = copied
  obtain ⟨outcome, chunks⟩ := copied
  have hwriting (root : Location) := (map_under_writing root names chunks.toList).symm
  have hremoved (root : Location) : writing (root ++ names) chunks.toList ++ [.remove (root ++ names)] =
      (writing names chunks.toList ++ [Change.remove names]).map (.under root) := by
    rw [List.map_append, map_under_writing]
    rfl
  cases outcome with
  | complete size => exact ⟨rfl, _, hwriting root, hwriting root'⟩
  | failed message => exact ⟨rfl, _, hremoved root, hremoved root'⟩
  | exceeded =>
    dsimp only
    split
    · exact ⟨rfl, _, hremoved root, hremoved root'⟩
    · exact ⟨rfl, _, hremoved root, hremoved root'⟩

theorem alike_ofFile (h : Twin root root' t t') {names : List String} (hne : names ≠ []) (cap : Allowance)
    (reads : Thunk (List Read)) :
    Alike root root' (.ofFile t root names cap reads) (.ofFile t' root' names cap reads) := by
  obtain ⟨cs, failure, heq, heq'⟩ := h.makeDirectories names.dropLast
  rw [Placement.ofFile, Placement.ofFile, heq, heq', h.openFailure?_eq hne]
  cases failure with
  | some e => exact alike_skip ..
  | none =>
    dsimp only
    split
    · exact alike_skip ..
    · obtain ⟨hout, ds, hds, hds'⟩ := alike_ofContent root root' names cap reads.get
      refine ⟨hout, cs ++ ds, ?_, ?_⟩
      · rw [List.map_append, hds]
      · rw [List.map_append, hds']

theorem alike_ofEntry (h : Twin root root' t t') (b : Budget) (e : Entry) :
    Alike root root' (.ofEntry t root b e) (.ofEntry t' root' b e) := by
  unfold Placement.ofEntry
  split
  next => exact alike_skip _ []
  next names hnames =>
    split
    · exact h.alike_ofDirectory names
    · split
      · exact alike_skip _ []
      · split
        · exact alike_skip _ []
        · exact h.alike_ofFile (EntryName.ne_nil_of_components hnames) ..

end Twin

/-! ## Unpacking an archive -/

/-- Two unpackings that have come equally far in two places. -/
structure Relocated (root root' : Location) (x x' : Extraction) : Prop where
  twin : Twin root root' x.tree x'.tree
  budget_eq : x.budget = x'.budget
  stats_eq : x.stats = x'.stats

namespace Relocated

variable {root root' : Location} {x x' : Extraction}

theorem start {t t' : FileTree} (h : Twin root root' t t') (limits : Limits) :
    Relocated root root' (.start t limits) (.start t' limits) := ⟨h, rfl, rfl⟩

theorem alike_placement (h : Relocated root root' x x') (e : Option Entry) :
    Twin.Alike root root' (x.placement root e) (x'.placement root' e) := by
  cases e with
  | none => exact Twin.alike_skip _ []
  | some e =>
    rw [Extraction.placement, Extraction.placement, h.budget_eq]
    exact h.twin.alike_ofEntry ..

theorem record (h : Relocated root root' x x') {p p' : Placement} (hp : Twin.Alike root root' p p') :
    Relocated root root' (x.record p) (x'.record p') := by
  obtain ⟨hout, cs, hcs, hcs'⟩ := hp
  refine ⟨?_, ?_, ?_⟩
  · rw [Extraction.record, Extraction.record, hcs, hcs']
    exact h.twin.applyAll cs
  · rw [Extraction.record, Extraction.record, hout, h.budget_eq]
  · rw [Extraction.record, Extraction.record, hout, h.stats_eq]

theorem step (h : Relocated root root' x x') (e : Option Entry) :
    Relocated root root' (x.step root e) (x'.step root' e) := by
  rw [Extraction.step, Extraction.step, h.budget_eq]
  split
  · exact ⟨h.twin, rfl, h.stats_eq⟩
  · exact h.record (h.alike_placement e)

theorem run (h : Relocated root root' x x') (entries : Entries) :
    Relocated root root' (.run root entries x) (.run root' entries x') := by
  rw [Extraction.run_eq_foldl, Extraction.run_eq_foldl]
  induction entries generalizing x x' with
  | nil => exact h
  | cons e rest ih => exact ih (h.step e)

theorem finalStats_eq (h : Relocated root root' x x') : x.finalStats = x'.finalStats := by
  rw [Extraction.finalStats, Extraction.finalStats, h.budget_eq, h.stats_eq]

theorem sightings_eq (h : Relocated root root' x x') :
    x.tree.sightings root = x'.tree.sightings root' := by
  refine FileTree.sightings_congr ?_
  rintro ⟨names, content⟩ -
  rw [FileTree.mem_files, FileTree.mem_files, h.twin.get?_eq]

end Relocated

/-- Two workspaces that have just been made look the same. -/
theorem Workspace.twin {t t' : FileTree} (hsize : (Location.path (location t)).utf8ByteSize =
    (Location.path (location t')).utf8ByteSize) :
    Twin (location t) (location t') (t.insert (location t) .directory)
      (t'.insert (location t') .directory) where
  ne_nil := location_ne_nil t
  ne_nil' := location_ne_nil t'
  size_eq := hsize
  get?_eq names := by
    have hdir (t : FileTree) : (t.insert (location t) .directory).get? (location t) = some .directory :=
      of_decide_eq_true (isEmptyDirectory t).isDirectory
    by_cases hnames : names = []
    · rw [hnames, List.append_nil, List.append_nil, hdir, hdir]
    · rw [(isEmptyDirectory t).get?_eq_none hnames, (isEmptyDirectory t').get?_eq_none hnames]

/-- Entries unpacked into fresh workspaces in two trees have the same tally and leave the same
things to be surveyed, whatever else the trees hold. -/
theorem PreparedInput.ofEntries_relocated {t t' : FileTree}
    (hsize : (Location.path (Workspace.location t)).utf8ByteSize =
      (Location.path (Workspace.location t')).utf8ByteSize) (limits : Limits) (entries : Entries) :
    (ofEntries t limits entries).intake = (ofEntries t' limits entries).intake ∧
      (ofEntries t limits entries).tree.sightings (ofEntries t limits entries).root =
        (ofEntries t' limits entries).tree.sightings (ofEntries t' limits entries).root := by
  have h := (Relocated.start (Workspace.twin hsize) limits).run entries
  exact ⟨congrArg some h.finalStats_eq, h.sightings_eq⟩

end CodeSurvey
