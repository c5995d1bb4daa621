import CodeSurvey.Intake.Extraction
import CodeSurvey.Proofs.FileTree.Change
import CodeSurvey.Proofs.Intake.BoundedCopy
import CodeSurvey.Proofs.Intake.EntryName

/-!
# What placing an entry can come to

`Course` lists once and for all what may happen when an entry is placed: it is
refused and nothing is touched, it makes directories, it is stopped by something
that is in the way, its file is written, or its file is begun and removed again.
Everything that is later said of an unpacking is derived from these cases, and
the placing itself is not looked into again.
-/

namespace CodeSurvey

/-- The changes that write a file chunk by chunk. -/
def writing (dest : Location) (chunks : List ByteArray) : List Change :=
  .create dest :: chunks.map (.append dest)

theorem location_of_mem_writing {dest : Location} {chunks : List ByteArray} {c : Change}
    (h : c ∈ writing dest chunks) : c.location = dest := by
  rcases List.mem_cons.mp h with rfl | h
  · rfl
  · obtain ⟨_, _, rfl⟩ := List.mem_map.mp h
    rfl

namespace FileTree

theorem get?_applyAll_append {dest : Location} (hne : dest ≠ []) {t : FileTree} {content : ByteArray}
    (h : t.get? dest = some (.file content)) (chunks : List ByteArray) :
    (t.applyAll (chunks.map (.append dest))).get? dest =
      some (.file (chunks.foldl (· ++ ·) content)) := by
  induction chunks generalizing t content with
  | nil => exact h
  | cons chunk rest ih =>
    have hstep : (t.apply (.append dest chunk)).get? dest = some (.file (content ++ chunk)) := by
      rw [get?_apply hne]
      simp [Change.location, Change.effect, h, appended]
    exact ih hstep

/-- Writing a file leaves the whole of its bytes at its place, whatever was there,
and nothing elsewhere. -/
theorem get?_applyAll_writing {dest : Location} (hne : dest ≠ []) (t : FileTree)
    (chunks : List ByteArray) (loc : Location) :
    (t.applyAll (writing dest chunks)).get? loc =
      if loc = dest then some (.file (joined chunks)) else t.get? loc := by
  by_cases hloc : loc = dest
  · subst hloc
    rw [if_pos rfl]
    refine get?_applyAll_append (t := t.apply (.create loc)) hne ?_ chunks
    rw [get?_apply hne]
    exact if_pos rfl
  · rw [if_neg hloc]
    exact get?_applyAll_of_ne (fun c hc heq ↦ hloc (by rw [← heq, location_of_mem_writing hc])) t

theorem get?_applyAll_removed {dest : Location} (hne : dest ≠ []) (t : FileTree)
    (chunks : List ByteArray) (loc : Location) :
    (t.applyAll (writing dest chunks ++ [.remove dest])).get? loc =
      if loc = dest then none else t.get? loc := by
  by_cases hroot : loc = []
  · subst hroot
    rw [if_neg hne.symm]
    rfl
  · rw [applyAll_append]
    refine (get?_apply hroot _ (.remove dest)).trans ?_
    by_cases hloc : loc = dest
    · rw [if_pos hloc]
      exact if_pos hloc
    · rw [if_neg hloc]
      refine (if_neg hloc).trans ?_
      rw [get?_applyAll_writing hne, if_neg hloc]

end FileTree

namespace Placement

/-- Changes that make directories where nothing was, on the way down from a root. -/
def NewDirectories (t : FileTree) (root : Location) (names : List String) (cs : List Change) : Prop :=
  ∀ c ∈ cs, ∃ way, way ≠ [] ∧ way <+: names ∧ c = .makeDirectory (root ++ way) ∧
    t.get? (root ++ way) = none

theorem NewDirectories.makeDirectory {t : FileTree} {root : Location} {names : List String}
    {cs : List Change} (h : NewDirectories t root names cs) :
    ∀ c ∈ cs, c = .makeDirectory c.location := by
  intro c hc
  obtain ⟨way, -, -, rfl, -⟩ := h c hc
  rfl

/-- An entry that is opened: a file with an accepted name and nothing suspicious in
its header. -/
structure Opened (b : Budget) (e : Entry) (names : List String) : Prop where
  named : EntryName.components e.name = .ok names
  regular : e.isDirectory = false
  allowed : isWhitelisted (names.getLast?.getD "") = true
  screened : b.screen (some e.declaredSize) (some e.packedSize) = .ok ()

theorem Opened.dest_ne_nil {b : Budget} {e : Entry} {names : List String} (h : Opened b e names)
    (root : Location) : root ++ names ≠ [] := by
  have hne := EntryName.ne_nil_of_components h.named
  simp [hne]

/-- Why a file that was begun is given up, and what becomes of its entry then. -/
def GivenUp (cap : Allowance) (reads : List Read) (outcome : EntryOutcome) : Prop :=
  (∃ message, Read.failure? reads = some message ∧ outcome = .skipped .writeFailed) ∨
    (cap.bytes < (Read.stream reads).size ∧
      outcome = if cap.boundedByTotal then .stopped .totalBytes else .skipped .streamTooLarge)

/-- All that placing an entry can come to. -/
inductive Course (t : FileTree) (root : Location) (b : Budget) (e : Entry) : Placement → Prop
  /-- Nothing is touched. -/
  | refused (reason : EntrySkip) : Course t root b e (.skip reason [])
  /-- The entry is a directory; some of the directories on the way may be missing
  still. -/
  | directories {names : List String} {cs : List Change} {outcome : EntryOutcome} :
      EntryName.components e.name = .ok names → e.isDirectory = true →
      NewDirectories t root names cs →
      outcome = .directory ∨ outcome = .skipped .writeFailed → Course t root b e ⟨outcome, cs⟩
  /-- The file cannot be made at its place. -/
  | blocked {names : List String} {cs : List Change} : Opened b e names →
      NewDirectories t root names.dropLast cs → Course t root b e (.skip .writeFailed cs)
  /-- The file is written to its end. -/
  | written {names : List String} {dirs : List Change} : Opened b e names →
      NewDirectories t root names.dropLast dirs → t.get? (root ++ names) ≠ some .directory →
      Read.failure? e.reads.get = none → (Read.stream e.reads.get).size ≤ b.allowance.bytes →
      Course t root b e ⟨.written (Read.stream e.reads.get).size,
        dirs ++ writing (root ++ names) (Read.delivered e.reads.get)⟩
  /-- The file is begun and removed again. -/
  | abandoned {names : List String} {dirs : List Change} {kept : List ByteArray}
      {outcome : EntryOutcome} : Opened b e names →
      NewDirectories t root names.dropLast dirs → t.get? (root ++ names) ≠ some .directory →
      kept <+: Read.delivered e.reads.get → totalSize kept ≤ b.allowance.bytes →
      GivenUp b.allowance e.reads.get outcome →
      Course t root b e ⟨outcome, dirs ++ (writing (root ++ names) kept ++ [.remove (root ++ names)])⟩

/-- A content is either written to its end or removed again. -/
theorem ofContent_cases (dest : Location) (cap : Allowance) (reads : List Read) :
    (Read.failure? reads = none ∧ (Read.stream reads).size ≤ cap.bytes ∧
      ofContent dest cap reads =
        ⟨.written (Read.stream reads).size, writing dest (Read.delivered reads)⟩) ∨
    ∃ kept outcome, kept <+: Read.delivered reads ∧ totalSize kept ≤ cap.bytes ∧
      GivenUp cap reads outcome ∧
      ofContent dest cap reads = ⟨outcome, writing dest kept ++ [.remove dest]⟩ := by
  obtain ⟨kept, hheld, hcopied⟩ := copied_boundedCopy (Nat.zero_le cap.bytes) reads #[]
  unfold ofContent
  rcases hcopy : boundedCopy .unlimited cap.bytes reads 0 #[] with ⟨outcome, chunks⟩
  rw [hcopy] at hheld hcopied
  replace hheld : chunks.toList = kept := by simpa using hheld
  dsimp only at hcopied ⊢
  rw [hheld]
  cases hcopied with
  | complete hend hcap =>
    rw [Nat.zero_add, ← Read.size_stream] at hcap
    refine .inl ⟨hend, hcap, ?_⟩
    simp only [Nat.zero_add, Read.size_stream, writing]
  | exceeded hpre hcap hmore =>
    rw [Nat.zero_add] at hcap hmore
    rw [← Read.size_stream] at hmore
    refine .inr ⟨kept, _, hpre, hcap, .inr ⟨hmore, rfl⟩, ?_⟩
    cases cap.boundedByTotal <;> rfl
  | failed hend hcap =>
    rw [Nat.zero_add] at hcap
    exact .inr ⟨_, _, List.prefix_rfl, hcap, .inl ⟨_, hend, rfl⟩, rfl⟩

theorem course_ofFile {t : FileTree} {root : Location} {b : Budget} {e : Entry}
    {names : List String} (h : Opened b e names) :
    Course t root b e (ofFile t root names b.allowance e.reads) := by
  have hnew : NewDirectories t root names.dropLast (t.makeDirectories root names.dropLast).1 :=
    fun _ hc ↦ FileTree.mem_makeDirectories hc
  unfold ofFile
  rcases hmake : t.makeDirectories root names.dropLast with ⟨dirs, failure⟩
  rw [hmake] at hnew
  cases failure with
  | some error => exact .blocked h hnew
  | none =>
    dsimp only
    cases hopen : t.openFailure? (root ++ names) with
    | some error => exact .blocked h hnew
    | none =>
      have hfree : t.get? (root ++ names) ≠ some .directory := by
        intro hdir
        have hd : t.isDirectory (root ++ names) = true := by simp [FileTree.isDirectory, hdir]
        simp only [FileTree.openFailure?, hd, if_true] at hopen
        split at hopen
        · cases hopen
        · split at hopen <;> cases hopen
      rcases ofContent_cases (root ++ names) b.allowance e.reads.get with
        ⟨hend, hcap, heq⟩ | ⟨kept, outcome, hpre, hcap, hwhy, heq⟩
      · simp only [heq]
        exact .written h hnew hfree hend hcap
      · simp only [heq]
        exact .abandoned h hnew hfree hpre hcap hwhy

/-- Placing an entry takes one of the listed courses. -/
theorem course_ofEntry (t : FileTree) (root : Location) (b : Budget) (e : Entry) :
    Course t root b e (ofEntry t root b e) := by
  unfold ofEntry
  cases hname : EntryName.components e.name with
  | error why => exact .refused _
  | ok names =>
    dsimp only
    cases hdir : e.isDirectory with
    | true =>
      have hnew : NewDirectories t root names (t.makeDirectories root names).1 :=
        fun _ hc ↦ FileTree.mem_makeDirectories hc
      rw [if_pos rfl, ofDirectory]
      rcases hmake : t.makeDirectories root names with ⟨dirs, failure⟩
      rw [hmake] at hnew
      cases failure with
      | none => exact .directories hname hdir hnew (.inl rfl)
      | some error => exact .directories hname hdir hnew (.inr rfl)
    | false =>
      rw [if_neg (by simp)]
      cases hallowed : isWhitelisted (names.getLast?.getD "") with
      | false => exact .refused _
      | true =>
        rw [if_neg (by simp)]
        cases hscreen : b.screen (some e.declaredSize) (some e.packedSize) with
        | error reason => exact .refused _
        | ok _ => exact course_ofFile ⟨hname, hdir, hallowed, hscreen⟩

/-! ## What becomes of an honest entry -/

/-- A content that can be read to its end and fits is written. -/
theorem ofContent_eq_written (dest : Location) {cap : Allowance} {reads : List Read}
    (hend : Read.failure? reads = none) (hcap : (Read.stream reads).size ≤ cap.bytes) :
    ofContent dest cap reads =
      ⟨.written (Read.stream reads).size, writing dest (Read.delivered reads)⟩ := by
  rcases ofContent_cases dest cap reads with ⟨-, -, heq⟩ | ⟨_, _, -, -, hwhy, -⟩
  · exact heq
  · rcases hwhy with ⟨_, hfailed, -⟩ | ⟨hmore, -⟩
    · exact nomatch hfailed.symm.trans hend
    · exact absurd hcap (Nat.not_le.mpr hmore)

/-- For an entry that is opened, it only matters whether its file can be made. -/
theorem ofEntry_eq_ofFile {t : FileTree} {root : Location} {b : Budget} {e : Entry}
    {names : List String} (h : Opened b e names) :
    ofEntry t root b e = ofFile t root names b.allowance e.reads := by
  rw [ofEntry, h.named]
  dsimp only
  rw [h.regular, if_neg (by simp), h.allowed, if_neg (by simp), h.screened]

/-- An entry for which there is a place and room is written. -/
theorem ofEntry_eq_written {t : FileTree} {root : Location} {b : Budget} {e : Entry}
    {names : List String} (h : Opened b e names)
    (hdirs : (t.makeDirectories root names.dropLast).2 = none)
    (hopen : t.openFailure? (root ++ names) = none) (hend : Read.failure? e.reads.get = none)
    (hcap : (Read.stream e.reads.get).size ≤ b.allowance.bytes) :
    ofEntry t root b e = ⟨.written (Read.stream e.reads.get).size,
      (t.makeDirectories root names.dropLast).1 ++
        writing (root ++ names) (Read.delivered e.reads.get)⟩ := by
  rw [ofEntry_eq_ofFile h, ofFile]
  rcases hmake : t.makeDirectories root names.dropLast with ⟨dirs, failure⟩
  rw [hmake] at hdirs
  subst hdirs
  dsimp only
  rw [hopen]
  dsimp only
  rw [ofContent_eq_written _ hend hcap]

variable {t : FileTree} {root : Location} {b : Budget} {e : Entry} {p : Placement}

theorem GivenUp.ne_written {cap : Allowance} {reads : List Read} {outcome : EntryOutcome}
    (h : GivenUp cap reads outcome) (size : Nat) : outcome ≠ .written size := by
  rcases h with ⟨_, -, rfl⟩ | ⟨-, rfl⟩
  · exact nofun
  · split <;> exact nofun

/-- A file that is written to its end is within the allowance. -/
theorem Course.le_allowance_of_written (h : Course t root b e p) {size : Nat}
    (hout : p.outcome = .written size) : size ≤ b.allowance.bytes := by
  cases h with
  | refused reason => exact nomatch hout
  | directories _ _ _ hwhich => rcases hwhich with rfl | rfl <;> exact nomatch hout
  | blocked _ _ => exact nomatch hout
  | written _ _ _ _ hcap => exact EntryOutcome.written.inj hout ▸ hcap
  | abandoned _ _ _ _ _ hwhy => exact absurd hout (hwhy.ne_written size)

/-- A file that is written has been opened. -/
theorem Course.opened_of_written (h : Course t root b e p) {size : Nat} (hout : p.outcome = .written size) :
    ∃ names, Opened b e names := by
  cases h with
  | refused reason => exact nomatch hout
  | directories _ _ _ hwhich => rcases hwhich with rfl | rfl <;> exact nomatch hout
  | blocked _ _ => exact nomatch hout
  | written hopened _ _ _ _ => exact ⟨_, hopened⟩
  | abandoned hopened _ _ _ _ _ => exact ⟨_, hopened⟩

/-- A place that is reached from a root by safe names. -/
def IsBelow (root loc : Location) : Prop :=
  ∃ way, way ≠ [] ∧ (∀ name ∈ way, SafeName name) ∧ loc = root ++ way

theorem NewDirectories.isBelow {names : List String} {cs : List Change}
    (h : NewDirectories t root names cs) (hsafe : ∀ name ∈ names, SafeName name) :
    ∀ c ∈ cs, IsBelow root c.location := by
  intro c hc
  obtain ⟨way, hne, hpre, rfl, -⟩ := h c hc
  exact ⟨way, hne, fun name hname ↦ hsafe name (hpre.subset hname), rfl⟩

theorem Opened.isBelow {names : List String} (h : Opened b e names) : IsBelow root (root ++ names) :=
  ⟨names, EntryName.ne_nil_of_components h.named, EntryName.safeName_of_components h.named, rfl⟩

theorem Opened.safeName_dropLast {names : List String} (h : Opened b e names) :
    ∀ name ∈ names.dropLast, SafeName name := fun name hname ↦
  EntryName.safeName_of_components h.named name (List.dropLast_subset _ hname)

/-- All that a placing does is done below the root. -/
theorem Course.isBelow (h : Course t root b e p) : ∀ c ∈ p.changes, IsBelow root c.location := by
  intro c hc
  cases h with
  | refused reason => exact nomatch hc
  | directories hnamed _ hdirs _ =>
    exact hdirs.isBelow (EntryName.safeName_of_components hnamed) c hc
  | blocked hopened hdirs => exact hdirs.isBelow hopened.safeName_dropLast c hc
  | written hopened hdirs _ _ _ =>
    rcases List.mem_append.mp hc with hc | hc
    · exact hdirs.isBelow hopened.safeName_dropLast c hc
    · exact location_of_mem_writing hc ▸ hopened.isBelow
  | abandoned hopened hdirs _ _ _ _ =>
    rcases List.mem_append.mp hc with hc | hc
    · exact hdirs.isBelow hopened.safeName_dropLast c hc
    rcases List.mem_append.mp hc with hc | hc
    · exact location_of_mem_writing hc ▸ hopened.isBelow
    · exact List.mem_singleton.mp hc ▸ hopened.isBelow

theorem NewDirectories.file_before {names : List String} {cs : List Change} {loc : Location}
    {content : ByteArray} (h : NewDirectories t root names cs)
    (hfile : (t.applyAll cs).get? loc = some (.file content)) : t.get? loc = some (.file content) := by
  rw [FileTree.get?_applyAll_makeDirectory h.makeDirectory] at hfile
  split at hfile
  · exact nomatch hfile
  · exact hfile

/-- A file that is there after an entry has been placed was there before, or it is
the whole stream of the entry. -/
theorem Course.file_after (h : Course t root b e p) {loc : Location} {content : ByteArray}
    (hfile : (t.applyAll p.changes).get? loc = some (.file content)) :
    t.get? loc = some (.file content) ∨
      ∃ names, loc = root ++ names ∧ Opened b e names ∧ Read.failure? e.reads.get = none ∧
        Read.stream e.reads.get = content ∧ p.outcome = .written content.size := by
  cases h with
  | refused reason => exact .inl hfile
  | directories _ _ hdirs _ => exact .inl (hdirs.file_before hfile)
  | blocked _ hdirs => exact .inl (hdirs.file_before hfile)
  | @written names dirs hopened hdirs _ hend _ =>
    rw [FileTree.applyAll_append, FileTree.get?_applyAll_writing (hopened.dest_ne_nil root)] at hfile
    split at hfile
    next hloc =>
      obtain rfl : Read.stream e.reads.get = content := by simpa [Read.stream] using hfile
      exact .inr ⟨names, hloc, hopened, hend, rfl, rfl⟩
    next => exact .inl (hdirs.file_before hfile)
  | @abandoned names dirs _ _ hopened hdirs _ _ _ _ =>
    rw [FileTree.applyAll_append, FileTree.get?_applyAll_removed (hopened.dest_ne_nil root)] at hfile
    split at hfile
    next => cases hfile
    next => exact .inl (hdirs.file_before hfile)

end Placement

end CodeSurvey
