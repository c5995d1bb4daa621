import CodeSurvey.Proofs.Intake.Sandbox

/-!
# When a file is begun in the place of another

A destination is emptied when a file is begun there, whatever it held, and nothing is
left of it if that file is given up.  So of two entries with one destination the second
takes the place of the first, or takes it away.  This is all that can happen to a file
that has been unpacked.
-/

namespace CodeSurvey

open Placement Extraction

/-! ## One entry -/

namespace Placement

/-- Is a file begun at a place? -/
def Begins (p : Placement) (loc : Location) : Prop := .create loc ∈ p.changes

instance (p : Placement) (loc : Location) : Decidable (p.Begins loc) :=
  inferInstanceAs (Decidable (_ ∈ _))

variable {t : FileTree} {root : Location} {b : Budget} {e : Entry} {p : Placement}

theorem NewDirectories.create_notMem {names : List String} {cs : List Change}
    (h : NewDirectories t root names cs) (loc : Location) : .create loc ∉ cs := by
  intro hc
  exact nomatch h.makeDirectory _ hc

/-- Directories that are made leave every file as it is, and make none. -/
theorem NewDirectories.file_iff {names : List String} {cs : List Change}
    (h : NewDirectories t root names cs) (loc : Location) (content : ByteArray) :
    (t.applyAll cs).get? loc = some (.file content) ↔ t.get? loc = some (.file content) := by
  refine ⟨h.file_before, fun hfile ↦ ?_⟩
  rw [FileTree.get?_applyAll_makeDirectory h.makeDirectory, if_neg, hfile]
  intro hmem
  obtain ⟨way, -, -, heq, hnone⟩ := h _ hmem
  obtain rfl : loc = root ++ way := Change.makeDirectory.inj heq
  exact nomatch hnone.symm.trans hfile

theorem create_mem_writing {dest loc : Location} {chunks : List ByteArray} :
    .create loc ∈ writing dest chunks ↔ loc = dest := by
  simp [writing]

/-- What placing an entry does to files. -/
inductive Effect (t : FileTree) (root : Location) (e : Option Entry) (p : Placement) : Prop
  /-- No file is begun, and all files stay. -/
  | none : (∀ loc, ¬ p.Begins loc) → (∀ size, p.outcome ≠ .written size) →
      (∀ loc content, (t.applyAll p.changes).get? loc = some (.file content) ↔
        t.get? loc = some (.file content)) → Effect t root e p
  /-- The file of the entry is put at its destination. -/
  | put {entry : Entry} {names : List String} : e = some entry →
      EntryName.components entry.name = .ok names → (∀ loc, p.Begins loc ↔ loc = root ++ names) →
      p.outcome = .written (Read.stream entry.reads.get).size →
      (∀ loc content, (t.applyAll p.changes).get? loc = some (.file content) ↔
        if loc = root ++ names then content = Read.stream entry.reads.get
        else t.get? loc = some (.file content)) → Effect t root e p
  /-- There is no file any more at the destination of the entry. -/
  | clear {entry : Entry} {names : List String} : e = some entry →
      EntryName.components entry.name = .ok names → (∀ loc, p.Begins loc ↔ loc = root ++ names) →
      (∀ size, p.outcome ≠ .written size) →
      (∀ loc content, (t.applyAll p.changes).get? loc = some (.file content) ↔
        loc ≠ root ++ names ∧ t.get? loc = some (.file content)) → Effect t root e p

/-- Whatever course the placing takes, it has one of the listed effects. -/
theorem Course.effect (h : Course t root b e p) : Effect t root (some e) p := by
  cases h with
  | refused reason => exact .none (fun _ ↦ nofun) (fun _ ↦ nofun) fun _ _ ↦ Iff.rfl
  | @directories names cs outcome _ _ hdirs hwhich =>
    refine .none hdirs.create_notMem (fun size heq ↦ ?_) hdirs.file_iff
    rcases hwhich with rfl | rfl <;> exact nomatch heq
  | blocked _ hdirs => exact .none hdirs.create_notMem (fun _ ↦ nofun) hdirs.file_iff
  | @written names dirs hopened hdirs _ _ _ =>
    refine .put rfl hopened.named (fun loc ↦ ?_) rfl fun loc content ↦ ?_
    · rw [Begins, List.mem_append, create_mem_writing, or_iff_right (hdirs.create_notMem loc)]
    · rw [FileTree.applyAll_append, FileTree.get?_applyAll_writing (hopened.dest_ne_nil root)]
      split
      next => simp [Read.stream, eq_comm]
      next => exact hdirs.file_iff loc content
  | @abandoned names dirs kept outcome hopened hdirs _ _ _ hwhy =>
    refine .clear rfl hopened.named (fun loc ↦ ?_) hwhy.ne_written fun loc content ↦ ?_
    · rw [Begins, List.mem_append, List.mem_append, create_mem_writing,
        or_iff_right (hdirs.create_notMem loc)]
      simp
    · rw [FileTree.applyAll_append, FileTree.get?_applyAll_removed (hopened.dest_ne_nil root)]
      split
      next hloc => simp [hloc]
      next hloc => simp [hloc, hdirs.file_iff loc content]

end Placement

namespace Extraction

variable {x : Extraction} {root : Location} {e : Option Entry}

theorem effect (x : Extraction) (root : Location) (e : Option Entry) :
    Effect x.tree root e (x.placement root e) := by
  cases e with
  | none => exact .none (fun _ ↦ nofun) (fun _ ↦ nofun) fun _ _ ↦ Iff.rfl
  | some entry => exact (course_ofEntry ..).effect

/-- A file that is begun where one is already is written to its end, with the bytes that
are there. -/
def Repeats (x : Extraction) (root : Location) (e : Option Entry) : Prop :=
  ∀ loc content, (x.placement root e).Begins loc → x.tree.get? loc = some (.file content) →
    ∃ entry, e = some entry ∧ (x.placement root e).outcome = .written content.size ∧
      Read.stream entry.reads.get = content

/-- An entry that begins no file where one is already repeats none. -/
theorem repeats_of_free
    (h : (x.tree.files []).all (fun f ↦ ¬ (x.placement root e).Begins f.1) = true) :
    x.Repeats root e := by
  intro loc content hloc hfile
  have hne : loc ≠ [] := by
    rintro rfl
    exact nomatch hfile
  have hmem : (loc, content) ∈ x.tree.files [] := FileTree.mem_files.mpr ⟨hne, hfile⟩
  exact absurd hloc (by simpa using List.all_eq_true.mp h _ hmem)

/-- An entry leaves all files as they are exactly if it repeats those that it begins. -/
theorem repeats_iff : x.Repeats root e ↔ ∀ loc content, x.tree.get? loc = some (.file content) →
    (x.record (x.placement root e)).tree.get? loc = some (.file content) := by
  rw [record]
  unfold Repeats
  cases x.effect root e with
  | none hbegins _ hfiles =>
    constructor
    · intro _ loc content hfile
      exact (hfiles loc content).mpr hfile
    · intro _ loc content hloc
      exact absurd hloc (hbegins loc)
  | @put entry names he _ hbegins hout hfiles =>
    constructor
    · intro hrepeats loc content hfile
      rw [hfiles]
      split
      next hloc =>
        obtain ⟨entry', he', -, hstream⟩ := hrepeats loc content ((hbegins loc).mpr hloc) hfile
        obtain rfl : entry = entry' := Option.some.inj (he.symm.trans he')
        exact hstream.symm
      next => exact hfile
    · intro hstay loc content hloc hfile
      have hafter := (hfiles loc content).mp (hstay loc content hfile)
      rw [if_pos ((hbegins loc).mp hloc)] at hafter
      subst hafter
      exact ⟨entry, he, hout, rfl⟩
  | @clear entry names _ _ hbegins hout hfiles =>
    constructor
    · intro hrepeats loc content hfile
      refine (hfiles loc content).mpr ⟨fun hloc ↦ ?_, hfile⟩
      obtain ⟨-, -, hwritten, -⟩ := hrepeats loc content ((hbegins loc).mpr hloc) hfile
      exact hout _ hwritten
    · intro hstay loc content hloc hfile
      exact absurd ((hbegins loc).mp hloc) ((hfiles loc content).mp (hstay loc content hfile)).1

/-- The file of an entry that ends written is at its destination. -/
theorem file_of_written {entry : Entry} {names : List String} {size : Nat}
    (hnamed : EntryName.components entry.name = .ok names)
    (hout : (x.placement root (some entry)).outcome = .written size) :
    (x.record (x.placement root (some entry))).tree.get? (root ++ names) =
      some (.file (Read.stream entry.reads.get)) := by
  rw [record]
  cases x.effect root (some entry) with
  | none _ hunwritten _ => exact absurd hout (hunwritten size)
  | clear _ _ _ hunwritten _ => exact absurd hout (hunwritten size)
  | put he hnamed' _ _ hfiles =>
    obtain rfl := Option.some.inj he
    obtain rfl := Except.ok.inj (hnamed.symm.trans hnamed')
    rw [hfiles, if_pos rfl]

end Extraction

/-! ## Files that stay -/

/-- The next entry is one of an archive and is not refused. -/
def Taken (t : FileTree) (root : Location) (limits : Limits) (entries past : Entries)
    (e : Option Entry) : Prop :=
  past ++ [e] <+: entries ∧ (extract t root limits past).budget.refusal? = none

/-- A file that has been unpacked stays as it is until the end. -/
structure FilesStay (t : FileTree) (root : Location) (limits : Limits) (entries : Entries) : Prop where
  /-- The destination of an entry that was written holds its bytes after all later entries. -/
  written : ∀ {past later : Entries} {e : Entry} {names : List String} {size : Nat},
    Taken t root limits entries past (some e) → EntryName.components e.name = .ok names →
    ((extract t root limits past).placement root (some e)).outcome = .written size →
    past ++ some e :: later <+: entries →
    (extract t root limits (past ++ some e :: later)).tree.get? (root ++ names) =
      some (.file (Read.stream e.reads.get))
  /-- An entry for which no file is written leaves all files as they are. -/
  kept : ∀ {past : Entries} {e : Option Entry} {loc : Location} {content : ByteArray},
    Taken t root limits entries past e →
    (∀ size, ((extract t root limits past).placement root e).outcome ≠ .written size) →
    (extract t root limits past).tree.get? loc = some (.file content) →
    (extract t root limits (past ++ [e])).tree.get? loc = some (.file content)

theorem extract_concat_of_refusal?_eq_none {t : FileTree} {root : Location} {limits : Limits}
    {past : Entries} (h : (extract t root limits past).budget.refusal? = none) (e : Option Entry) :
    extract t root limits (past ++ [e]) =
      (extract t root limits past).record ((extract t root limits past).placement root e) := by
  rw [extract_concat, step, h]

/-- If entries only ever repeat files, a file stays over any number of them. -/
theorem file_stays {t : FileTree} {root : Location} {limits : Limits} {entries past later : Entries}
    (h : ∀ past e, Taken t root limits entries past e → (extract t root limits past).Repeats root e)
    (hpre : past ++ later <+: entries) {loc : Location} {content : ByteArray}
    (hfile : (extract t root limits past).tree.get? loc = some (.file content)) :
    (extract t root limits (past ++ later)).tree.get? loc = some (.file content) := by
  induction later using List.reverseRecOn with
  | nil =>
    rw [List.append_nil]
    exact hfile
  | append_singleton later e ih =>
    rw [← List.append_assoc] at hpre ⊢
    have hbefore := ih ((List.prefix_append ..).trans hpre)
    cases hrefusal : (extract t root limits (past ++ later)).budget.refusal? with
    | none =>
      rw [extract_concat_of_refusal?_eq_none hrefusal]
      exact repeats_iff.mp (h _ e ⟨hpre, hrefusal⟩) loc content hbefore
    | some reason =>
      rw [extract_concat, step, hrefusal]
      exact hbefore

/-- Unpacked files stay exactly if every entry whose file is begun where one is already is
written to its end with the same bytes. -/
theorem filesStay_iff {t : FileTree} {root : Location} (h : t.IsEmptyDirectory root) (limits : Limits)
    (entries : Entries) : FilesStay t root limits entries ↔
      ∀ past e, Taken t root limits entries past e → (extract t root limits past).Repeats root e := by
  constructor
  · intro hstay past e htaken loc content hloc hfile
    -- What is there was written by an earlier entry, so it has to be there afterwards.
    have hafter {names : List String} (hnames : names ≠ []) (hplace : loc = root ++ names) :
        ((extract t root limits past).record
          ((extract t root limits past).placement root e)).tree.get? loc = some (.file content) := by
      subst hplace
      have hmem : (names, content) ∈ (extract t root limits past).tree.files root :=
        FileTree.mem_files.mpr ⟨hnames, hfile⟩
      obtain ⟨first, ⟨past', rest, hpast, hrefusal, hout⟩, hnamed, -, hstream⟩ :=
        (sandboxed_extract h limits past []).1.complete names content hmem
      have hpre : past' ++ some first :: (rest ++ [e]) <+: entries := by
        rw [← List.cons_append, ← List.append_assoc, ← hpast]
        exact htaken.1
      have hfirst : Taken t root limits entries past' (some first) :=
        ⟨((List.prefix_append ..).trans (List.append_cons .. ▸ hpre)), hrefusal⟩
      have hstays := hstay.written hfirst hnamed hout hpre
      rw [← List.cons_append, ← List.append_assoc, ← hpast, hstream,
        extract_concat_of_refusal?_eq_none htaken.2] at hstays
      exact hstays
    cases (extract t root limits past).effect root e with
    | none hbegins _ _ => exact absurd hloc (hbegins loc)
    | @put entry names he hnamed hbegins hout hfiles =>
      have hplace := (hbegins loc).mp hloc
      have hsame := (hfiles loc content).mp (hafter (EntryName.ne_nil_of_components hnamed) hplace)
      rw [if_pos hplace] at hsame
      subst hsame
      exact ⟨entry, he, hout, rfl⟩
    | @clear entry names _ hnamed hbegins _ hfiles =>
      have hplace := (hbegins loc).mp hloc
      have hgone := (hfiles loc content).mp (hafter (EntryName.ne_nil_of_components hnamed) hplace)
      exact absurd hplace hgone.1
  · intro hrepeats
    constructor
    · intro past later e names size htaken hnamed hout hpre
      have hwritten := file_of_written hnamed hout
      rw [← extract_concat_of_refusal?_eq_none htaken.2] at hwritten
      rw [List.append_cons] at hpre ⊢
      exact file_stays hrepeats hpre hwritten
    · intro past e loc content htaken _ hfile
      rw [extract_concat_of_refusal?_eq_none htaken.2]
      exact repeats_iff.mp (hrepeats past e htaken) loc content hfile

/-- Two files with different names stay. -/
theorem filesStay_distinct :
    let t : FileTree := (∅ : FileTree).insert ["w"] .directory
    let first : Entry := ⟨"a.py", false, 2, 2, .pure [.bytes ⟨#[97, 98]⟩]⟩
    let second : Entry := ⟨"b.py", false, 1, 1, .pure [.bytes ⟨#[99]⟩, .failed "corrupt"]⟩
    t.IsEmptyDirectory ["w"] ∧ FilesStay t ["w"] .builtin [some first, some second] := by
  intro t first second
  refine ⟨⟨rfl, rfl⟩, (filesStay_iff ⟨rfl, rfl⟩ _ _).mpr ?_⟩
  rintro past e ⟨hpre, -⟩
  match past with
  | [] =>
    obtain rfl : e = some first := by simpa using hpre
    refine repeats_of_free ?_
    decide +kernel
  | [_] =>
    obtain ⟨rfl, rfl⟩ : _ = some first ∧ e = some second := by simpa using hpre
    refine repeats_of_free ?_
    decide +kernel
  | _ :: _ :: _ => simp at hpre

/-- A file is gone once another with its name could not be read to its end. -/
theorem not_filesStay_failing_stream :
    let t : FileTree := (∅ : FileTree).insert ["w"] .directory
    let first : Entry := ⟨"a.py", false, 4, 4, .pure [.bytes ⟨#[120, 61, 49, 10]⟩]⟩
    let second : Entry :=
      ⟨"a.py", false, 4, 4, .pure [.bytes ⟨#[120, 61, 49, 10]⟩, .failed "Invalid checksum"]⟩
    t.IsEmptyDirectory ["w"] ∧ ¬ FilesStay t ["w"] .builtin [some first, some second] := by
  intro t first second
  refine ⟨⟨rfl, rfl⟩, fun hstay ↦ ?_⟩
  have hrefusal : (extract t ["w"] .builtin [some first]).budget.refusal? = none := by decide +kernel
  have hout : ((extract t ["w"] .builtin [some first]).placement ["w"] (some second)).outcome =
      .skipped .writeFailed := by decide +kernel
  have hbefore : (extract t ["w"] .builtin [some first]).tree.get? ["w", "a.py"] =
      some (.file ⟨#[120, 61, 49, 10]⟩) := by decide +kernel
  have hafter : (extract t ["w"] .builtin [some first, some second]).tree.get? ["w", "a.py"] = none := by
    decide +kernel
  have htaken : Taken t ["w"] .builtin [some first, some second] [some first] (some second) :=
    ⟨List.prefix_rfl, hrefusal⟩
  have hskipped (size : Nat) : ((extract t ["w"] .builtin [some first]).placement ["w"]
      (some second)).outcome ≠ .written size := by
    rw [hout]
    exact nofun
  have hkept := hstay.kept htaken hskipped hbefore
  rw [List.singleton_append, hafter] at hkept
  exact nomatch hkept

end CodeSurvey
