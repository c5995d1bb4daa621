import CodeSurvey.Intake.Whitelist
import CodeSurvey.Proofs.FileTree.Lookup
import CodeSurvey.Proofs.Intake.EntryName
import CodeSurvey.Proofs.Path
import CodeSurvey.SourceUnit
import CodeSurvey.Survey.Walk

/-!
# Slashes and backslashes

To unpacking, and to whoever tells the language of a file, a backslash is a letter like
any other: an entry goes down by names that may hold some.  An analyzer is given a path
with slashes in their places, so it sees more and shorter names.  This module says when
both agree on what a file is called, and which entries an analyzer cannot tell apart.
-/

namespace CodeSurvey

/-! ## The path that an analyzer is given -/

namespace FileTree

variable {names names' : List String} {file : String}

/-- A text is cut at its backslashes. -/
def cut (name : String) : List (List Char) := Text.pieces (· = '\\') name.toList

theorem cut_of_no_backslash {name : String} (h : '\\' ∉ name.toList) : cut name = [name.toList] :=
  Text.pieces_of_no_sep (Text.no_sep_of_notMem h)

theorem flatMap_cut (h : ∀ n ∈ names, '\\' ∉ n.toList) :
    names.flatMap cut = names.map String.toList := by
  induction names with
  | nil => rfl
  | cons n rest ih =>
    rw [List.flatMap_cons, cut_of_no_backslash (h n List.mem_cons_self),
      ih fun m hm ↦ h m (List.mem_cons_of_mem _ hm)]
    rfl

/-- The names in the path that an analyzer is given end at slashes and at backslashes. -/
theorem pieces_relativePath (hne : names ≠ []) (h : ∀ n ∈ names, '/' ∉ n.toList) :
    Text.pieces (· = '/') (relativePath names).toList = names.flatMap cut := by
  have hslash : "/".toList = ['/'] := rfl
  rw [relativePath, String.toList_ofList, Text.pieces_replaceChar]
  have hcut : ∀ n ∈ names, Text.pieces (fun c ↦ c = '/' || c = '\\') n.toList = cut n := by
    intro n hn
    refine Text.pieces_congr fun c hc ↦ ?_
    have hc' : c ≠ '/' := fun heq ↦ h n hn (heq ▸ hc)
    simp [hc']
  clear h
  induction names with
  | nil => exact absurd rfl hne
  | cons n rest ih =>
    cases rest with
    | nil =>
      rw [String.intercalate_singleton, hcut n List.mem_cons_self]
      simp
    | cons m rest =>
      rw [String.intercalate_cons_cons, String.toList_append, String.toList_append, hslash,
        List.append_assoc, List.singleton_append, Text.pieces_append_cons (by simp),
        hcut n List.mem_cons_self, ih (by simp) fun k hk ↦ hcut k (List.mem_cons_of_mem _ hk)]
      rfl

/-- Two paths look the same to an analyzer exactly if they are cut into the same names. -/
theorem relativePath_eq_iff (hne : names ≠ []) (h : ∀ n ∈ names, '/' ∉ n.toList)
    (hne' : names' ≠ []) (h' : ∀ n ∈ names', '/' ∉ n.toList) :
    relativePath names = relativePath names' ↔ names.flatMap cut = names'.flatMap cut := by
  rw [← pieces_relativePath hne h, ← pieces_relativePath hne' h']
  constructor
  · exact congrArg fun path : String ↦ Text.pieces (· = '/') path.toList
  · intro hpieces
    rw [← String.toList_inj, ← Text.intercalate_pieces '/' (relativePath names).toList, hpieces,
      Text.intercalate_pieces]

/-- The file name that an analyzer sees is what follows the last backslash. -/
theorem lastPiece_relativePath (h : ∀ n ∈ names, '/' ∉ n.toList) (hlast : names.getLast? = some file) :
    Text.lastPiece (· = '/') (relativePath names).toList = Text.lastPiece (· = '\\') file.toList := by
  have hne : names ≠ [] := fun heq ↦ by simp [heq] at hlast
  obtain ⟨before, rfl⟩ := List.getLast?_eq_some_iff.mp hlast
  have hpieces := congrArg List.getLast? (pieces_relativePath hne h)
  rw [Text.getLast?_pieces, List.flatMap_append, List.flatMap_singleton, List.getLast?_append, cut,
    Text.getLast?_pieces, Option.some_or] at hpieces
  exact Option.some.inj hpieces

/-- Without a backslash in its name a file is called the same. -/
theorem fileName?_relativePath (h : ∀ n ∈ names, SafeName n) (hlast : names.getLast? = some file)
    (hplain : '\\' ∉ file.toList) : Path.fileName? (relativePath names) = some file := by
  have hne : names ≠ [] := fun heq ↦ by simp [heq] at hlast
  obtain ⟨before, rfl⟩ := List.getLast?_eq_some_iff.mp hlast
  have hsafe : SafeName file := h file (by simp)
  have hempty : file.toList ≠ [] := by simpa using hsafe.ne_empty
  have hdot : file.toList ≠ ['.'] := fun heq ↦ hsafe.ne_dot (String.toList_inj.mp heq)
  have hkept : [file.toList].filter (fun p ↦ p ≠ [] && p ≠ ['.']) = [file.toList] := by
    simp [hempty, hdot]
  rw [Path.fileName?, Path.components, pieces_relativePath hne fun n hn ↦ (h n hn).no_slash,
    List.flatMap_append, List.flatMap_singleton, cut_of_no_backslash hplain, List.filter_append, hkept,
    List.map_append, List.map_singleton, String.ofList_toList, List.getLast?_concat, Option.filter_some,
    if_pos (by simpa using hsafe.ne_dots)]

end FileTree

/-! ## What names with backslashes tell -/

section Backslash

theorem mem_lower_of_backslash {s : List Char} (h : '\\' ∈ s) : '\\' ∈ Text.lower s :=
  List.mem_map.mpr ⟨'\\', h, by decide⟩

/-- Is what follows the last dot of a name an allowed extension? -/
def hasAllowedExtension (name : String) : Bool :=
  match Text.splitLast? '.' (Text.lower name.toList) with
  | some (_, extension) => allowedExtensions.contains (String.ofList extension)
  | none => false

/-- Is a file of this name allowed by its whole name only? -/
def isBareName (name : String) : Bool :=
  allowedNames.contains (String.ofList (Text.lower name.toList)) && !hasAllowedExtension name

/-- The language that an extension tells, even if there is nothing before its dot. -/
def Language.ofExtension (name : String) : Language :=
  match Text.splitLast? '.' (Text.lower name.toList) with
  | some (_, extension) => (extensions.lookup (String.ofList extension)).getD unknown
  | none => unknown

theorem isWhitelisted_eq (name : String) :
    isWhitelisted name =
      (allowedNames.contains (String.ofList (Text.lower name.toList)) || hasAllowedExtension name) := rfl

variable {key : List Char}

/-- What has a backslash in it is not in a list of names without any. -/
theorem not_contains_of_backslash {names : List String} (h : ∀ n ∈ names, '\\' ∉ n.toList)
    (hkey : '\\' ∈ key) : names.contains (String.ofList key) = false := by
  rw [Bool.eq_false_iff]
  intro hmem
  refine h _ (List.contains_iff_mem.mp hmem) ?_
  rwa [String.toList_ofList]

theorem lookup_of_backslash {table : List (String × Language)} (h : ∀ p ∈ table, '\\' ∉ p.1.toList)
    (hkey : '\\' ∈ key) : table.lookup (String.ofList key) = none := by
  rw [List.lookup_eq_none_iff]
  intro p hp
  have hne : String.ofList key ≠ p.1 := by
    intro heq
    refine h p hp ?_
    rwa [← heq, String.toList_ofList]
  exact bne_iff_ne.mpr hne

/-- The last dot is behind the last backslash, or a backslash is behind the last dot. -/
theorem splitLast?_dot_cases (before after : List Char) :
    (∃ stem ext, Text.splitLast? '.' after = some (stem, ext) ∧
      Text.splitLast? '.' (before ++ '\\' :: after) = some (before ++ '\\' :: stem, ext)) ∨
    (Text.splitLast? '.' after = none ∧
      ∀ stem ext, Text.splitLast? '.' (before ++ '\\' :: after) = some (stem, ext) → '\\' ∈ ext) := by
  cases hafter : Text.splitLast? '.' after with
  | some split =>
    obtain ⟨stem, ext⟩ := split
    obtain ⟨rfl, hnot⟩ := Text.splitLast?_eq_some_iff.mp hafter
    refine .inl ⟨stem, ext, rfl, Text.splitLast?_eq_some_iff.mpr ⟨?_, hnot⟩⟩
    rw [List.append_assoc, List.cons_append]
  | none =>
    refine .inr ⟨rfl, fun stem ext hsplit ↦ ?_⟩
    have hnot : '.' ∉ '\\' :: after := by
      simpa using Text.splitLast?_eq_none_iff.mp hafter
    cases hbefore : Text.splitLast? '.' before with
    | none =>
      have hnone : '.' ∉ before ++ '\\' :: after := by
        rw [List.mem_append, not_or]
        exact ⟨Text.splitLast?_eq_none_iff.mp hbefore, hnot⟩
      rw [Text.splitLast?_eq_none_iff.mpr hnone] at hsplit
      exact nomatch hsplit
    | some split =>
      obtain ⟨stem', ext'⟩ := split
      obtain ⟨rfl, hext⟩ := Text.splitLast?_eq_some_iff.mp hbefore
      have hnone : '.' ∉ ext' ++ '\\' :: after := by
        rw [List.mem_append, not_or]
        exact ⟨hext, hnot⟩
      rw [List.append_assoc, List.cons_append, Text.splitLast?_append_cons stem' hnone] at hsplit
      obtain ⟨-, rfl⟩ := Prod.mk.inj (Option.some.inj hsplit)
      simp

theorem lower_append_backslash (before after : List Char) :
    Text.lower (before ++ '\\' :: after) = Text.lower before ++ '\\' :: Text.lower after :=
  List.map_append ..

/-- Of a name with backslashes, only the extension of its last piece counts. -/
theorem isWhitelisted_append_backslash (before after : List Char) :
    isWhitelisted (String.ofList (before ++ '\\' :: after)) = hasAllowedExtension (String.ofList after) := by
  have hbackslash : '\\' ∈ Text.lower (before ++ '\\' :: after) := mem_lower_of_backslash (by simp)
  rw [isWhitelisted_eq, String.toList_ofList, not_contains_of_backslash (by decide) hbackslash,
    Bool.false_or, hasAllowedExtension, hasAllowedExtension, String.toList_ofList, String.toList_ofList,
    lower_append_backslash]
  rcases splitLast?_dot_cases (Text.lower before) (Text.lower after) with
    ⟨stem, ext, hafter, hwhole⟩ | ⟨hafter, hwhole⟩
  · rw [hafter, hwhole]
  · rw [hafter]
    split
    next hsplit => exact not_contains_of_backslash (by decide) (hwhole _ _ hsplit)
    next => rfl

theorem ofFileName_append_backslash (before after : List Char) :
    Language.ofFileName (String.ofList (before ++ '\\' :: after)) =
      Language.ofExtension (String.ofList after) := by
  have hbackslash : '\\' ∈ Text.lower (before ++ '\\' :: after) := mem_lower_of_backslash (by simp)
  rw [Language.ofFileName, String.toList_ofList, Language.ofExtension, String.toList_ofList]
  rw [lookup_of_backslash (by decide) hbackslash]
  dsimp only
  rw [Language.extension?, lower_append_backslash]
  rcases splitLast?_dot_cases (Text.lower before) (Text.lower after) with
    ⟨stem, ext, hafter, hwhole⟩ | ⟨hafter, hwhole⟩
  · obtain ⟨c, cs, hcons⟩ := List.exists_cons_of_ne_nil
      (List.append_ne_nil_of_right_ne_nil (Text.lower before) (List.cons_ne_nil '\\' stem))
    rw [hafter, hwhole, hcons]
  · rw [hafter]
    split
    next ext hext =>
      split at hext
      next hsplit =>
        obtain rfl := Option.some.inj hext
        rw [lookup_of_backslash (by decide) (hwhole _ _ hsplit)]
        rfl
      next => exact nomatch hext
    next => rfl

/-- What follows the last backslash of a name. -/
def afterBackslash (name : String) : String := String.ofList (Text.lastPiece (· = '\\') name.toList)

variable {name : String}

theorem afterBackslash_of_no_backslash (h : '\\' ∉ name.toList) : afterBackslash name = name := by
  rw [afterBackslash, Text.lastPiece_of_no_sep (Text.no_sep_of_notMem h), String.ofList_toList]

/-- A name with a backslash has something before the last of them. -/
theorem eq_append_afterBackslash (h : '\\' ∈ name.toList) :
    ∃ before, name = String.ofList (before ++ '\\' :: (afterBackslash name).toList) := by
  rcases Text.eq_append_or_no_sep (· = '\\') name.toList with
    hnone | ⟨before, sep, after, heq, hsep, hafter⟩
  · exact absurd rfl (of_decide_eq_false (hnone '\\' h))
  · obtain rfl : sep = '\\' := of_decide_eq_true hsep
    refine ⟨before, ?_⟩
    rw [afterBackslash, heq, Text.lastPiece_append_cons hsep before hafter, String.toList_ofList, ← heq,
      String.ofList_toList]

theorem isWhitelisted_of_backslash (h : '\\' ∈ name.toList) :
    isWhitelisted name = hasAllowedExtension (afterBackslash name) := by
  obtain ⟨before, heq⟩ := eq_append_afterBackslash h
  have hwhole := isWhitelisted_append_backslash before (afterBackslash name).toList
  rwa [← heq, String.ofList_toList] at hwhole

theorem ofFileName_of_backslash (h : '\\' ∈ name.toList) :
    Language.ofFileName name = Language.ofExtension (afterBackslash name) := by
  obtain ⟨before, heq⟩ := eq_append_afterBackslash h
  have hwhole := ofFileName_append_backslash before (afterBackslash name).toList
  rwa [← heq, String.ofList_toList] at hwhole

/-- A name may be unpacked as what follows its last backslash may, unless this is allowed as a
whole and not by its extension. -/
theorem isWhitelisted_eq_iff :
    isWhitelisted name = isWhitelisted (afterBackslash name) ↔
      ¬ ('\\' ∈ name.toList ∧ isBareName (afterBackslash name) = true) := by
  by_cases h : '\\' ∈ name.toList
  · rw [isWhitelisted_of_backslash h, isWhitelisted_eq, isBareName]
    cases hasAllowedExtension (afterBackslash name) <;> simp [h]
  · rw [afterBackslash_of_no_backslash h]
    simp [h]

end Backslash

/-! ## Entries and the paths that analyzers are given -/

/-- What an analyzer is given as the path of something at or below a root. -/
def FileTree.relativeTo (root path : String) : String :=
  relativePath ((Path.components path).drop (Path.components root).length)

open FileTree

variable {root name d : String}

theorem ne_nil_of_getLast? {α : Type} {xs : List α} {x : α} (h : xs.getLast? = some x) : xs ≠ [] := by
  rintro rfl
  exact nomatch h

/-- An accepted entry is called by the last of its names, and these names make up its path below
the root. -/
theorem EntryName.resolve_eq_ok (h : EntryName.resolve root name = .ok d) :
    ∃ file, Path.fileName? d = some file ∧ (Path.components name).getLast? = some file ∧
      (∀ n ∈ Path.components name, SafeName n) ∧
      relativeTo root d = relativePath (Path.components name) ∧
      d = (Path.components name).foldl Path.extend root := by
  cases hnames : components name with
  | error e =>
    rw [resolve, hnames] at h
    exact nomatch h
  | ok names =>
    rw [resolve, hnames] at h
    obtain rfl : names.foldl Path.extend root = d := Except.ok.inj h
    obtain ⟨-, -, -, -, -, -, hne, rfl⟩ := components_eq_ok_iff.mp hnames
    have hsafe := safeName_of_components hnames
    have hcomponents := Path.components_foldl_extend hsafe root
    have hlast := List.getLast?_eq_some_getLast hne
    have hdots := (hsafe _ (List.getLast_mem hne)).ne_dots
    refine ⟨_, ?_, hlast, hsafe, ?_, rfl⟩
    · rw [Path.fileName?, hcomponents, List.getLast?_append, hlast, Option.some_or, Option.filter_some,
        if_pos (by simpa using hdots)]
    · rw [relativeTo, hcomponents, List.drop_left]

theorem not_backslash_of_components (h : '\\' ∉ name.toList) {n : String}
    (hn : n ∈ Path.components name) : '\\' ∉ n.toList :=
  fun hc ↦ h ((Text.infix_of_mem_pieces (Path.mem_components.mp hn).1).subset hc)

/-- How an accepted entry is read where it is written to, and by an analyzer.  It may be unpacked
under both of its names or under none, unless the one after its last backslash is allowed
as a whole; the language of both is the same, unless that name or the one that an analyzer
takes for the last tells more than its extension.  An analyzer can tell entries apart that
are cut differently at their slashes and backslashes.  Without backslashes all agree. -/
theorem entry_read_alike_iff (h : EntryName.resolve root name = .ok d) (content : String) :
    ∃ file, Path.fileName? d = some file ∧
      let u : SourceUnit := ⟨relativeTo root d, Language.ofPath d, content⟩
      u.fileName = afterBackslash file ∧
      (isWhitelisted file = isWhitelisted u.fileName ↔
        ¬ ('\\' ∈ file.toList ∧ isBareName u.fileName = true)) ∧
      (Language.ofPath d = Language.ofPath u.path ↔
        ('\\' ∈ file.toList → Language.ofExtension u.fileName = Language.ofPath u.path)) ∧
      (∀ name' d', EntryName.resolve root name' = .ok d' →
        (relativeTo root d' = u.path ↔
          (Path.components name').flatMap cut = (Path.components name).flatMap cut)) ∧
      ('\\' ∉ name.toList → isWhitelisted file = isWhitelisted u.fileName ∧
        Language.ofPath d = Language.ofPath u.path ∧
        ∀ name' d', '\\' ∉ name'.toList → EntryName.resolve root name' = .ok d' →
          relativeTo root d' = u.path → d' = d) := by
  obtain ⟨file, hfile, hlast, hsafe, hrelative, hd⟩ := EntryName.resolve_eq_ok h
  refine ⟨file, hfile, ?_⟩
  intro u
  have hpath : u.path = relativePath (Path.components name) := hrelative
  have hname : u.fileName = afterBackslash file := by
    rw [SourceUnit.fileName, hpath, lastPiece_relativePath (fun n hn ↦ (hsafe n hn).no_slash) hlast]
    rfl
  have hlanguage : Language.ofPath d = Language.ofFileName file := by
    rw [Language.ofPath, hfile]
  have hplain : '\\' ∉ file.toList → Language.ofPath d = Language.ofPath u.path := by
    intro hplain
    rw [hlanguage, Language.ofPath, hpath, fileName?_relativePath hsafe hlast hplain]
  have hsame : ∀ name' d', EntryName.resolve root name' = .ok d' →
      (relativeTo root d' = u.path ↔
        (Path.components name').flatMap cut = (Path.components name).flatMap cut) := by
    intro name' d' h'
    obtain ⟨file', -, hlast', hsafe', hpath', -⟩ := EntryName.resolve_eq_ok h'
    rw [hpath', hpath]
    exact relativePath_eq_iff (ne_nil_of_getLast? hlast') (fun n hn ↦ (hsafe' n hn).no_slash)
      (ne_nil_of_getLast? hlast) fun n hn ↦ (hsafe n hn).no_slash
  rw [hname]
  refine ⟨rfl, isWhitelisted_eq_iff, ?_, hsame, fun hnone ↦ ?_⟩
  · by_cases hbackslash : '\\' ∈ file.toList
    · rw [hlanguage, ofFileName_of_backslash hbackslash]
      simp [hbackslash]
    · exact iff_of_true (hplain hbackslash) fun hmem ↦ absurd hmem hbackslash
  · have hfileplain : '\\' ∉ file.toList := not_backslash_of_components hnone (List.mem_of_getLast? hlast)
    refine ⟨?_, hplain hfileplain, fun name' d' hnone' h' heq ↦ ?_⟩
    · rw [afterBackslash_of_no_backslash hfileplain]
    · obtain ⟨-, -, -, -, -, hd'⟩ := EntryName.resolve_eq_ok h'
      have hcut := (hsame name' d' h').mp heq
      rw [flatMap_cut fun n ↦ not_backslash_of_components hnone',
        flatMap_cut fun n ↦ not_backslash_of_components hnone] at hcut
      rw [hd', hd, (List.map_inj_right fun _ _ ↦ String.toList_inj.mp).mp hcut]

/-- Nothing is lost of a name without backslashes. -/
theorem entry_read_alike_source :
    EntryName.resolve "/w" "app/Gemfile" = .ok "/w/app/Gemfile" ∧
      isWhitelisted "Gemfile" = isWhitelisted (SourceUnit.fileName ⟨"app/Gemfile", .ruby, ""⟩) ∧
      Language.ofPath "/w/app/Gemfile" = Language.ofPath "app/Gemfile" := by
  have hresolve : EntryName.resolve "/w" "app/Gemfile" = .ok "/w/app/Gemfile" := by decide +kernel
  have hpath : relativeTo "/w" "/w/app/Gemfile" = "app/Gemfile" := by decide +kernel
  have hfile : Path.fileName? "/w/app/Gemfile" = some "Gemfile" := by decide +kernel
  have hlanguage : Language.ofPath "/w/app/Gemfile" = .ruby := by decide +kernel
  obtain ⟨file, hfile', -, -, -, -, hplain⟩ := entry_read_alike_iff hresolve ""
  obtain ⟨hwhitelisted, hsame, -⟩ := hplain (by decide)
  obtain rfl := Option.some.inj (hfile.symm.trans hfile')
  rw [hpath, hlanguage] at hwhitelisted
  rw [hpath] at hsame
  exact ⟨hresolve, hwhitelisted, hsame⟩

/-- A file whose name holds a backslash is not unpacked, and its language is not known, though an
analyzer would take it for a manifest.  Two files at different places are one to an
analyzer. -/
theorem not_entry_read_alike :
    EntryName.resolve "/w" "a\\Gemfile" = .ok "/w/a\\Gemfile" ∧
      Path.fileName? "/w/a\\Gemfile" = some "a\\Gemfile" ∧
      relativeTo "/w" "/w/a\\Gemfile" = "a/Gemfile" ∧
      isWhitelisted "a\\Gemfile" = false ∧
      isWhitelisted (SourceUnit.fileName ⟨"a/Gemfile", .ruby, ""⟩) = true ∧
      Language.ofPath "/w/a\\Gemfile" = .unknown ∧ Language.ofPath "a/Gemfile" = .ruby ∧
      EntryName.resolve "/w" "a\\b.py" = .ok "/w/a\\b.py" ∧
      EntryName.resolve "/w" "a/b.py" = .ok "/w/a/b.py" ∧
      relativeTo "/w" "/w/a\\b.py" = "a/b.py" ∧ relativeTo "/w" "/w/a/b.py" = "a/b.py" := by
  decide +kernel

end CodeSurvey
