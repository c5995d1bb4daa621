import CodeSurvey.Archive.Content
import CodeSurvey.Proofs.Intake.BoundedCopy

/-!
# Archives that store files as they are

The simplest archives hold their files one after the other, without packing them.  What is
read back from such an archive are the files in their order: the name of each in the old
code page, its size, and its bytes to the last one.
-/

namespace CodeSurvey

namespace Archive

/-! ## Numbers -/

/-- A number in so many bytes, lowest byte first. -/
def bytesOf : Nat → Nat → List UInt8
  | 0, _ => []
  | k + 1, n => UInt8.ofNat n :: bytesOf k (n / 256)

/-- Numbers of given widths, one after the other. -/
def record (fields : List (Nat × Nat)) : List UInt8 := fields.flatMap fun (k, n) ↦ bytesOf k n

/-- A number is read back from where it was put. -/
theorem littleEndian_of_drop {l rest : List UInt8} {pos k n : Nat} (hn : n < 256 ^ k)
    (h : l.drop pos = bytesOf k n ++ rest) : littleEndian ⟨⟨l⟩⟩ pos k = .ok n := by
  induction k generalizing pos n with
  | zero =>
    obtain rfl : n = 0 := by simpa using hn
    rfl
  | succ k ih =>
    have hpos : pos < l.length := by
      refine Nat.lt_of_not_le fun hle ↦ ?_
      rw [List.drop_eq_nil_of_le hle] at h
      exact nomatch h
    rw [List.drop_eq_getElem_cons hpos, bytesOf, List.cons_append, List.cons.injEq] at h
    have hrest : n / 256 < 256 ^ k := by
      rw [Nat.pow_succ] at hn
      exact Nat.div_lt_of_lt_mul (by rwa [Nat.mul_comm] at hn)
    have hsize : pos < (ByteArray.mk ⟨l⟩).size := hpos
    have hbyte : (ByteArray.mk ⟨l⟩)[pos] = UInt8.ofNat n := h.1
    rw [littleEndian, dif_pos hsize, ih hrest h.2, hbyte]
    show Except.ok _ = Except.ok _
    congr 1
    rw [UInt8.toNat_ofNat']
    dsimp only
    omega

section Reading

variable {l x rest : List UInt8} {pos i k n : Nat}

/-- A number inside of something that stands at a position. -/
theorem littleEndian_within (h : l.drop pos = x) (hn : n < 256 ^ k)
    (hx : x.drop i = bytesOf k n ++ rest) : littleEndian ⟨⟨l⟩⟩ (pos + i) k = .ok n :=
  littleEndian_of_drop hn (by rw [← List.drop_drop, h, hx])

theorem extract_of_drop (h : l.drop pos = x ++ rest) :
    (ByteArray.mk ⟨l⟩).extract pos (pos + x.length) = ⟨⟨x⟩⟩ := by
  refine ByteArray.ext (Array.ext' ?_)
  simp [ByteArray.data_extract, h]

theorem slice_of_drop (hne : x ++ rest ≠ []) (h : l.drop pos = x ++ rest) :
    slice ⟨⟨l⟩⟩ pos x.length = .ok ⟨⟨x⟩⟩ := by
  have hlength := congrArg List.length h
  rw [List.length_drop, List.length_append] at hlength
  have hpos : 0 < x.length + rest.length :=
    Nat.lt_of_lt_of_eq (List.length_pos_iff.mpr hne) List.length_append
  have hsize : (ByteArray.mk ⟨l⟩).size = l.length := rfl
  rw [slice, if_pos (by omega), extract_of_drop h]

end Reading

/-! ## Files in an archive -/

/-- A file to be stored: its name in the code page, and its content. -/
structure StoredFile where
  name : List UInt8
  content : List UInt8

/-- A comment in which nothing is said. -/
def blankComment : List UInt8 := List.replicate 20 0

namespace StoredFile

variable (f : StoredFile)

/-- The file itself, behind a header that leaves out its name. -/
def body : List UInt8 :=
  record [(4, 0x04034B50), (2, 20), (2, 0), (2, 0), (2, 0), (2, 0),
    (4, (checksum ⟨⟨f.content⟩⟩).toNat), (4, f.content.length), (4, f.content.length), (2, 0), (2, 0)] ++
    f.content

/-- What the directory says of the file if it is at `start`. -/
def listing (start : Nat) : List UInt8 :=
  record [(4, 0x02014B50), (2, 20), (2, 20), (2, 0), (2, 0), (2, 0), (2, 0),
    (4, (checksum ⟨⟨f.content⟩⟩).toNat), (4, f.content.length), (4, f.content.length),
    (2, f.name.length), (2, 0), (2, 20), (2, 0), (2, 0), (4, 0), (4, start)] ++ (f.name ++ blankComment)

/-- What the directory says, once it has been read. -/
def header (start : Nat) : Header where
  name := codePageText ⟨⟨f.name⟩⟩
  isEncrypted := false
  method := 0
  checksum := (checksum ⟨⟨f.content⟩⟩).toNat
  packedSize := f.content.length
  size := f.content.length
  start
  hasStrongEncryption := false

/-- The file as it is read back. -/
def entry : Entry where
  name := codePageText ⟨⟨f.name⟩⟩
  isDirectory := namesDirectory (codePageText ⟨⟨f.name⟩⟩)
  declaredSize := f.content.length
  packedSize := f.content.length
  reads := .mk fun _ ↦ Read.chunks ⟨⟨f.content⟩⟩ 0

theorem length_body : f.body.length = 30 + f.content.length := by
  rw [body, List.length_append]
  rfl

theorem length_listing (start : Nat) : (f.listing start).length = 66 + f.name.length := by
  have hcomment : blankComment.length = 20 := rfl
  rw [listing, List.length_append, List.length_append, hcomment]
  show 46 + _ = _
  omega

theorem withExtraFields_nil (h : Header) : withExtraFields ⟨⟨[]⟩⟩ 0 h = .ok h := by
  rw [withExtraFields]
  exact if_neg (Nat.lt_irrefl 0)

variable {f}

/-- What the directory says of a file is read back from it. -/
theorem header_of_drop {l rest : List UInt8} {pos start : Nat} (hname : f.name.length < 2 ^ 16)
    (hcontent : f.content.length < 2 ^ 32) (hstart : start < 2 ^ 32)
    (h : l.drop pos = f.listing start ++ rest) :
    Archive.header ⟨⟨l⟩⟩ 0 pos = .ok (f.header start, pos + (f.listing start).length) := by
  have h₀ : littleEndian ⟨⟨l⟩⟩ pos 4 = .ok 0x02014B50 := littleEndian_of_drop (by decide) h
  have h₈ : littleEndian ⟨⟨l⟩⟩ (pos + 8) 2 = .ok 0 := littleEndian_within h (by decide) rfl
  have h₁₀ : littleEndian ⟨⟨l⟩⟩ (pos + 10) 2 = .ok 0 := littleEndian_within h (by decide) rfl
  have h₁₆ : littleEndian ⟨⟨l⟩⟩ (pos + 16) 4 = .ok (checksum ⟨⟨f.content⟩⟩).toNat :=
    littleEndian_within h (UInt32.toNat_lt _) rfl
  have h₂₀ : littleEndian ⟨⟨l⟩⟩ (pos + 20) 4 = .ok f.content.length := littleEndian_within h hcontent rfl
  have h₂₄ : littleEndian ⟨⟨l⟩⟩ (pos + 24) 4 = .ok f.content.length := littleEndian_within h hcontent rfl
  have h₂₈ : littleEndian ⟨⟨l⟩⟩ (pos + 28) 2 = .ok f.name.length := littleEndian_within h hname rfl
  have h₃₀ : littleEndian ⟨⟨l⟩⟩ (pos + 30) 2 = .ok 0 := littleEndian_within h (by decide) rfl
  have h₃₂ : littleEndian ⟨⟨l⟩⟩ (pos + 32) 2 = .ok 20 := littleEndian_within h (by decide) rfl
  have h₄₂ : littleEndian ⟨⟨l⟩⟩ (pos + 42) 4 = .ok start := littleEndian_within h hstart rfl
  have hdrop : l.drop (pos + headerSize) = f.name ++ (blankComment ++ rest) := by
    rw [← List.drop_drop, h, listing, List.append_assoc, List.append_assoc]
    rfl
  have hdrop' : l.drop (pos + headerSize + f.name.length) = blankComment ++ rest := by
    rw [← List.drop_drop, hdrop, List.drop_left]
  have hne : blankComment ++ rest ≠ [] := by simp [blankComment]
  have hslice := slice_of_drop (List.append_ne_nil_of_right_ne_nil f.name hne) hdrop
  have hextra : slice ⟨⟨l⟩⟩ (pos + headerSize + f.name.length) 0 = .ok ⟨⟨[]⟩⟩ :=
    slice_of_drop (x := []) hne hdrop'
  have hcomment : slice ⟨⟨l⟩⟩ (pos + headerSize + f.name.length + 0) 20 = .ok ⟨⟨blankComment⟩⟩ :=
    slice_of_drop hne hdrop'
  have hreach : ¬ max64 < start + 0 := by
    rw [max64]
    omega
  have hnext : pos + (f.listing start).length = pos + headerSize + f.name.length + 0 + 20 := by
    rw [length_listing, headerSize]
    omega
  rw [Archive.header, hnext]
  simp only [h₀, h₈, h₁₀, h₁₆, h₂₀, h₂₄, h₂₈, h₃₀, h₃₂, h₄₂, hslice, hextra, hcomment, hreach,
    withExtraFields_nil, bind, Except.bind, pure, Except.pure]
  rfl

/-- The file is read back from where it is. -/
theorem opened?_of_drop {l rest : List UInt8} {start : Nat} (h : l.drop start = f.body ++ rest)
    (enough : Nat) : opened? ⟨⟨l⟩⟩ enough (f.header start) = some f.entry := by
  have h₀ : littleEndian ⟨⟨l⟩⟩ start 4 = .ok 0x04034B50 := littleEndian_of_drop (by decide) h
  have h₂₆ : littleEndian ⟨⟨l⟩⟩ (start + 26) 2 = .ok 0 := littleEndian_within h (by decide) rfl
  have h₂₈ : littleEndian ⟨⟨l⟩⟩ (start + 28) 2 = .ok 0 := littleEndian_within h (by decide) rfl
  have hcontentStart : contentStart? ⟨⟨l⟩⟩ (f.header start).start = some (start + 30) := by
    have hstart : (f.header start).start = start := rfl
    simp only [contentStart?, hstart, h₀, h₂₆, h₂₈]
  have hdrop : l.drop (start + 30) = f.content ++ rest := by
    rw [← List.drop_drop, h, body, List.append_assoc]
    rfl
  have hcontent : (ByteArray.mk ⟨l⟩).extract (start + 30) (start + 30 + (f.header start).packedSize) =
      ⟨⟨f.content⟩⟩ := extract_of_drop hdrop
  have hmethod : Method.ofNumber? (f.header start).method = some .stored := rfl
  have hreads : reads .stored ⟨⟨f.content⟩⟩ (f.header start).checksum enough =
      Read.chunks ⟨⟨f.content⟩⟩ 0 := by
    simp [reads, closing, header]
  have hplain : ¬ ((f.header start).isEncrypted || (f.header start).hasStrongEncryption) = true :=
    Bool.false_ne_true
  rw [opened?, if_neg hplain, hcontentStart, hmethod]
  dsimp only
  rw [hcontent, hreads]
  rfl

end StoredFile

/-! ## The archive -/

/-- Files with the places where they are stored, from some place on. -/
def placed : Nat → List StoredFile → List (Nat × StoredFile)
  | _, [] => []
  | start, f :: rest => (start, f) :: placed (start + f.body.length) rest

def bodies (files : List StoredFile) : List UInt8 := files.flatMap StoredFile.body

def listings (places : List (Nat × StoredFile)) : List UInt8 :=
  places.flatMap fun (start, f) ↦ f.listing start

/-- The end record of an archive. -/
def closingRecord (files : List StoredFile) : List UInt8 :=
  record [(4, 0x06054B50), (2, 0), (2, 0), (2, files.length), (2, files.length),
    (4, (listings (placed 0 files)).length), (4, (bodies files).length), (2, 0)]

/-- An archive of some files. -/
def stored (files : List StoredFile) : List UInt8 :=
  bodies files ++ (listings (placed 0 files) ++ closingRecord files)

theorem map_snd_placed (start : Nat) (files : List StoredFile) :
    (placed start files).map Prod.snd = files := by
  induction files generalizing start with
  | nil => rfl
  | cons f rest ih => rw [placed, List.map_cons, ih]

theorem length_placed (start : Nat) (files : List StoredFile) :
    (placed start files).length = files.length := by
  rw [← List.length_map Prod.snd, map_snd_placed]

/-- Each file is in its place, and none is too far behind. -/
theorem drop_of_mem_placed {l rest : List UInt8} {start : Nat} {files : List StoredFile}
    (h : l.drop start = bodies files ++ rest) {place : Nat × StoredFile}
    (hmem : place ∈ placed start files) :
    (∃ rest', l.drop place.1 = place.2.body ++ rest') ∧
      place.1 + place.2.body.length ≤ start + (bodies files).length := by
  induction files generalizing start with
  | nil => cases hmem
  | cons f files ih =>
    have hlength : (bodies (f :: files)).length = f.body.length + (bodies files).length :=
      List.length_append
    have hhere : l.drop start = f.body ++ (bodies files ++ rest) := by
      rw [h, ← List.append_assoc]
      rfl
    rcases List.mem_cons.mp hmem with rfl | hmem
    · exact ⟨⟨_, hhere⟩, by dsimp only; omega⟩
    · have hnext : l.drop (start + f.body.length) = bodies files ++ rest := by
        rw [← List.drop_drop, hhere, List.drop_left]
      obtain ⟨hplace, hle⟩ := ih hnext hmem
      exact ⟨hplace, by omega⟩

/-- What the directory says of the files is read back from it. -/
theorem headers_of_drop {l rest : List UInt8} {pos : Nat} {places : List (Nat × StoredFile)}
    (hplaces : ∀ place ∈ places, place.2.name.length < 2 ^ 16 ∧ place.2.content.length < 2 ^ 32 ∧
      place.1 < 2 ^ 32)
    (h : l.drop pos = listings places ++ rest) :
    headers ⟨⟨l⟩⟩ 0 places.length pos = .ok (places.map fun place ↦ place.2.header place.1) := by
  induction places generalizing pos with
  | nil => rfl
  | cons place places ih =>
    obtain ⟨⟨hname, hcontent, hstart⟩, hrest⟩ := List.forall_mem_cons.mp hplaces
    have hhere : l.drop pos = place.2.listing place.1 ++ (listings places ++ rest) := by
      rw [h, ← List.append_assoc]
      rfl
    have hnext : l.drop (pos + (place.2.listing place.1).length) = listings places ++ rest := by
      rw [← List.drop_drop, hhere, List.drop_left]
    rw [List.length_cons, headers, StoredFile.header_of_drop hname hcontent hstart hhere]
    dsimp only
    rw [ih hrest hnext]
    rfl

/-- The directory ends in a blank comment. -/
theorem exists_listings_eq {places : List (Nat × StoredFile)} (hne : places ≠ []) :
    ∃ front, listings places = front ++ blankComment := by
  obtain ⟨front, place, rfl⟩ := (List.eq_nil_or_concat places).resolve_left hne
  have hlast : listings (front.concat place) = listings front ++ place.2.listing place.1 := by
    rw [List.concat_eq_append, listings, List.flatMap_append, List.flatMap_singleton]
    rfl
  rw [hlast, StoredFile.listing, ← List.append_assoc, ← List.append_assoc]
  exact ⟨_, rfl⟩

section Stored

variable {files : List StoredFile}

theorem drop_bodies : (stored files).drop (bodies files).length =
    listings (placed 0 files) ++ closingRecord files := by
  rw [stored, List.drop_left]

theorem drop_stored_of_mem_placed {place : Nat × StoredFile} (hplace : place ∈ placed 0 files) :
    (∃ rest, (stored files).drop place.1 = place.2.body ++ rest) ∧
      place.1 + place.2.body.length ≤ (bodies files).length := by
  have hdrop : (stored files).drop 0 =
      bodies files ++ (listings (placed 0 files) ++ closingRecord files) := rfl
  simpa only [Nat.zero_add] using drop_of_mem_placed hdrop hplace

/-- Where the end record is. -/
def closingStart (files : List StoredFile) : Nat :=
  (bodies files).length + (listings (placed 0 files)).length

theorem drop_closingStart : (stored files).drop (closingStart files) = closingRecord files := by
  rw [closingStart, ← List.drop_drop, drop_bodies, List.drop_left]

theorem size_stored : (ByteArray.mk ⟨stored files⟩).size = closingStart files + endRecordSize := by
  show (stored files).length = _
  rw [stored, List.length_append, List.length_append, ← Nat.add_assoc]
  rfl

/-- Files that are few and small enough for the numbers in an archive. -/
structure Storable (files : List StoredFile) : Prop where
  ne_nil : files ≠ []
  few : files.length < 2 ^ 16
  small : closingStart files < 2 ^ 32
  short : ∀ f ∈ files, f.name.length < 2 ^ 16

namespace Storable

variable (h : Storable files)
include h

theorem endRecord_eq : endRecord ⟨⟨stored files⟩⟩ = .ok ⟨closingStart files, 0, 0, files.length,
    files.length, (listings (placed 0 files)).length, (bodies files).length, 0⟩ := by
  have hsmall : (bodies files).length + (listings (placed 0 files)).length < 2 ^ 32 := h.small
  have hend : (stored files).drop (closingStart files) = closingRecord files := drop_closingStart
  have hmark : littleEndian ⟨⟨stored files⟩⟩ (closingStart files) 4 = .ok 0x06054B50 :=
    littleEndian_of_drop (by decide) hend
  have hfind : findEndRecord ⟨⟨stored files⟩⟩ max16 (closingStart files) = .ok (closingStart files) := by
    unfold findEndRecord
    rw [hmark]
    rfl
  have hcomment : slice ⟨⟨stored files⟩⟩ (closingStart files + endRecordSize) 0 =
      .ok ((ByteArray.mk ⟨stored files⟩).extract (closingStart files + endRecordSize)
        (closingStart files + endRecordSize)) := by
    refine if_pos ?_
    rw [size_stored]
    exact Nat.le_refl _
  have h₄ : littleEndian ⟨⟨stored files⟩⟩ (closingStart files + 4) 2 = .ok 0 :=
    littleEndian_within hend (by decide) rfl
  have h₆ : littleEndian ⟨⟨stored files⟩⟩ (closingStart files + 6) 2 = .ok 0 :=
    littleEndian_within hend (by decide) rfl
  have h₈ : littleEndian ⟨⟨stored files⟩⟩ (closingStart files + 8) 2 = .ok files.length :=
    littleEndian_within hend h.few rfl
  have h₁₀ : littleEndian ⟨⟨stored files⟩⟩ (closingStart files + 10) 2 = .ok files.length :=
    littleEndian_within hend h.few rfl
  have h₁₂ : littleEndian ⟨⟨stored files⟩⟩ (closingStart files + 12) 4 =
      .ok (listings (placed 0 files)).length := littleEndian_within hend (by omega) rfl
  have h₁₆ : littleEndian ⟨⟨stored files⟩⟩ (closingStart files + 16) 4 = .ok (bodies files).length :=
    littleEndian_within hend (by omega) rfl
  have h₂₀ : littleEndian ⟨⟨stored files⟩⟩ (closingStart files + 20) 2 = .ok 0 :=
    littleEndian_within hend (by decide) rfl
  rw [endRecord, size_stored, Nat.add_sub_cancel, if_neg (by omega)]
  simp only [hfind, h₂₀, hcomment, h₄, h₆, h₈, h₁₀, h₁₂, h₁₆, bind, Except.bind, pure, Except.pure]

/-- The directory is found right behind the files. -/
theorem whereabouts_eq : whereabouts ⟨⟨stored files⟩⟩ ⟨closingStart files, 0, 0, files.length,
    files.length, (listings (placed 0 files)).length, (bodies files).length, 0⟩ =
      .ok ⟨0, (bodies files).length, files.length⟩ := by
  have hne : placed 0 files ≠ [] := by
    rw [← List.length_pos_iff, length_placed]
    exact List.length_pos_iff.mpr h.ne_nil
  obtain ⟨front, hfront⟩ := exists_listings_eq hne
  have hlength : (listings (placed 0 files)).length = front.length + 20 := by
    rw [hfront, List.length_append]
    rfl
  have hstart : closingStart files = (bodies files).length + (listings (placed 0 files)).length := rfl
  have hlocator : (ByteArray.mk ⟨stored files⟩).size - (20 + endRecordSize + 0) =
      (bodies files).length + front.length := by
    rw [size_stored]
    omega
  -- What stands where a locator might be is the last comment.
  have hblank : littleEndian ⟨⟨stored files⟩⟩ ((bodies files).length + front.length) 4 = .ok 0 := by
    have hlast : (listings (placed 0 files) ++ closingRecord files).drop front.length =
        blankComment ++ closingRecord files := by
      rw [hfront, List.append_assoc, List.drop_left]
    exact littleEndian_within drop_bodies (by decide) hlast
  have hshift : closingStart files - (listings (placed 0 files)).length - (bodies files).length = 0 := by
    omega
  rw [whereabouts]
  simp only [hlocator, hblank, hshift]
  rw [if_pos (by rw [size_stored]; omega)]
  show (if _ then _ else _) = _
  rw [if_neg (by omega)]
  rfl

theorem directory_eq : directory ⟨⟨stored files⟩⟩ =
    .ok ((placed 0 files).map fun place ↦ place.2.header place.1) := by
  have hsmall : (bodies files).length + (listings (placed 0 files)).length < 2 ^ 32 := h.small
  have hreach : ¬ 2 ^ 63 ≤ (bodies files).length := by omega
  have hplaces : ∀ place ∈ placed 0 files, place.2.name.length < 2 ^ 16 ∧
      place.2.content.length < 2 ^ 32 ∧ place.1 < 2 ^ 32 := by
    intro place hplace
    obtain ⟨-, hle⟩ := drop_stored_of_mem_placed hplace
    rw [StoredFile.length_body] at hle
    have hmem : place.2 ∈ (placed 0 files).map Prod.snd := List.mem_map_of_mem hplace
    rw [map_snd_placed] at hmem
    exact ⟨h.short place.2 hmem, by omega, by omega⟩
  have hheaders := headers_of_drop hplaces drop_bodies
  rw [length_placed] at hheaders
  rw [directory, h.endRecord_eq]
  simp only [h.whereabouts_eq, hheaders, hreach, bind, Except.bind]
  rw [if_neg (by simp), if_neg id]

/-- The files are read back as they were put into the archive. -/
theorem entries_eq (enough : Nat) :
    entries ⟨⟨stored files⟩⟩ enough = .ok (files.map fun f ↦ some f.entry) := by
  have hopened : (placed 0 files).map (fun place ↦ opened? ⟨⟨stored files⟩⟩ enough
      (place.2.header place.1)) = (placed 0 files).map fun place ↦ some place.2.entry := by
    refine List.map_congr_left fun place hplace ↦ ?_
    obtain ⟨⟨rest, hdrop⟩, -⟩ := drop_stored_of_mem_placed hplace
    exact StoredFile.opened?_of_drop hdrop enough
  have hentries : (placed 0 files).map (fun place ↦ some place.2.entry) =
      files.map fun f ↦ some f.entry := by
    conv => rhs; rw [← map_snd_placed 0 files]
    rw [List.map_map]
    rfl
  rw [entries, h.directory_eq, ← hentries, ← hopened]
  show Except.ok (((placed 0 files).map _).map _) = _
  rw [List.map_map]
  rfl

end Storable

end Stored

end Archive

end CodeSurvey
