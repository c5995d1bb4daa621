import CodeSurvey.Archive.Checksum
import CodeSurvey.Archive.Deflate
import CodeSurvey.Archive.Directory

/-!
# The content of entries

An entry is opened at the place that the directory gives. Its content may be stored as it is or packed.
When all of it has been read, its checksum has to be the one in the directory; otherwise the last read
fails instead of telling that there is no more.
-/

namespace CodeSurvey.Archive

/-- Methods of packing. -/
inductive Method where
  | stored
  | deflated
  /-- Known, but its content cannot be unpacked. -/
  | sealed
deriving DecidableEq, Repr

def Method.ofNumber? : Nat → Option Method
  | 0 => some .stored
  | 8 => some .deflated
  | 12 => some .sealed
  | 93 => some .sealed
  | _ => none

/-- What comes after the last byte. -/
def closing (bytes : ByteArray) (expected : Nat) : List Read :=
  if (checksum bytes).toNat = expected then [] else [.failed "Invalid checksum"]

def corruptStream : Read := .failed "corrupt deflate stream"

/-- What reading some content brings when no more than `enough` bytes are going to be used. -/
def reads (method : Method) (packed : ByteArray) (expected enough : Nat) : List Read :=
  match method with
  | .stored => Read.chunks packed 0 ++ closing packed expected
  | .deflated =>
    let u := inflate packed enough
    Read.chunks u.bytes 0 ++
      match u.ending with
      | .complete => closing u.bytes expected
      | .failed => [corruptStream]
      | .more => []
  | .sealed => [corruptStream]

/-- Where the content of an entry starts, behind the entry's own header. -/
def contentStart? (data : ByteArray) (start : Nat) : Option Nat :=
  match littleEndian data start 4, littleEndian data (start + 26) 2, littleEndian data (start + 28) 2 with
  | .ok 0x04034B50, .ok nameSize, .ok extraSize => some (start + 30 + nameSize + extraSize)
  | _, _, _ => none

/-- An entry whose name ends in a slash of either kind is a directory. -/
def namesDirectory (name : String) : Bool :=
  match name.toList.getLast? with
  | some c => c = '/' || c = '\\'
  | none => false

/-- Opens an entry, unless it is encrypted, packed in an unknown way or not where it should be. -/
def opened? (data : ByteArray) (enough : Nat) (h : Header) : Option Entry :=
  if h.isEncrypted || h.hasStrongEncryption then none
  else
    match contentStart? data h.start, Method.ofNumber? h.method with
    | some start, some method => some {
        name := h.name
        isDirectory := namesDirectory h.name
        declaredSize := h.size
        packedSize := h.packedSize
        reads := Thunk.mk fun _ =>
          reads method (data.extract start (start + h.packedSize)) h.checksum enough }
    | _, _ => none

/-- The entries of an archive of whose contents no more than `enough` bytes each are going to be used. -/
def entries (data : ByteArray) (enough : Nat) : Except ArchiveError Entries :=
  (directory data).map (·.map (opened? data enough))

end CodeSurvey.Archive
