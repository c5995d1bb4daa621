import CodeSurvey.FileTree.Lookup
import CodeSurvey.Proofs.FileTree.Content
import CodeSurvey.Proofs.Intake.EntryName

/-!
# Paths to what is right below the root

A safe name takes one step, and so does the path that begins at the root and goes
down by it.
-/

namespace CodeSurvey.FileTree

variable {name : String}

theorem getLast?_ne_slash (h : SafeName name) : name.toList.getLast? ≠ some '/' :=
  fun hlast ↦ h.no_slash (List.mem_of_getLast? hlast)

theorem steps_of_safeName (h : SafeName name) : steps name = [name] := by
  have hne : name.toList ≠ [] := by simpa using h.ne_empty
  rw [steps, h.pieces_eq, if_neg (getLast?_ne_slash h)]
  simp [hne]

theorem toList_path_singleton (name : String) : (Location.path [name]).toList = '/' :: name.toList := by
  rw [Location.path, String.intercalate_singleton, String.toList_append]
  rfl

theorem steps_path_of_safeName (h : SafeName name) : steps (Location.path [name]) = [name] := by
  have hne : name.toList ≠ [] := by simpa using h.ne_empty
  have hlast : ('/' :: name.toList).getLast? ≠ some '/' := by
    rw [List.getLast?_cons_of_ne_nil hne]
    exact getLast?_ne_slash h
  rw [steps, toList_path_singleton, Text.pieces_cons_of_sep (decide_eq_true rfl),
    h.pieces_eq, if_neg hlast]
  simp [hne]

variable {t : FileTree} {n : Node} {here : Location} {rest : List String} {links : Nat} {last : Bool}

/-! ## Single steps -/

/-- A step leads down if there is something and it is no link. -/
theorem follow_down (h : SafeName name) (hshort : name.utf8ByteSize ≤ Location.maxName)
    (hhere : t.get? here = some .directory) (hget : t.get? (here ++ [name]) = some n)
    (hlink : ∀ target, n ≠ .link target) :
    t.follow last links here (name :: rest) = t.follow last links (here ++ [name]) rest := by
  rw [follow, if_neg (by simp [isDirectory, hhere]), if_neg h.ne_dot, if_neg h.ne_dots,
    if_neg (Nat.not_lt.mpr hshort), hget]
  cases n with
  | link target => exact absurd rfl (hlink target)
  | _ => rfl

theorem follow_none (h : SafeName name) (hshort : name.utf8ByteSize ≤ Location.maxName)
    (hhere : t.get? here = some .directory) (hget : t.get? (here ++ [name]) = none) :
    t.follow last links here (name :: rest) = .error .notFound := by
  rw [follow, if_neg (by simp [isDirectory, hhere]), if_neg h.ne_dot, if_neg h.ne_dots,
    if_neg (Nat.not_lt.mpr hshort), hget]

/-- A link is replaced by what it stands for. -/
theorem follow_link (h : SafeName name) (hshort : name.utf8ByteSize ≤ Location.maxName)
    (hhere : t.get? here = some .directory) {target : String}
    (hget : t.get? (here ++ [name]) = some (.link target)) :
    t.follow true (links + 1) here (name :: rest) =
      t.follow true links (if Path.isAbsolute target then [] else here) (steps target ++ rest) := by
  rw [follow, if_neg (by simp [isDirectory, hhere]), if_neg h.ne_dot, if_neg h.ne_dots,
    if_neg (Nat.not_lt.mpr hshort), hget]
  simp

theorem follow_up (hhere : t.get? here = some .directory) :
    t.follow last links here (".." :: rest) = t.follow last links here.dropLast rest := by
  rw [follow, if_neg (by simp [isDirectory, hhere]), if_neg (by decide), if_pos rfl]

theorem follow_singleton (h : SafeName name) (hshort : name.utf8ByteSize ≤ Location.maxName)
    (hget : t.get? [name] = some n) (hlink : ∀ target, n ≠ .link target) :
    t.follow true links [] [name] = .ok [name] := by
  rw [follow_down h hshort rfl hget hlink, follow]
  rfl

/-! ## Whole paths -/

/-- The name of what is right below the root takes one step there. -/
theorem locate_name (h : SafeName name) (hshort : name.utf8ByteSize ≤ Location.maxName) (t : FileTree)
    (last : Bool) : t.locate [] name last = t.follow last maxLinks [] [name] := by
  have hsize : name.utf8ByteSize ≤ Location.maxPath := Nat.le_trans hshort (Nat.le_of_ble_eq_true rfl)
  rw [locate, if_neg h.no_nul, if_neg h.ne_empty, if_neg (Nat.not_lt.mpr hsize), ite_self,
    steps_of_safeName h]

/-- What is right below the root is found under its name. -/
theorem find_name (h : SafeName name) (hshort : name.utf8ByteSize ≤ Location.maxName)
    (hget : t.get? [name] = some n) (hlink : ∀ target, n ≠ .link target) :
    t.find [] name = .ok ([name], n) := by
  rw [find, locate_name h hshort, follow_singleton h hshort hget hlink]
  dsimp only
  rw [hget]

/-- The path to what is right below the root takes one step. -/
theorem locate_path (h : SafeName name) (hshort : name.utf8ByteSize ≤ Location.maxName) (t : FileTree)
    (cwd : Location) (last : Bool) :
    t.locate cwd (Location.path [name]) last = t.follow last maxLinks [] [name] := by
  have hnul : '\x00' ∉ (Location.path [name]).toList := by
    rw [toList_path_singleton]
    simpa using h.no_nul
  have hne : Location.path [name] ≠ "" := by
    intro hempty
    have hlist := toList_path_singleton name
    rw [hempty] at hlist
    exact nomatch hlist
  have hsize : (Location.path [name]).utf8ByteSize ≤ Location.maxPath := by
    have hone : "/".utf8ByteSize = 1 := rfl
    have hmax : Location.maxName + 1 ≤ Location.maxPath := Nat.le_of_ble_eq_true rfl
    rw [Location.path, String.intercalate_singleton, String.utf8ByteSize_append, hone]
    omega
  have habsolute : Path.isAbsolute (Location.path [name]) = true := by
    rw [Path.isAbsolute, toList_path_singleton]
    rfl
  rw [locate, if_neg hnul, if_neg hne, if_neg (Nat.not_lt.mpr hsize), if_pos habsolute,
    steps_path_of_safeName h]

/-- It is found under its path as well. -/
theorem find_path (h : SafeName name) (hshort : name.utf8ByteSize ≤ Location.maxName)
    (hget : t.get? [name] = some n) (hlink : ∀ target, n ≠ .link target) :
    t.find [] (Location.path [name]) = .ok ([name], n) := by
  rw [find, locate_path h hshort, follow_singleton h hshort hget hlink]
  dsimp only
  rw [hget]

/-- What is not there is not found. -/
theorem find_path_of_none (h : SafeName name) (hshort : name.utf8ByteSize ≤ Location.maxName)
    (hget : t.get? [name] = none) (cwd : Location) :
    t.find cwd (Location.path [name]) = .error .notFound := by
  rw [find, locate_path h hshort, follow_none h hshort rfl hget]

end CodeSurvey.FileTree
