import CodeSurvey.Language
import CodeSurvey.SortedMap

/-!
# The model of a source tree

What a survey finds out about a tree of source files: packages, references between them, frameworks
and design patterns in use, data schemas, web endpoints, and counts of files and classes. A model
grows by facts, and two models merge into one. Counters have the width of a machine word and wrap
around; apart from that, nothing is ever taken away.
-/

namespace CodeSurvey

/-- A reference from a unit or package to a symbol, with a tag such as `import` or `use`. -/
structure Edge where
  source : String
  target : String
  kind : String
deriving DecidableEq, Repr

structure Model where
  packages : SortedSet String
  dependencies : List Edge
  frameworks : SortedMap String UInt64
  /-- The units in which each design pattern was recognised, in the order they were read. -/
  patterns : SortedMap String (List String)
  schemas : List String
  endpoints : List String
  languageFiles : SortedMap Language UInt64
  classCount : UInt64
deriving DecidableEq

/-- One thing learnt about a tree. -/
inductive Fact where
  | package (name : String)
  | dependency (edge : Edge)
  | framework (name : String)
  | pattern (name unit : String)
  | schema (mention : String)
  | endpoint (mention : String)
  | classes (count : Nat)
  /-- A file of this language was read to its end. -/
  | file (language : Language)
deriving DecidableEq, Repr

namespace Fact

/-- The package that a fact names, without the blanks around it. Blanks alone name none. -/
def package? : Fact → Option String
  | package name =>
    let name := String.ofList (Text.trim name.toList)
    if name = "" then none else some name
  | _ => none

/-- The reference that a fact is. A reference to nothing does not count. -/
def edge? : Fact → Option Edge
  | dependency e => if e.target = "" then none else some e
  | _ => none

def framework? : Fact → Option String
  | framework name => some name
  | _ => none

/-- A design pattern, and the unit that shows it. -/
def pattern? : Fact → Option (String × String)
  | pattern name unit => some (name, unit)
  | _ => none

def schema? : Fact → Option String
  | schema mention => some mention
  | _ => none

def endpoint? : Fact → Option String
  | endpoint mention => some mention
  | _ => none

def classCount : Fact → UInt64
  | classes count => .ofNat count
  | _ => 0

def language? : Fact → Option Language
  | file l => some l
  | _ => none

end Fact

namespace Model

def empty : Model := ⟨∅, [], ∅, ∅, [], [], ∅, 0⟩

instance : EmptyCollection Model := ⟨empty⟩
instance : Inhabited Model := ⟨empty⟩

/-- What machine words add up to. -/
def total (counts : List UInt64) : UInt64 := counts.foldr (· + ·) 0

@[simp] theorem total_nil : total [] = 0 := rfl

@[simp] theorem total_cons (n : UInt64) (ns : List UInt64) : total (n :: ns) = n + total ns := rfl

@[simp] theorem total_append (ms ns : List UInt64) : total (ms ++ ns) = total ms + total ns := by
  induction ms with
  | nil => exact (UInt64.zero_add _).symm
  | cons m rest ih => rw [List.cons_append, total_cons, ih, total_cons, UInt64.add_assoc]

/-- One more of something that is counted. -/
def countUp (old : Option UInt64) : UInt64 := old.getD 0 + 1

/-- Adds facts from first to last: names to sets, mentions at the ends of lists, and to what is counted. -/
def addAll (m : Model) (facts : List Fact) : Model where
  packages := (facts.filterMap Fact.package?).foldl (fun ps name => ps.insert name ()) m.packages
  dependencies := m.dependencies ++ facts.filterMap Fact.edge?
  frameworks := (facts.filterMap Fact.framework?).foldl (fun fs name => fs.alter name countUp) m.frameworks
  patterns := (facts.filterMap Fact.pattern?).foldl
    (fun ps (name, unit) => ps.alter name fun old => old.getD [] ++ [unit]) m.patterns
  schemas := m.schemas ++ facts.filterMap Fact.schema?
  endpoints := m.endpoints ++ facts.filterMap Fact.endpoint?
  languageFiles := (facts.filterMap Fact.language?).foldl (fun ls l => ls.alter l countUp) m.languageFiles
  classCount := m.classCount + total (facts.map Fact.classCount)

/-- Adds one fact. -/
def add (m : Model) (fact : Fact) : Model := m.addAll [fact]

/-- The model that holds nothing but these facts. -/
def ofFacts (facts : List Fact) : Model := addAll ∅ facts

/-- Sets are united, counts added up, and the lists of `n` follow those of `m`. -/
def merge (m n : Model) : Model where
  packages := m.packages.mergeWith (fun _ _ => ()) n.packages
  dependencies := m.dependencies ++ n.dependencies
  frameworks := m.frameworks.mergeWith (· + ·) n.frameworks
  patterns := m.patterns.mergeWith (· ++ ·) n.patterns
  schemas := m.schemas ++ n.schemas
  endpoints := m.endpoints ++ n.endpoints
  languageFiles := m.languageFiles.mergeWith (· + ·) n.languageFiles
  classCount := m.classCount + n.classCount

/-- The number of files read, of all languages. -/
def totalFiles (m : Model) : Nat := (total m.languageFiles.values).toNat

def fileCount (m : Model) (l : Language) : Nat := ((m.languageFiles.get? l).getD 0).toNat

def frameworkCount (m : Model) (name : String) : Nat := ((m.frameworks.get? name).getD 0).toNat

@[simp] theorem addAll_nil (m : Model) : m.addAll [] = m := by simp [addAll]

@[simp] theorem addAll_append (m : Model) (fs gs : List Fact) :
    m.addAll (fs ++ gs) = (m.addAll fs).addAll gs := by
  simp [addAll, UInt64.add_assoc]

theorem addAll_cons (m : Model) (f : Fact) (fs : List Fact) :
    m.addAll (f :: fs) = (m.add f).addAll fs := addAll_append m [f] fs

end Model

end CodeSurvey
