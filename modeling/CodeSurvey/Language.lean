import CodeSurvey.Path

/-!
# Languages

The languages whose source files are surveyed, and how a file name tells which one a file is written
in. Content is never looked at.
-/

namespace CodeSurvey

inductive Language where
  | java | csharp | javascript | typescript | c | cpp | ruby | rust | kotlin | python | php | jsp
  | unknown
deriving DecidableEq, Repr

namespace Language

/-- Every language that can be surveyed. -/
def all : List Language :=
  [java, csharp, javascript, typescript, c, cpp, ruby, rust, kotlin, python, php, jsp]

/-- The name shown in reports. -/
def displayName : Language → String
  | java => "Java"
  | csharp => "C#"
  | javascript => "JavaScript"
  | typescript => "TypeScript"
  | c => "C"
  | cpp => "C++"
  | ruby => "Ruby"
  | rust => "Rust"
  | kotlin => "Kotlin"
  | python => "Python"
  | php => "PHP"
  | jsp => "JSP"
  | unknown => "Unknown"

/-- Languages are listed in the order of their declaration. -/
instance : LT Language := ⟨fun a b => a.ctorIdx < b.ctorIdx⟩

instance : DecidableLT Language := fun a b => inferInstanceAs (Decidable (a.ctorIdx < b.ctorIdx))

instance : Trans (α := Language) (· < ·) (· < ·) (· < ·) := ⟨fun h k => Nat.lt_trans h k⟩

def isKnown (l : Language) : Bool := l != unknown

/-- Names of build and dependency manifests, in lower case, with the language that owns them. They take
precedence over extensions. -/
def manifestNames : List (String × Language) :=
  [("gemfile", ruby), ("rakefile", ruby), ("cargo.toml", rust), ("build.rs", rust),
    ("requirements.txt", python), ("pipfile", python), ("pyproject.toml", python),
    ("setup.py", python), ("setup.cfg", python), ("composer.json", php), ("composer.lock", php)]

/-- Extensions, in lower case, with the language of the files that have them. -/
def extensions : List (String × Language) :=
  [("java", java), ("cs", csharp), ("js", javascript), ("jsx", javascript), ("mjs", javascript),
    ("cjs", javascript), ("ts", typescript), ("tsx", typescript), ("c", c), ("h", c), ("cpp", cpp),
    ("cc", cpp), ("cxx", cpp), ("c++", cpp), ("hpp", cpp), ("rb", ruby), ("rake", ruby),
    ("gemspec", ruby), ("rs", rust), ("kt", kotlin), ("kts", kotlin), ("py", python),
    ("pyw", python), ("php", php), ("phtml", php), ("php3", php), ("php4", php), ("php5", php),
    ("phps", php), ("jsp", jsp), ("jspf", jsp), ("jspx", jsp)]

/-- The text after the last dot of a name. A dot at the very start makes a hidden file and begins no
extension. -/
def extension? (name : List Char) : Option (List Char) :=
  match Text.splitLast? '.' name with
  | some (_ :: _, ext) => some ext
  | _ => none

/-- The language of a file by its name, whatever the case of the letters. -/
def ofFileName (name : String) : Language :=
  let name := Text.lower name.toList
  match manifestNames.lookup (String.ofList name) with
  | some l => l
  | none =>
    match extension? name with
    | some ext => (extensions.lookup (String.ofList ext)).getD unknown
    | none => unknown

/-- The language of a file by its path. -/
def ofPath (path : String) : Language :=
  match Path.fileName? path with
  | some name => ofFileName name
  | none => unknown

end Language

/-- Is this the name of a build or dependency manifest? -/
def isManifestName (name : String) : Bool :=
  (Language.manifestNames.lookup (String.ofList (Text.lower name.toList))).isSome

end CodeSurvey
