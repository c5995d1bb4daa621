import CodeSurvey.Text.Basic

/-!
# Names that may be unpacked

An archive may fill the workspace only with sources, build files and configuration. A file is judged
by its name alone, whatever the case of its letters.
-/

namespace CodeSurvey

/-- Extensions of sources, build files and configuration, in lower case. -/
def allowedExtensions : List String :=
  ["java", "c", "h", "cpp", "cc", "cxx", "hpp", "c++", "cs", "js", "jsx", "ts", "tsx", "mjs", "cjs",
    "rb", "rake", "gemspec", "rs", "kt", "kts", "py", "pyw", "php", "phtml", "php3", "php4", "php5",
    "phps", "jsp", "jspf", "jspx", "gradle", "xml", "json", "yaml", "yml", "toml", "properties",
    "md", "cfg"]

/-- Build files and manifests that are allowed whatever their extension, in lower case. -/
def allowedNames : List String :=
  ["gemfile", "rakefile", "makefile", "dockerfile", "cmakelists.txt", "readme.md", "pipfile",
    "requirements.txt", "pyproject.toml", "setup.py", "setup.cfg", "composer.json",
    "composer.lock"]

/-- May a file of this name be unpacked? A name without a dot has to be a known one. -/
def isWhitelisted (name : String) : Bool :=
  let name := Text.lower name.toList
  allowedNames.contains (String.ofList name) ||
    match Text.splitLast? '.' name with
    | some (_, extension) => allowedExtensions.contains (String.ofList extension)
    | none => false

/-- Extensions of the archives that are accepted. -/
def archiveExtensions : List String := ["zip", "jar"]

/-- Is this the name of an archive? -/
def hasArchiveExtension (name : String) : Bool :=
  archiveExtensions.any fun extension => Text.endsWith (Text.lower name.toList) ("." ++ extension)

end CodeSurvey
