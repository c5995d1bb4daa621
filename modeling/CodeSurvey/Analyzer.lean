import CodeSurvey.Recorder.Compiled
import CodeSurvey.Recorder.Scripted

/-!
# The analyzer of each language

Every language that can be surveyed has exactly one analyzer, and one recorder, which is the analyzer at
work on a model. Some of them try a grammar first, if the build has any.
-/

namespace CodeSurvey.Language

variable [Grammars]

def analyzer? : Language → Option (SourceUnit → Reading)
  | .java => some Java.analyze
  | .csharp => some CSharp.analyze
  | .javascript => some (JavaScript.analyze false)
  | .typescript => some (JavaScript.analyze true)
  | .c => some C.analyze
  | .cpp => some Cpp.analyze
  | .ruby => some Ruby.analyze
  | .rust => some Rust.analyze
  | .kotlin => some Kotlin.analyze
  | .python => some Python.analyze
  | .php => some Php.analyze
  | .jsp => some Jsp.analyze
  | .unknown => none

def recorder? : Language → Option (SourceUnit → StateM Model Fidelity)
  | .java => some Java.record
  | .csharp => some CSharp.record
  | .javascript => some (JavaScript.record false)
  | .typescript => some (JavaScript.record true)
  | .c => some C.record
  | .cpp => some Cpp.record
  | .ruby => some Ruby.record
  | .rust => some Rust.record
  | .kotlin => some Kotlin.record
  | .python => some Python.record
  | .php => some Php.record
  | .jsp => some Jsp.record
  | .unknown => none

/-- Is a grammar tried before patterns are? -/
def triesGrammar : Language → Bool
  | .java | .javascript | .typescript | .c | .cpp | .rust | .python => Grammars.parse?.isSome
  | _ => false

end CodeSurvey.Language
