import CodeSurvey.Proofs.Intake.Stored
import CodeSurvey.Proofs.Survey.Sources

/-!
# Files in deep directories

A file of one byte in so many directories, once in an archive and once in a
directory.  Its path takes two bytes for each directory.  So there are depths at which
the path in a directory near the root is just short enough, while the path in a
workspace, which is further down, is too long.
-/

namespace CodeSurvey

end CodeSurvey
