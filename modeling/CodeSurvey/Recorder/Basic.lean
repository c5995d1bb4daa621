import CodeSurvey.Analyzer.Basic

/-!
# Recording into a model

An analyzer at work is handed a model, adds to it what it comes across, and says at the end how it has
read the unit.  This module holds the loops that the analyzers share.
-/

namespace CodeSurvey

/-- Adds one fact to the model at hand. -/
def tell (fact : Fact) : StateM Model Unit := modify (·.add fact)

/-- Runs a program only if the unit shows a sign. -/
def when (isShown : Bool) (p : StateM Model Unit) : StateM Model Unit := if isShown then p else pure ()

def recordFrameworks (text : List Char) (rules : List FrameworkRule) : StateM Model Unit :=
  rules.forM fun r =>
    when (Text.containsAny text r.markers) (tell (.framework r.name))

def recordDesigns (fileName unitName : String) (text : List Char) (rules : List DesignRule) :
    StateM Model Unit :=
  let fileName := Text.lower fileName.toList
  rules.forM fun r =>
    when (Text.containsAny fileName r.nameHints || Text.containsAny text r.markers) <|
      tell (.pattern r.name unitName)

/-- Design patterns of which it has been found out one by one whether the unit shows them. -/
def recordSigns (unitName : String) (signs : List (String × Bool)) : StateM Model Unit :=
  signs.forM fun (name, isShown) =>
    when isShown (tell (.pattern name unitName))

def recordTables (p : Pattern) (text : List Char) (origin : String) : StateM Model Unit :=
  (p.groupIn 1 text).forM fun name => tell (.table name origin)

def recordMethodRoutes (p : Pattern) (text : List Char) (framework : String) : StateM Model Unit :=
  (p.occurrences text).forM fun m =>
    (m.group? 1).forM fun method =>
      (m.group? 2).forM fun path => tell (.route (upper method) path framework)

def recordPathRoutes (p : Pattern) (text : List Char) (label framework : String) : StateM Model Unit :=
  (p.groupIn 1 text).forM fun path => tell (.route label.toList path framework)

end CodeSurvey
