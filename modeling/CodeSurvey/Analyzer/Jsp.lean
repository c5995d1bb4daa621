import CodeSurvey.Analyzer.Basic

/-!
# Java server pages

Directives and actions refer to classes, tag libraries and other pages. Most markers are looked for in
either case.
-/

namespace CodeSurvey.Jsp

open Pattern

def directive (name : String) : Pattern := "<%@" ++ blanks ++ anyCase name ++ blanks1

def pageDirective : Pattern := directive "page" ++ group 1 (runOutside "%" 1) ++ "%>"

/-- A quoted value behind an attribute name. -/
def named (number : Nat) (name : String) : Pattern :=
  anyCase name ++ blanks ++ "=" ++ blanks ++ "\"" ++ group number (runOutside "\"" 1) ++ "\""

def pageImport : Pattern := named 1 "import"

def taglib : Pattern :=
  directive "taglib" ++ runOutside "%" 0 ++ named 1 "uri" ++ runOutside "%" 0 ++
    named 2 "prefix"

def includeDirective : Pattern := directive "include" ++ named 1 "file"

def action : Pattern :=
  anyCase "<jsp:" ++ group 1 (wordsAnyCase ["include", "forward"]) ++ blanks1 ++ runOutside ">" 0 ++
    named 2 "page"

def formAction : Pattern :=
  anyCase "<form" ++ blanks1 ++ runOutside ">" 0 ++ anyCase "action" ++ blanks ++ "=" ++ blanks ++
    quote ++ group 1 (runOutside "\"'" 1) ++ quote

def expression : Pattern := "$\x7b" ++ runOutside "\x7d" 1 ++ "\x7d"

/-- A stretch of program text inside a page. -/
def scriptlet : Pattern :=
  "<%" ++ one (.outside "@=!-".toList) ++ runOutside "%" 0 ++ "%>"

def sqlUsage : Pattern :=
  oneOf [anyCase "<sql:" ++ wordsAnyCase ["query", "update"] ++ wordEdge,
    wordEdge ++ wordsAnyCase ["preparedstatement", "statement", "resultset"] ++ blanks1 ++ word1]

def createdTable : Pattern := createTable ++ optional (oneIn "`'\"") ++ group 1 word1

/-- Markers as they look in lower case. -/
def frameworks : List FrameworkRule := [
  ⟨"JSTL", ["http://java.sun.com/jsp/jstl", "jakarta.tags.core", "<c:", "<fmt:", "<fn:"]⟩,
  ⟨"JSTL SQL", ["<sql:", "jakarta.servlet.jsp.jstl.sql"]⟩,
  ⟨"JSTL XML", ["<x:", "jakarta.servlet.jsp.jstl.xml"]⟩,
  ⟨"Spring MVC (View)", ["<spring:", "http://www.springframework.org/tags"]⟩,
  ⟨"Spring MVC Form Tags", ["<form:", "http://www.springframework.org/tags/form"]⟩,
  ⟨"Spring Security (JSP)", ["<sec:", "http://www.springframework.org/security/tags"]⟩,
  ⟨"Struts (View)", ["/struts-tags", "org.apache.struts"]⟩,
  ⟨"Apache Tiles", ["<tiles:", "org.apache.tiles"]⟩,
  ⟨"SiteMesh", ["sitemesh", "<decorator:"]⟩,
  ⟨"Jakarta EE Servlet", ["javax.servlet", "jakarta.servlet"]⟩,
  ⟨"JavaServer Faces (JSF)", ["javax.faces", "jakarta.faces", "<h:", "<f:"]⟩,
  ⟨"jQuery", ["jquery"]⟩,
  ⟨"Bootstrap", ["bootstrap"]⟩,
  ⟨"Apache Shiro (JSP)", ["<shiro:", "org.apache.shiro"]⟩,
  ⟨"MyBatis", ["mybatis", "sqlmap"]⟩]

/-- Beginnings of the names of platform classes. -/
def platformPackages : List String := ["java.", "javax.", "jakarta.", "sun.", "com.sun."]

def isPlatformClass (name : List Char) : Bool := platformPackages.any (Text.startsWith name)

/-- Classes that the page directives import, from outside the platform. -/
def imports (page : String) (text : List Char) : List Fact :=
  let lists := (pageDirective.groupIn 1 text).flatMap (pageImport.groupIn 1)
  let names := lists.flatMap fun l => (Text.pieces (· = ',') l).map Text.trim
  (names.filter fun n => n ≠ [] && !isPlatformClass n).map (Fact.depends page · "jsp-import")

def taglibs (text : List Char) : List Fact :=
  (taglib.occurrences text).filterMap fun m => do
    let uri ← m.group? 1
    let mark ← m.group? 2
    return .dependency
      ⟨"taglib", s!"{String.ofList (Text.lower uri)} (prefix:{String.ofList mark})", "taglib"⟩

/-- Other pages that the page includes or forwards to. -/
def pages (text : List Char) : List Fact :=
  (includeDirective.groupIn 1 text).map (fun file => .package s!"include:{String.ofList file}") ++
    (action.occurrences text).filterMap fun m => do
      let kind ← m.group? 1
      let page ← m.group? 2
      return .package s!"{String.ofList (Text.lower kind)}:{String.ofList page}"

/-- The design patterns, each with what gives it away. -/
def designSigns (text lowered : List Char) : List (String × Bool) :=
  let has := Text.contains text
  let hasWord := Text.contains lowered
  let hasExpressions := has "$\x7b"
  [("MVC View", has "<%@ page" || has "<c:" || hasExpressions),
    ("Front Controller", hasWord "requestdispatcher" || hasWord "jsp:forward"),
    ("Template Method (JSP include)", has "<%@ include" || hasWord "<jsp:include"),
    ("Filter/Decorator", hasWord "filter"),
    ("Scriptlet (Anti-pattern)", scriptlet.occursIn text),
    ("Model Binding", hasExpressions && (hasWord "model." || hasWord "requestscope.")),
    ("Security (Authentication)", has "<sec:" || hasWord "authentication"),
    ("AJAX", hasWord "xmlhttprequest" || hasWord "$.ajax" || hasWord "fetch(")]

def designs (page : String) (text lowered : List Char) : List Fact :=
  ((designSigns text lowered).filter (·.2)).map fun (name, _) => .pattern name page

/-- Where forms are sent, unless to a place in the page itself. -/
def endpoints (text : List Char) : List Fact :=
  (((formAction.groupIn 1 text).map Text.trim).filter fun a =>
    a ≠ [] && !Text.startsWith a "#").map fun a => .endpoint s!"JSP:{String.ofList a}"

def schemas (text : List Char) : List Fact :=
  Fact.onlyIf (sqlUsage.occursIn text) (.schema "Table: SQL Usage (JSP)") ++
    tablesIn createdTable text "Raw SQL in JSP"

/-- A page with program text becomes a class of its own. -/
def classes (text : List Char) : List Fact := Fact.onlyIf (scriptlet.occursIn text) (.classes 1)

def expressions (page : String) (text : List Char) : List Fact :=
  Fact.onlyIf (expression.occursIn text) (.package s!"el_usage:{page}")

def analyze (unit : SourceUnit) : Reading :=
  let text := unit.text
  let lowered := Text.lower text
  let page := unit.unitName
  ⟨.heuristic,
    imports page text ++
    taglibs text ++
    pages text ++
    frameworksIn lowered frameworks ++
    designs page text lowered ++
    endpoints text ++
    schemas text ++
    classes text ++
    expressions page text⟩

end CodeSurvey.Jsp
