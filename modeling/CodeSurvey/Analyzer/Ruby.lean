import CodeSurvey.Analyzer.Basic

/-!
# Ruby

The first module that a file opens is its package. A `Gemfile` is a manifest and lists gems.
-/

namespace CodeSurvey.Ruby

open Pattern

def quoted : Pattern := quote ++ group 1 (runOutside "'\"" 1) ++ quote

def requireLine : Pattern := lineIndent ++ "require" ++ blanks1 ++ quoted

def requireRelativeLine : Pattern := lineIndent ++ "require_relative" ++ blanks1 ++ quoted

def definition : Pattern :=
  lineIndent ++ group 1 (words ["class", "module"]) ++ blanks1 ++
    group 2 (one .capital ++ run (.word ||| .exactly ':') 0 true)

def gemLine : Pattern := lineIndent ++ "gem" ++ blanks1 ++ quoted

def selfCreate : Pattern := "def" ++ blanks1 ++ "self.create"

def buildMethod : Pattern := "def" ++ blanks1 ++ "build" ++ wordEdge

/-- A name in quotes or behind a colon. -/
def symbolOrText : Pattern := oneIn ":\"'" ++ group 1 word1

def createTableLine : Pattern := lineIndent ++ "create_table" ++ blanks1 ++ symbolOrText

def sequelTable : Pattern := "DB.create_table" ++ blanks1 ++ symbolOrText

def mongoidClass : Pattern :=
  "class" ++ blanks1 ++ group 1 word1 ++ run .any 0 false ++ "include Mongoid::Document"

def verb : Pattern := group 1 (words ["get", "post", "put", "patch", "delete"])

def verbRoute : Pattern :=
  lineIndent ++ verb ++ blanks1 ++ quote ++ group 2 (runOutside "'\"" 1) ++ quote

def grapeRoute : Pattern :=
  lineIndent ++ verb ++ blanks1 ++ optional (oneIn "'\":") ++
    group 2 (run (.word ||| .among ['/', ':']) 1 true) ++ optional quote ++
    blanks1 ++ "do"

def resources : Pattern :=
  wordEdge ++ "resource" ++ optional "s" ++ blanks1 ++ symbolOrText

def frameworks : List FrameworkRule := [
  ⟨"Ruby on Rails", ["Rails", "ActionController", "ActiveRecord", "ApplicationController"]⟩,
  ⟨"ActiveRecord (ORM)", ["ActiveRecord::Base", "ApplicationRecord"]⟩,
  ⟨"ActionMailer", ["ActionMailer", "ApplicationMailer"]⟩,
  ⟨"ActionCable (WebSocket)", ["ActionCable"]⟩,
  ⟨"ActiveJob (Background Jobs)", ["ActiveJob", "ApplicationJob"]⟩,
  ⟨"Sinatra", ["require 'sinatra'", "require \"sinatra\"", "Sinatra::Base",
    "Sinatra::Application"]⟩,
  ⟨"Hanami", ["Hanami::", "require 'hanami'"]⟩,
  ⟨"Grape (API)", ["Grape::API", "require 'grape'"]⟩,
  ⟨"Rack", ["Rack::", "require 'rack'"]⟩,
  ⟨"Sequel (ORM)", ["require 'sequel'", "Sequel::"]⟩,
  ⟨"Mongoid (MongoDB)", ["require 'mongoid'", "Mongoid::"]⟩,
  ⟨"Redis", ["require 'redis'", "Redis.new"]⟩,
  ⟨"PostgreSQL (pg gem)", ["require 'pg'", "PG.connect"]⟩,
  ⟨"MySQL (mysql2 gem)", ["require 'mysql2'"]⟩,
  ⟨"SQLite3", ["require 'sqlite3'"]⟩,
  ⟨"RSpec", ["require 'rspec'", "RSpec.describe"]⟩,
  ⟨"Minitest", ["require 'minitest'", "Minitest::Test", "def test_"]⟩,
  ⟨"Test::Unit", ["require 'test/unit'", "Test::Unit"]⟩,
  ⟨"Capybara (Integration Testing)", ["Capybara"]⟩,
  ⟨"FactoryBot", ["FactoryBot"]⟩,
  ⟨"Faraday (HTTP Client)", ["require 'faraday'", "Faraday.new"]⟩,
  ⟨"HTTParty", ["HTTParty", "require 'httparty'"]⟩,
  ⟨"Devise (Authentication)", ["Devise", "require 'devise'"]⟩,
  ⟨"JWT", ["JWT", "require 'jwt'"]⟩,
  ⟨"OmniAuth", ["OmniAuth", "require 'omniauth'"]⟩,
  ⟨"Sidekiq (Background Jobs)", ["Sidekiq"]⟩,
  ⟨"Resque", ["Resque"]⟩,
  ⟨"ActiveModel Serializers", ["ActiveModelSerializers", "ActiveModel::Serializer"]⟩,
  ⟨"JSON (stdlib)", ["require 'json'", "JSON.parse"]⟩,
  ⟨"Ruby Logger", ["require 'logger'", "Logger.new"]⟩,
  ⟨"GraphQL Ruby", ["GraphQL::Schema", "require 'graphql'"]⟩,
  ⟨"Elasticsearch", ["Elasticsearch::", "require 'elasticsearch'"]⟩]

def designs : List DesignRule := [
  ⟨"Singleton", [], ["include Singleton", "require 'singleton'"]⟩,
  ⟨"Observer", [], ["include Observable", "require 'observer'"]⟩,
  ⟨"Decorator", ["decorator"], ["SimpleDelegator", "Forwardable"]⟩,
  ⟨"Strategy", ["strategy", "policy"], []⟩,
  ⟨"Repository", ["repository", "repo"], []⟩,
  ⟨"Presenter / View Model", ["presenter", "view_model"], []⟩,
  ⟨"Concern (Mixin)", ["concern"], ["extend ActiveSupport::Concern"]⟩,
  ⟨"MVC Controller", ["controller"], ["ApplicationController", "< ActionController"]⟩,
  ⟨"ActiveRecord Model", [], ["< ApplicationRecord", "< ActiveRecord::Base"]⟩,
  ⟨"Interactor / Use Case", ["interactor", "use_case"], []⟩,
  ⟨"Serializer", ["serializer"], []⟩,
  ⟨"Background Worker", ["worker", "job"], []⟩]

/-- The gems of a `Gemfile`. -/
def manifest (text : List Char) : List Fact :=
  (gemLine.groupIn 1 text).map (Fact.depends "Gemfile" · "gem") ++
    [.framework "Bundler (Dependency Management)"]

/-- The first module that is opened, or else the directory. -/
def packageName (directoryModule : String) (text : List Char) : String :=
  (((definition.occurrences text).find? fun m => m.group? 1 = some "module".toList).bind
    (·.group? 2)).elim directoryModule String.ofList

def requires (module : String) (text : List Char) : List Fact :=
  ((requireLine.groupIn 1 text).filter fun target => !Text.startsWith target ".").map
      (Fact.depends module · "require") ++
    (requireRelativeLine.groupIn 1 text).map (Fact.depends module · "require_relative")

/-- Is this a file of build tasks, by its name or by what it says? -/
def isBuildFile (unit : SourceUnit) (text : List Char) : Bool :=
  Text.lower unit.fileName.toList = "rakefile".toList || Text.contains text "Rake::Task" ||
    (Text.contains text "namespace :" && Text.contains text "task :")

def specialDesigns (unit : SourceUnit) (text : List Char) : List Fact :=
  let name := unit.unitName
  let file := Text.lower unit.fileName.toList
  let callable := Text.contains text "def call"
  Fact.onlyIf (Text.contains file "factory" || selfCreate.occursIn text) (.pattern "Factory" name) ++
    Fact.onlyIf (Text.contains file "builder" || buildMethod.occursIn text)
      (.pattern "Builder" name) ++
    Fact.onlyIf (Text.contains file "command" && callable) (.pattern "Command" name) ++
    Fact.onlyIf (Text.contains file "service" || (callable && !Text.contains file "controller"))
      (.pattern "Service Object" name)

def schemas (text : List Char) : List Fact :=
  tablesIn createTableLine text "ActiveRecord Migration" ++
    tablesIn sequelTable text "Sequel" ++
    (if Text.contains text "include Mongoid::Document" then
      (firstGroup? mongoidClass 1 text).toList.map fun name =>
        .schema s!"Collection: {String.ofList name} (Mongoid)"
      else [])

/-- Routes are credited to the one routing dialect that the text shows. -/
def endpoints (text : List Char) : List Fact :=
  if Text.contains text "Grape::API" then methodRoutesIn grapeRoute text "Grape"
  else
    let framework :=
      if Text.containsAny text ["sinatra", "Sinatra::"] then "Sinatra" else "Rails Route"
    methodRoutesIn verbRoute text framework ++
      (if Text.contains text "routes.draw" then
        (resources.groupIn 1 text).map fun name =>
          .endpoint s!"CRUD /api/{String.ofList name} (Rails resources)"
        else [])

def analyze (unit : SourceUnit) : Reading :=
  let text := unit.text
  if Text.lower unit.fileName.toList = "gemfile".toList then ⟨.manifest, manifest text⟩
  else
    let module := parentModule unit.directory
    ⟨.heuristic,
      .package (packageName module text) ::
      .classes (definition.count text) ::
      requires module text ++
      frameworksIn text frameworks ++
      Fact.onlyIf (isBuildFile unit text) (.framework "Rake (Build Tool)") ++
      designsIn unit.fileName unit.unitName text designs ++
      specialDesigns unit text ++
      schemas text ++
      endpoints text⟩

end CodeSurvey.Ruby
