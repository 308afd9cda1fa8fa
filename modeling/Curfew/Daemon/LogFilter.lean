import Curfew.Daemon.LogDirective

namespace Curfew

/-! Which notices are shown.  A filter is a list of directives between commas, such as `info` or
`disciplined=warn`; of those that are about a notice the most specific one counts. -/

/-- The name under which the program logs. -/
def logTarget : String := "disciplined"

/-- Directives in the order in which they are written. -/
structure LogFilter where
  directives : List LogDirective
deriving DecidableEq, Repr

namespace LogDirective

/-- Every notice has its text as a field too. -/
def isAbout (directive : LogDirective) (notice : Notice) : Bool :=
  directive.countsForNotices && logTarget.startsWith directive.target &&
    directive.fieldNames.all ("message" :: notice.fields).contains

end LogDirective

namespace LogFilter

def texts (text : String) : List (List Char) :=
  (Text.pieces ',' text.toList).filter fun part => !part.isEmpty

/-- The filter of a text in which every directive is valid. -/
def read (text : String) : Except DirectiveError LogFilter :=
  ((texts text).mapM LogDirective.read).map LogFilter.mk

/-- The filter of the directives that are valid, and the texts of the others.  There is none if
a directive is unreadable. -/
def readValid? (text : String) : Option (LogFilter × List String) :=
  (texts text).foldr (fun part filter? => do
    let (filter, ignored) ← filter?
    match LogDirective.read part with
    | .ok directive => some (⟨directive :: filter.directives⟩, ignored)
    | .error .invalid => some (filter, String.ofList part :: ignored)
    | .error .unreadable => none) (some (⟨[]⟩, []))

/-- The most specific of the directives about a notice.  The later of two with the same scope
takes the place of the earlier. -/
def chosen? (filter : LogFilter) (notice : Notice) : Option LogDirective :=
  (filter.directives.filter (·.isAbout notice)).foldl (fun best next =>
    match best with
    | none => some next
    | some best =>
        if next.sameScope best || next.isMoreSpecific best then some next else some best) none

/-- Without any directive only errors are shown. -/
def levelFor (filter : LogFilter) (notice : Notice) : LogLevel :=
  if filter.directives.isEmpty then .error
  else ((filter.chosen? notice).map (·.level)).getD .off

def shows (filter : LogFilter) (notice : Notice) : Bool :=
  notice.level.rank ≤ (filter.levelFor notice).rank

/-- The filter of the environment counts if it is valid; otherwise the one that is given, less
its invalid directives, which are returned. -/
def choose? (fromEnvironment : Option String) (given : String) :
    Option (LogFilter × List String) :=
  match fromEnvironment.map read with
  | some (.ok filter) => some (filter, [])
  | some (.error .unreadable) => none
  | some (.error .invalid) | none => readValid? given

end LogFilter

end Curfew
