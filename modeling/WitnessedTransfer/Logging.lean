import WitnessedTransfer.Json.Codec
import WitnessedTransfer.Logging.Directive

/-! Setting up the log. It can be set up once; the first line, if the filter lets it through, says
in which format. A filter is a list of directives between commas; what is none is passed over with
a complaint. -/
namespace WitnessedTransfer

inductive LogFormat where
  | pretty
  | json
deriving DecidableEq

namespace LogFormat

def name : LogFormat → String
  | .pretty => "Pretty"
  | .json => "Json"

/-- The format called by a text in letters of either case; pretty if there is none. -/
def ofText (text : String) : LogFormat :=
  if text.toList.map Char.toLower = "json".toList then .json else .pretty

end LogFormat

/-- The parts of a text between commas. -/
def splitAtCommas : List Char → List (List Char)
  | [] => [[]]
  | ',' :: rest => [] :: splitAtCommas rest
  | c :: rest =>
    match splitAtCommas rest with
    | [] => [[c]]
    | part :: parts => (c :: part) :: parts

/-- The directives of a filter, each with its text. -/
def directivesOf (filter : String) : List (List Char × Except LogMistake LogDirective) :=
  ((splitAtCommas filter.toList).filter (· ≠ [])).map fun text => (text, LogDirective.ofChars text)

/-- Whether a filter lets a line of a level through. -/
def filterPasses (filter : String) (target : String) (level : LogLevel) : Bool :=
  let directives := (directivesOf filter).filterMap (·.2.toOption)
  let best := (directives.filter (·.concerns target)).foldl LogDirective.sharper none
  best.any fun d => level.rank ≤ d.level.rank

/-- What is said about the directives that are passed over. -/
def complaintsAbout (filter : String) : List String :=
  (directivesOf filter).filterMap fun
    | (text, .error mistake) =>
      some ("ignoring `" ++ String.ofList text ++ "`: " ++ mistake.message)
    | (_, .ok _) => none

structure LogLine where
  level : LogLevel
  message : String
  target : String
deriving DecidableEq

def LogLine.toJson (l : LogLine) : Json :=
  Json.record
    [("level", Json.text (String.ofList (l.level.name.toList.map Char.toUpper))),
      ("fields", Json.record [("message", encode l.message)]), ("target", encode l.target)]

/-- The log of a process: in which format it was set up, if it was, its lines, and beside it what
was said about the filters it was given. -/
structure Log where
  format : Option LogFormat
  lines : List LogLine
  complaints : List String

namespace Log

def empty : Log := ⟨none, [], []⟩

def firstLine (format : LogFormat) : LogLine :=
  ⟨.info, "logging initialized (format=" ++ format.name ++ ")", "value_transfer::logging"⟩

/-- Sets the log up, unless it is set up already, and says whether it did. The filter is read in
either case. -/
def setUp (filter : String) (format : LogFormat) (log : Log) : Bool × Log :=
  let log := { log with complaints := log.complaints ++ complaintsAbout filter }
  match log.format with
  | some _ => (false, log)
  | none =>
    let line := firstLine format
    let lines := if filterPasses filter line.target line.level then [line] else []
    (true, { log with format := some format, lines })

end Log
end WitnessedTransfer
