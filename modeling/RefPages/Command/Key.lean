import RefPages.Run.Config

namespace RefPages.Command

inductive Opt where
  | url
  | output
  | format
  | strategy
  | workers
  | timeout
  deriving DecidableEq, Repr

inductive Flag where
  | quiet
  | verbose
  | help
  | version
  deriving DecidableEq, Repr

inductive Key where
  | option (o : Opt)
  | flag (f : Flag)
  deriving DecidableEq, Repr

namespace Opt

def all : List Opt :=
  [url, output, format, strategy, workers, timeout]

def long : Opt → String
  | url => "url"
  | output => "output"
  | format => "format"
  | strategy => "strategy"
  | workers => "workers"
  | timeout => "timeout"

def short? : Opt → Option Char
  | url => some 'u'
  | output => some 'o'
  | format => some 'f'
  | strategy => some 's'
  | workers => some 't'
  | timeout => none

def valueName : Opt → String
  | url => "URL"
  | output => "PATH"
  | format => "FORMAT"
  | strategy => "STRATEGY"
  | workers => "NUM_WORKERS"
  | timeout => "SECONDS"

def about : Opt → String
  | url => "Documentation index page listing the function pages"
  | output => "File the report is written to"
  | format => "Report format: text, json"
  | strategy =>
    "Page extractor: dom (parsed tree) or legacy (raw markup scanner, splits on every ';', " ++
      "lines trimmed of edge spaces)"
  | workers => "Number of pages fetched concurrently"
  | timeout => "Request timeout in seconds (at least 1)"

def default : Opt → Text
  | url => Harvest.defaultIndex
  | output => Run.defaultOutput
  | format => "text".toList
  | strategy => "dom".toList
  | workers => "4".toList
  | timeout => "10".toList

def choices : Opt → List String
  | format => ["text", "json"]
  | strategy => ["dom", "legacy"]
  | _ => []

end Opt

namespace Flag

def all : List Flag :=
  [quiet, verbose, help, version]

def long : Flag → String
  | quiet => "quiet"
  | verbose => "verbose"
  | help => "help"
  | version => "version"

def short : Flag → Char
  | quiet => 'q'
  | verbose => 'v'
  | help => 'h'
  | version => 'V'

def about : Flag → String
  | quiet => "Suppress progress output"
  | verbose => "Increase log verbosity (-v info, -vv debug)"
  | help => "Print help"
  | version => "Print version"

def isCounted : Flag → Bool
  | verbose => true
  | _ => false

end Flag

namespace Key

def all : List Key :=
  Opt.all.map option ++ Flag.all.map flag

def long : Key → String
  | option o => o.long
  | flag f => f.long

def short? : Key → Option Char
  | option o => o.short?
  | flag f => some f.short

def label (key : Key) : Text :=
  let more := match key with
    | option o => " <".toList ++ o.valueName.toList ++ ['>']
    | flag f => if f.isCounted then "...".toList else []
  "--".toList ++ key.long.toList ++ more

def ofLong? (name : Text) : Option Key :=
  all.find? fun key => key.long.toList == name

def ofShort? (c : Char) : Option Key :=
  all.find? fun key => key.short? == some c

end Key
end RefPages.Command
