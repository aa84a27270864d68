import RefPages.Page.Marked
import RefPages.Report.Basic

namespace RefPages.Harvest

inductive Level where
  | warn
  | info
  | debug
  deriving DecidableEq, Repr

namespace Level

def name : Level → String
  | warn => "warn"
  | info => "info"
  | debug => "debug"

def rank : Level → Nat
  | warn => 0
  | info => 1
  | debug => 2

def ofVerbosity : Nat → Level
  | 0 => warn
  | 1 => info
  | _ => debug

def isShown (down level : Level) : Bool :=
  level.rank ≤ down.rank

end Level

inductive Event where
  | fetching (address : Text)
  | linkFound (link : PageLink)
  | indexRead (address : Text) (pages : Nat)
  | pagesFound (address : Text) (pages : Nat)
  | harvesting (pages workers : Nat)
  | blockRead (block : Page.Block)
  | pageRead (address : Text) (extract : Extract)
  | pageSkipped (address failure : Text)
  | harvested (pages failed : Nat)
  deriving DecidableEq, Repr

namespace Event

def level : Event → Level
  | pageSkipped .. => .warn
  | indexRead .. | pagesFound .. | harvested .. => .info
  | fetching _ | linkFound _ | harvesting .. | blockRead _ | pageRead .. => .debug

def part : Event → String
  | linkFound _ => "glerrors_scanner::index"
  | blockRead _ => "glerrors_scanner::page"
  | pagesFound .. => "glerrors_core::harvest"
  | _ => "glerrors_scanner::harvester"

def number (n : Nat) : Text :=
  Text.ofNat 10 n

def message : Event → Text
  | fetching address => "Fetching ".toList ++ address
  | linkFound l => "Found page link: ".toList ++ l.href ++ " -> ".toList ++ l.url
  | indexRead address pages =>
    "Index ".toList ++ address ++ " lists ".toList ++ number pages ++ " pages".toList
  | pagesFound address pages =>
    "Found ".toList ++ number pages ++ " pages on ".toList ++ address
  | harvesting pages workers =>
    "Harvesting ".toList ++ number pages ++ " pages with ".toList ++ number workers ++
      " workers".toList
  | blockRead b =>
    let kind := match b.part with
      | .synopsis => "synopsis"
      | .errors => "errors"
    kind.toList ++ " block produced ".toList ++ number b.strings.length ++ " strings".toList
  | pageRead address e =>
    address ++ ": ".toList ++ number e.signatures.length ++ " signatures, ".toList ++
      number e.errors.length ++ " errors".toList
  | pageSkipped address failure => "Skipping ".toList ++ address ++ ": ".toList ++ failure
  | harvested pages failed =>
    "Harvest complete. ".toList ++ number pages ++ " pages, ".toList ++ number failed ++
      " failed".toList

def line (e : Event) : Text :=
  e.level.name.toUpper.toList ++ ' ' :: e.part.toList ++ ": ".toList ++ e.message

end Event

inductive Progress where
  | connecting (address : Text)
  | parsed (done total : Nat) (result : PageResult)
  deriving DecidableEq, Repr

def Progress.isOfPage : Progress → Bool
  | connecting _ => false
  | parsed .. => true

def Progress.message : Progress → Text
  | connecting address => "Connecting to: ".toList ++ address
  | parsed done total _ =>
    "Number of pages parsed: ".toList ++ Text.ofNat 10 done ++ '/' :: Text.ofNat 10 total

inductive Note where
  | request (address : Text)
  | event (e : Event)
  | progress (p : Progress)
  deriving DecidableEq, Repr

namespace Note

def requests (notes : List Note) : List Text :=
  notes.filterMap fun
    | request address => some address
    | _ => none

def events (notes : List Note) : List Event :=
  notes.filterMap fun
    | event e => some e
    | _ => none

def told (notes : List Note) : List Progress :=
  notes.filterMap fun
    | progress p => some p
    | _ => none

end Note
end RefPages.Harvest
