import RefPages.Command.Value

namespace RefPages.Command

def programName : Text :=
  "glerrors".toList

def version : Text :=
  programName ++ " 0.1.0\n".toList

def Key.usage (key : Key) : Text :=
  (match key.short? with
    | some c => ['-', c, ',', ' ']
    | none => "    ".toList) ++ key.label

def Key.meaning : Key → Text
  | .flag f => f.about.toList
  | .option o =>
    let choices := ", ".toList.intercalate (o.choices.map String.toList)
    o.about.toList ++ " [default: ".toList ++ o.default ++ [']'] ++
      if choices.isEmpty then [] else " [possible values: ".toList ++ choices ++ [']']

def usageWidth : Nat :=
  (Key.all.map fun key => key.usage.length).foldl max 0

def Key.helpLine (key : Key) : Text :=
  "  ".toList ++ key.usage ++ List.replicate (usageWidth + 2 - key.usage.length) ' ' ++
    key.meaning ++ ['\n']

def about : Text :=
  ("Collects every OpenGL function signature and the errors it can raise from the reference " ++
    "pages into a single text file.").toList

def help : Text :=
  about ++ "\n\nUsage: ".toList ++ programName ++ " [OPTIONS]\n\nOptions:\n".toList ++
    Key.all.flatMap Key.helpLine

def quoted (t : Text) : Text :=
  '\x27' :: t ++ ['\x27']

namespace Stop

def message : Stop → Text
  | noValue o =>
    "error: a value is required for ".toList ++ quoted (Key.option o).label ++
      " but none was supplied".toList
  | notAmong o value =>
    "error: invalid value ".toList ++ quoted value ++ " for ".toList ++
      quoted (Key.option o).label
  | badValue o value fault =>
    "error: invalid value ".toList ++ quoted value ++ " for ".toList ++
      quoted (Key.option o).label ++ ": ".toList ++ fault
  | unknown argument => "error: unexpected argument ".toList ++ quoted argument ++ " found".toList
  | repeated key =>
    "error: the argument ".toList ++ quoted key.label ++ " cannot be used multiple times".toList
  | needless f value =>
    "error: unexpected value ".toList ++ quoted value ++ " for ".toList ++
      quoted (Key.flag f).label ++ " found; no more were expected".toList
  | noWorkers => Misfit.noWorkers.message
  | help => Command.help
  | version => Command.version

def isAnswer : Stop → Bool
  | help | version => true
  | _ => false

end Stop
end RefPages.Command
