import RefPages.Text.Basic

namespace RefPages.Text

def withoutReturn (line : Text) : Text :=
  if line.getLast? = some '\r' then line.dropLast else line

def lines (t : Text) : List Text :=
  let pieces := t.splitOn '\n'
  pieces.dropLast.map withoutReturn ++ (pieces.getLast?.toList.filter fun l => !l.isEmpty)

def joinLines (ls : List Text) : Text :=
  ['\n'].intercalate ls

end RefPages.Text
