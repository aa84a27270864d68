import RefPages.Text.Blank

namespace RefPages.Text

def words (t : Text) : List Text :=
  (t.splitOnP isBlank).filter fun w => !w.isEmpty

def joinWords (ws : List Text) : Text :=
  [' '].intercalate ws

def collapse (t : Text) : Text :=
  joinWords (words t)

end RefPages.Text
