import RefPages.Markup.Builder.Receive

namespace RefPages.Markup

namespace Builder

def readAll (b : Builder) : Text → Builder
  | [] => b.receive .eof
  | c :: t =>
    let lexed := Lexer.next b.inForeign b.reading c t
    readAll (lexed.tokens.foldl receive { b with reading := lexed.reading }) lexed.rest
termination_by t => t.length
decreasing_by exact Lexer.next_rest_lt b.inForeign b.reading c t

end Builder

namespace Document

def parse (t : Text) : Document :=
  (({} : Builder).readAll (Lexer.prepare t)).draft.document

end Document
end RefPages.Markup
