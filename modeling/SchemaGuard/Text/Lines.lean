/-!
# Line ends
-/

namespace SchemaGuard.Text

/-- Line ends as line feeds: a carriage return, alone or before a line feed, is one. -/
def lineFeeds : List Char → List Char
  | '\r' :: '\n' :: rest => '\n' :: lineFeeds rest
  | '\r' :: rest => '\n' :: lineFeeds rest
  | c :: rest => c :: lineFeeds rest
  | [] => []

end SchemaGuard.Text
