/-
The page that a reader of a browser sees where no other answer is given: a text with the characters that mean
something in a page written as names.
-/
import EnquiryMail.Http.Message

namespace EnquiryMail.Http.Page

/-- a character of a page -/
def escaped (c : Char) : List Char :=
  if c = '"' then "&quot;".toList
  else if c = '&' then "&amp;".toList
  else if c = '\'' then "&#39;".toList
  else if c = '<' then "&lt;".toList
  else if c = '>' then "&gt;".toList
  else if c = '\n' then "<br>".toList
  else [c]

/-- every second of adjacent blanks, written so that it shows -/
def spaced : List Char → List Char
  | ' ' :: ' ' :: rest => ' ' :: "&nbsp;".toList ++ spaced rest
  | c :: rest => c :: spaced rest
  | [] => []

/-- a page with a text -/
def ofText (text : String) : String :=
  "<!DOCTYPE html>\n<html lang=\"en\">\n<head>\n<meta charset=\"utf-8\">\n<title>Error</title>\n</head>\n<body>\n<pre>" ++
    String.ofList (spaced (text.toList.flatMap escaped)) ++ "</pre>\n</body>\n</html>\n"

end EnquiryMail.Http.Page
