/-
Encoded words of header fields: `=?UTF-8?B?…?=` around base64 of the UTF-8 bytes. Writing always uses this form;
reading takes one word with blanks around it, the letters of its two markers in either case.
-/
import EnquiryMail.Text.Base64
import EnquiryMail.Text.Blank

namespace EnquiryMail.Mail

open EnquiryMail.Text

/-- the encoded word of a text -/
def encodeWord (text : List Char) : List Char :=
  "=?UTF-8?B?".toList ++ Base64.encode (Utf8.encode text) ++ ['?', '=']

/-- a character that may stand between the markers -/
def isWordChar (c : Char) : Bool := (c.isAlphanum || c == '+' || c == '/' || c == '=')

/-- the rest of `cs` behind an opening written in upper case, letters compared in either case -/
def afterOpening? : List Char → List Char → Option (List Char)
  | [], cs => some cs
  | m :: ms, c :: cs => if c.toUpper = m then afterOpening? ms cs else none
  | _ :: _, [] => none

/-- the text of a single encoded word -/
def decodeWord? (word : List Char) : Option (List Char) := do
  let body ← afterOpening? "=?UTF-8?B?".toList (trim word)
  let inner := body.takeWhile isWordChar
  if body.drop inner.length = ['?', '='] then some (Utf8.decode (Base64.decode inner)) else none

end EnquiryMail.Mail
