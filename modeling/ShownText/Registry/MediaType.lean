import ShownText.Text.Blank

namespace ShownText.MediaType

def postScript : String := "application/postscript"

def plainText : String := "text/plain"

/-- Without parameters and blanks around it, and in ASCII lower case. -/
def canonical (mime : String) : String :=
  String.ofList ((Text.trim Text.isBlank (mime.toList.takeWhile (· != ';'))).map Char.toLower)

end ShownText.MediaType
